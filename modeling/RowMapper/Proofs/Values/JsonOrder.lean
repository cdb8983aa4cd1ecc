import RowMapper.Json.Reader
/-!
The order of members. In a document the members of each object are sorted by key, and no key stands
twice. Whatever is read is such a document.
-/

set_option autoImplicit false

namespace RowMapper.Json

mutual

/-- The members of all objects are sorted by key, and no key stands twice. -/
def Ordered : Json → Prop
  | .array items => ItemsOrdered items
  | .object members => MembersOrdered members
  | _ => True

def ItemsOrdered : List Json → Prop
  | [] => True
  | item :: rest => Ordered item ∧ ItemsOrdered rest

def MembersOrdered : List (String × Json) → Prop
  | [] => True
  | (key, value) :: rest => (∀ member ∈ rest, key < member.1) ∧ Ordered value ∧ MembersOrdered rest

end

/-! ## Putting members in their place -/

/-- A member whose key is greater than all others comes last. -/
theorem insertMember_last {key : String} (value : Json) {done : List (String × Json)}
    (greatest : ∀ member ∈ done, member.1 < key) :
    insertMember key value done = done ++ [(key, value)] := by
  induction done with
  | nil => rfl
  | cons member rest ih =>
    obtain ⟨other, old⟩ := member
    have less : other < key := greatest (other, old) List.mem_cons_self
    have different : key ≠ other := by
      rintro rfl
      exact String.lt_irrefl key less
    simp only [insertMember, different, if_false, String.lt_asymm less, List.cons_append,
      ih fun member isMember => greatest member (List.mem_cons_of_mem _ isMember)]

theorem mem_insertMember {key : String} {value : Json} {members : List (String × Json)}
    {member : String × Json} (isMember : member ∈ insertMember key value members) :
    member = (key, value) ∨ member ∈ members := by
  induction members with
  | nil => exact .inl (List.mem_singleton.mp isMember)
  | cons first rest ih =>
    obtain ⟨other, old⟩ := first
    simp only [insertMember] at isMember
    split at isMember
    · rcases List.mem_cons.mp isMember with rfl | later
      · exact .inl rfl
      · exact .inr (List.mem_cons_of_mem _ later)
    split at isMember
    · exact List.mem_cons.mp isMember
    · rcases List.mem_cons.mp isMember with rfl | later
      · exact .inr List.mem_cons_self
      · rcases ih later with new | old
        · exact .inl new
        · exact .inr (List.mem_cons_of_mem _ old)

theorem insertMember_ordered {key : String} {value : Json} {members : List (String × Json)}
    (new : value.Ordered) (ordered : MembersOrdered members) :
    MembersOrdered (insertMember key value members) := by
  induction members with
  | nil => exact ⟨nofun, new, trivial⟩
  | cons first rest ih =>
    obtain ⟨other, old⟩ := first
    obtain ⟨least, inOrder, others⟩ := ordered
    simp only [insertMember]
    split
    · next same =>
      subst same
      exact ⟨least, new, others⟩
    split
    · next less =>
      refine ⟨fun member isMember => ?_, new, least, inOrder, others⟩
      rcases List.mem_cons.mp isMember with rfl | later
      · exact less
      · exact String.lt_trans less (least member later)
    · next different notLess =>
      refine ⟨fun member isMember => ?_, inOrder, ih others⟩
      rcases mem_insertMember isMember with rfl | later
      · exact Decidable.byContradiction fun notGreater =>
          different (String.le_antisymm notGreater notLess)
      · exact least member later

/-! ## What is read -/

/-- A result of the reader that is a document is in order. -/
def Yields (result : Except Stop (Json × List Char)) : Prop :=
  ∀ j rest, result = .ok (j, rest) → j.Ordered

theorem yields_stop (stop : Stop) : Yields (.error stop) := nofun

theorem yields_ok {j : Json} (ordered : j.Ordered) (rest : List Char) : Yields (.ok (j, rest)) := by
  intro j' rest' same
  cases same
  exact ordered

theorem yields_int (n : Int) (rest : List Char) : Yields (.ok (.int n, rest)) :=
  yields_ok (by trivial) rest

theorem yields_real (x : Float) (rest : List Char) : Yields (.ok (.real x, rest)) :=
  yields_ok (by trivial) rest

theorem yields_bind {α : Type} {first : Except Stop (α × List Char)} {f : α → Json}
    (ordered : ∀ a rest, first = .ok (a, rest) → (f a).Ordered) :
    Yields (do let (a, rest) ← first; return (f a, rest)) := by
  cases first with
  | error stop => exact yields_stop stop
  | ok both => exact yields_ok (ordered both.1 both.2 rfl) both.2

theorem yields_readWord {value : Json} (ordered : value.Ordered) (word rest : List Char) :
    Yields (readWord value word rest) := by
  induction word generalizing rest with
  | nil => exact yields_ok ordered rest
  | cons c word ih =>
    cases rest with
    | nil => exact yields_stop _
    | cons d rest =>
      simp only [readWord]
      split
      · exact ih rest
      · exact yields_stop _

theorem yields_finishReal (negative : Bool) (significand : Nat) (exponent : Int)
    (rest : List Char) :
    Yields (finishReal negative significand exponent rest) := by
  unfold finishReal
  split
  · exact yields_stop _
  · exact yields_real _ rest

theorem yields_readExponent (negative : Bool) (significand : Nat) (places : Int)
    (text : List Char) :
    Yields (readExponent negative significand places text) := by
  unfold readExponent
  dsimp only
  repeat' split
  all_goals first | exact yields_stop _ | exact yields_finishReal _ _ _ _ | exact yields_real _ _

theorem yields_readScale (negative : Bool) (significand : Nat) (places : Int) (text : List Char) :
    Yields (readScale negative significand places text) := by
  unfold readScale
  split
  · exact yields_readExponent _ _ _ _
  · exact yields_readExponent _ _ _ _
  · exact yields_finishReal _ _ _ _

theorem yields_readPlaces (negative : Bool) (significand : Nat) (exponent : Int)
    (text : List Char) :
    Yields (readPlaces negative significand exponent text) := by
  unfold readPlaces
  dsimp only
  repeat' split
  all_goals first
    | exact yields_stop _
    | exact yields_readScale _ _ _ _
    | exact yields_finishReal _ _ _ _

theorem yields_readIntegerEnd (negative : Bool) (significand : Nat) (text : List Char) :
    Yields (readIntegerEnd negative significand text) := by
  unfold readIntegerEnd
  repeat' split
  all_goals first
    | exact yields_readPlaces _ _ _ _
    | exact yields_readExponent _ _ _ _
    | exact yields_int _ _
    | exact yields_real _ _

theorem yields_readNumber (negative : Bool) (text : List Char) :
    Yields (readNumber negative text) := by
  unfold readNumber readLong
  dsimp only
  repeat' split
  all_goals first
    | exact yields_stop _
    | exact yields_readIntegerEnd _ _ _
    | exact yields_readPlaces _ _ _ _
    | exact yields_readScale _ _ _ _

/-- With so much fuel, what is read is in order. -/
structure Orders (fuel : Nat) : Prop where
  value : ∀ levels source, Yields (readValue fuel levels source)
  items : ∀ levels first source items rest, readItems fuel levels first source = .ok (items, rest) →
    ItemsOrdered items
  members : ∀ levels first done source members rest, MembersOrdered done →
    readMembers fuel levels first done source = .ok (members, rest) → MembersOrdered members

section

variable {fuel levels : Nat} {first : Bool} {source rest : List Char}

theorem readItems_ordered (orders : Orders fuel) {items : List Json}
    (reads : readItems (fuel + 1) levels first source = .ok (items, rest)) :
    ItemsOrdered items := by
  simp only [readItems, bind, Except.bind] at reads
  cases starts : nextItem first source with
  | error stop => simp only [starts, reduceCtorEq] at reads
  | ok found =>
    cases found with
    | none =>
      simp only [starts] at reads
      cases reads
      trivial
    | some body =>
      cases item : readValue fuel levels body with
      | error stop => simp only [starts, item, reduceCtorEq] at reads
      | ok value =>
        cases others : readItems fuel levels false value.2 with
        | error stop => simp only [starts, item, others, reduceCtorEq] at reads
        | ok more =>
          simp only [starts, item, others] at reads
          cases reads
          exact ⟨orders.value _ _ _ _ item, orders.items _ _ _ _ _ others⟩

theorem readMembers_ordered (orders : Orders fuel) {done members : List (String × Json)}
    (ordered : MembersOrdered done)
    (reads : readMembers (fuel + 1) levels first done source = .ok (members, rest)) :
    MembersOrdered members := by
  simp only [readMembers, bind, Except.bind] at reads
  cases starts : nextMember first source with
  | error stop => simp only [starts, reduceCtorEq] at reads
  | ok found =>
    cases found with
    | none =>
      simp only [starts] at reads
      cases reads
      exact ordered
    | some body =>
      cases key : readText (body.length + 1) [] body with
      | error stop => simp only [starts, key, reduceCtorEq] at reads
      | ok name =>
        cases colon : afterColon name.2 with
        | error stop => simp only [starts, key, colon, reduceCtorEq] at reads
        | ok text =>
          cases member : readValue fuel levels text with
          | error stop => simp only [starts, key, colon, member, reduceCtorEq] at reads
          | ok value =>
            simp only [starts, key, colon, member] at reads
            exact orders.members _ _ _ _ _ _
              (insertMember_ordered (orders.value _ _ _ _ member) ordered) reads

theorem yields_readValue (orders : Orders fuel) : Yields (readValue (fuel + 1) levels source) := by
  unfold readValue
  split
  · exact yields_stop _
  · exact yields_readWord (by trivial) _ _
  · exact yields_readWord (by trivial) _ _
  · exact yields_readWord (by trivial) _ _
  · exact yields_readNumber _ _
  · exact yields_bind (f := .text) fun _ _ _ => trivial
  · split
    · exact yields_stop _
    · exact yields_bind (f := .array) fun _ _ reads => orders.items _ _ _ _ _ reads
  · split
    · exact yields_stop _
    · exact yields_bind (f := .object) fun _ _ reads => orders.members _ _ [] _ _ _ trivial reads
  · split
    · exact yields_readNumber _ _
    · exact yields_stop _

end

theorem orders (fuel : Nat) : Orders fuel := by
  induction fuel with
  | zero => exact ⟨fun _ _ => yields_stop _, nofun, nofun⟩
  | succ fuel ih =>
    exact ⟨fun _ _ => yields_readValue ih, fun _ _ _ _ _ => readItems_ordered ih,
      fun _ _ _ _ _ _ => readMembers_ordered ih⟩

/-- Every document that is read has its members in order. -/
theorem read_ordered {text : String} {j : Json} (reads : read text = .ok j) : j.Ordered := by
  unfold read at reads
  cases done : readDocument text.toList with
  | error stop => simp only [done, reduceCtorEq] at reads
  | ok j' =>
    simp only [done] at reads
    cases reads
    simp only [readDocument, bind, Except.bind] at done
    cases value : readValue (2 * text.toList.length + 2) 128 text.toList with
    | error stop => simp only [value, reduceCtorEq] at done
    | ok both =>
      have ordered := (orders _).value _ _ _ _ value
      simp only [value] at done
      split at done
      · cases done
        exact ordered
      · cases done

end RowMapper.Json
