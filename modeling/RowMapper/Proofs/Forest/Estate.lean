import RowMapper.Proofs.Forest.References
import RowMapper.Proofs.Hierarchy.Default
import RowMapper.Proofs.Hierarchy.WellFormed
/-!
A forest in use: a program creates hierarchies and children, clones and drops handles, changes
tables and registers handlers that own handles, in any order. After every such move every hierarchy
of the forest is well formed for the handles that the program holds and for those that its handlers
own. A handler owns what it was given exactly as long as a table has an entry for it.
-/

set_option autoImplicit false

namespace RowMapper

variable {H P : Type}

theorem reference?_standard :
    ∀ handler ∈ (Tables.standard Handler.builtin).handlers.values, handler.reference? = none := by
  decide

namespace Forest

def founding (f : Forest P) (own : Tables Handler) : Forest P :=
  { f with hierarchies := f.hierarchies ++ [.lone own] }

/-- The handle of the compiler of the next hierarchy. -/
def founder (f : Forest P) : Handle := ⟨f.hierarchies.length, 0⟩

variable (f : Forest P) (references : List Reference) (own : Tables Handler)

theorem create_lone : f.create (.lone own) = (f.founder, f.founding own) := rfl

theorem length_founding : (f.founding own).hierarchies.length = f.hierarchies.length + 1 := by
  rw [founding, List.length_append, List.length_singleton]

theorem holders_founding (h : Handle) :
    (f.founding own).holders (.handle f.founder :: references) h = f.holders references h +
      if f.founder = h then 1 else 0 := by
  have same : (f.founding own).owned = f.owned := rfl
  simp only [holders, same, List.count_cons, beq_iff_eq, Reference.handle.injEq]
  omega

theorem users_founding (builtin : ∀ handler ∈ own.handlers.values, handler.reference? = none)
    (id : HandlerId) :
    (f.founding own).users (.handle f.founder :: references) id = f.users references id := by
  have absent : own.handlers.values.count (.custom id) = 0 := by
    rw [List.count_eq_zero]
    intro member
    cases builtin _ member
  have entries : (f.founding own).entries = f.entries ++ own.handlers.values := by
    simp [founding, Forest.entries, Hierarchy.entries, Hierarchy.lone, Hierarchy.entriesIn]
  rw [users, users, List.count_cons_of_ne (by simp), entries, List.count_append,
    absent, Nat.add_zero]

end Forest

/-- A hierarchy of one compiler comes, with tables that no handler of the program is in. -/
theorem Forest.Holds.create {f : Forest P} {references : List Reference}
    {born : Nat → List (Nat × Nat)} {given : List (List Handle)}
    (holds : f.Holds references born given) (edits : List (Edit Handler))
    (builtin : ∀ handler ∈ (Edit.tables edits).handlers.values, handler.reference? = none) :
    (f.create (.lone (Edit.tables edits))).2.Holds
      (.handle (f.create (.lone (Edit.tables edits))).1 :: references) born given := by
  have reached := Usage.reachable_lone edits
  have unborn := births_edited 0 edits.reverse
  generalize edits.reverse.map (Event.edited 0) = past at reached unborn
  generalize Edit.tables edits = own at builtin reached
  have holders := f.holders_founding references own
  have users := f.users_founding references own builtin
  rw [Forest.create_lone]
  dsimp only
  constructor
  case used =>
    intro i h found
    by_cases last : i = f.hierarchies.length
    · subst last
      rw [Forest.founding, List.getElem?_concat_length, Option.some.injEq] at found
      refine ⟨_, reached, found, unborn.trans (holds.unborn (Nat.le_refl _)).symm, fun slot => ?_⟩
      have vacant : f.holders references ⟨f.hierarchies.length, slot⟩ = 0 := by
        by_contra held
        exact Nat.lt_irrefl _ (holds.placed (Nat.pos_of_ne_zero held))
      rw [holders, vacant, Forest.founder]
      simp only [Handle.mk.injEq, true_and, List.count_cons, List.count_nil, beq_iff_eq]
    · have inside := (List.getElem?_eq_some_iff.mp found).1
      rw [Forest.length_founding] at inside
      rw [Forest.founding, List.getElem?_append_left (by omega)] at found
      obtain ⟨u, before, same, births, held⟩ := holds.used found
      refine ⟨u, before, same, births, fun slot => ?_⟩
      rw [holders, held, if_neg fun same => last (congrArg Handle.hierarchy same).symm,
        Nat.add_zero]
  case unborn =>
    intro i beyond
    rw [Forest.length_founding] at beyond
    exact holds.unborn (by omega)
  case placed =>
    intro h held
    rw [Forest.length_founding]
    rw [holders] at held
    by_cases new : f.founder = h
    · subst new
      exact Nat.lt_succ_self _
    · rw [if_neg new] at held
      exact Nat.lt_succ_of_lt (holds.placed held)
  case counted => exact fun {id _} found => (holds.counted found).trans (users id).symm
  case known => exact fun {id} used => holds.known (users id ▸ used)
  case owns => exact holds.owns
  case recorded => exact holds.recorded

/-! ## A forest in use -/

/-- A forest in use, with the handles that the program holds, once for each, with the births in each
hierarchy, the latest first, and with the handles that each handler was given. -/
structure Estate (P : Type) where
  forest : Forest P
  held : List Handle
  born : Nat → List (Nat × Nat)
  given : List (List Handle)

/-- What a program does with a forest. -/
inductive Move (P : Type) where
  | createRoot
  | createStandard
  | createChild (parent : Handle)
  | clone (h : Handle)
  | drop (h : Handle)
  | register (h : Handle) (tags : List Tag) (program : P) (owned : List Handle)
  | setPrecedence (h : Handle) (precedence : Int) (tags : List Tag)
  | markWords (h : Handle) (reserved : Bool) (words : List String)

namespace Estate

def initial : Estate P := ⟨.empty, [], fun _ => [], []⟩

/-- The handles that handlers own: what each handler was given, if a table has an entry for it. -/
def owned (s : Estate P) : List Handle :=
  s.given.zipIdx.flatMap fun (handles, id) => if .custom id ∈ s.forest.entries then handles else []

/-- The outstanding handles: those that the program holds and those that handlers own. -/
def outstanding (s : Estate P) : List Handle := s.held ++ s.owned

/-- The forest after a move, with what the program has then. -/
def move (s : Estate P) : Move P → Estate P
  | .createRoot =>
    let (h, forest) := s.forest.create .root
    { s with forest, held := h :: s.held }
  | .createStandard =>
    let (h, forest) := s.forest.create (.standard .builtin)
    { s with forest, held := h :: s.held }
  | .createChild parent =>
    let (child, forest) := s.forest.createChild parent
    let births := (child.slot, parent.slot) :: s.born parent.hierarchy
    { s with
      forest
      held := child :: s.held
      born := Function.update s.born parent.hierarchy births }
  | .clone h => { s with forest := s.forest.addHandle h, held := h :: s.held }
  | .drop h => { s with forest := s.forest.release h, held := s.held.erase h }
  | .register h tags program owned =>
    { s with forest := s.forest.register h tags program owned, given := s.given ++ [owned] }
  | .setPrecedence h precedence tags =>
    { s with forest := s.forest.setPrecedence h precedence tags }
  | .markWords h reserved words => { s with forest := s.forest.markWords h reserved words }

/-- A move is made on outstanding handles, and only a handle that the program holds is dropped by
it. -/
def Allows (s : Estate P) : Move P → Prop
  | .createRoot | .createStandard => True
  | .createChild h | .clone h | .setPrecedence h _ _ | .markWords h _ _ => h ∈ s.outstanding
  | .drop h => h ∈ s.held
  | .register h _ _ owned => h ∈ s.outstanding ∧ ∀ o ∈ owned, o ∈ s.outstanding

instance (s : Estate P) (m : Move P) : Decidable (s.Allows m) :=
  match m with
  | .createRoot | .createStandard => inferInstanceAs (Decidable True)
  | .createChild h | .clone h | .setPrecedence h _ _ | .markWords h _ _ =>
    inferInstanceAs (Decidable (h ∈ s.outstanding))
  | .drop h => inferInstanceAs (Decidable (h ∈ s.held))
  | .register h _ _ owned =>
    inferInstanceAs (Decidable (h ∈ s.outstanding ∧ ∀ o ∈ owned, o ∈ s.outstanding))

inductive Reachable : Estate P → Prop
  | initial : Reachable .initial
  | move {s : Estate P} {m : Move P} (reached : Reachable s) (allowed : s.Allows m) :
      Reachable (s.move m)

def Sound (s : Estate P) : Prop := s.forest.Holds (s.held.map .handle) s.born s.given

namespace Sound

variable {s : Estate P}

theorem owned_eq (sound : s.Sound) : s.owned = s.forest.owned := by
  have each : (s.given.zipIdx.map fun (handles, id) =>
      if .custom id ∈ s.forest.entries then handles else []) =
        s.forest.handlers.map CustomHandler.owned := by
    apply List.ext_getElem
    · simp [sound.recorded]
    · intro id inside inside'
      rw [List.length_map] at inside'
      have there : s.forest.handlers[id]? = some s.forest.handlers[id] :=
        List.getElem?_eq_getElem inside'
      have within : id < s.given.length := sound.recorded ▸ inside'
      have owns := sound.owns there
      have counted := sound.counted there
      rw [Forest.users, count_handler_owned, Nat.zero_add] at counted
      simp only [counted, List.count_eq_zero] at owns
      simp only [List.getElem_map, List.getElem_zipIdx, Nat.zero_add, owns,
        List.getElem?_eq_getElem within, Option.getD_some, ite_not]
  rw [owned, Forest.owned, List.flatMap_def, List.flatMap_def, each]

theorem count_outstanding (sound : s.Sound) (h : Handle) :
    s.outstanding.count h = s.forest.holders (s.held.map .handle) h := by
  rw [outstanding, List.count_append, sound.owned_eq, Forest.holders, count_handle_owned]

theorem initial : (Estate.initial : Estate P).Sound := by
  constructor <;>
    simp [Estate.initial, Forest.empty, Forest.holders, Forest.users, Forest.owned, Forest.entries]

theorem move (sound : s.Sound) {m : Move P} (allowed : s.Allows m) : (s.move m).Sound := by
  have holders : ∀ h ∈ s.outstanding, 0 < s.forest.holders (s.held.map .handle) h := by
    intro h member
    rw [← sound.count_outstanding]
    exact List.count_pos_iff.mpr member
  cases m with
  | createRoot =>
    have bare : (Edit.tables ([] : List (Edit Handler))).handlers.values = [] := rfl
    exact Forest.Holds.create sound [] (by simp [bare])
  | createStandard =>
    have created := Forest.Holds.create sound (Edit.standard .builtin)
    rw [Edit.tables_standard] at created
    exact created reference?_standard
  | createChild h => exact Forest.Holds.createChild sound (holders h allowed)
  | clone h => exact Forest.Holds.addHandle sound (holders h allowed)
  | drop h =>
    have released := Forest.Holds.release sound (List.mem_map_of_mem allowed)
    rwa [← List.map_erase fun _ _ same => Reference.handle.inj same] at released
  | register h tags program owned =>
    have placed : ∀ o ∈ owned, 0 < s.forest.holders (s.held.map .handle) o :=
      fun o member => holders o (allowed.2 o member)
    exact Forest.Holds.register sound (holders h allowed.1) tags program placed
  | setPrecedence h precedence tags =>
    exact Forest.Holds.setPrecedence sound (holders h allowed) precedence tags
  | markWords h reserved words =>
    exact Forest.Holds.markWords sound (holders h allowed) reserved words

end Sound

theorem Reachable.sound {s : Estate P} (reached : s.Reachable) : s.Sound := by
  induction reached with
  | initial => exact Sound.initial
  | move _ allowed ih => exact ih.move allowed

/-- Whatever moves a program makes, every outstanding handle is on a hierarchy of the forest, and
every hierarchy is well formed for the outstanding handles on it. -/
theorem hierarchies_wellFormed {s : Estate P} (reached : s.Reachable) :
    (∀ h ∈ s.outstanding, h.hierarchy < s.forest.hierarchies.length) ∧
    ∀ i < s.forest.hierarchies.length,
      (s.forest.hierarchy i).WellFormed (fun slot => s.outstanding.count ⟨i, slot⟩) (s.born i) := by
  have sound := reached.sound
  constructor
  · intro h member
    exact Forest.Holds.placed sound (sound.count_outstanding h ▸ List.count_pos_iff.mpr member)
  · intro i inside
    have there : s.forest.hierarchies[i]? = some (s.forest.hierarchy i) := by
      simp only [Forest.hierarchy, List.getElem?_eq_getElem inside, Option.getD_some]
    obtain ⟨u, used, same, born, held⟩ := Forest.Holds.used sound there
    have wellFormed := used.wellFormed
    have counts : (fun slot => u.held.count slot) = fun slot => s.outstanding.count ⟨i, slot⟩ := by
      funext slot
      rw [held, sound.count_outstanding]
    rwa [same, born, counts] at wellFormed

/-- A handler on the root owns a handle on a grandchild; the program drops its own handles below the
root. -/
def ownedGrandchild : Estate Unit :=
  (((((initial.move .createRoot).move (.createChild ⟨0, 0⟩)).move (.createChild ⟨0, 1⟩)).move
    (.register ⟨0, 0⟩ [.token] () [⟨0, 2⟩])).move (.drop ⟨0, 2⟩)).move (.drop ⟨0, 1⟩)

theorem ownedGrandchild_reachable : ownedGrandchild.Reachable := by
  refine .move (.move (.move (.move (.move (.move .initial ?_) ?_) ?_) ?_) ?_) ?_
  all_goals decide +kernel

/-- Three compilers are there. When another handler takes the place of the one that owns the handle,
the root is left alone. -/
theorem ownedGrandchild_wellFormed :
    ownedGrandchild.Reachable ∧ (ownedGrandchild.forest.hierarchy 0).size = 3 ∧
    (ownedGrandchild.forest.hierarchy 0).WellFormed
      (fun slot => [(⟨0, 0⟩ : Handle), ⟨0, 2⟩].count ⟨0, slot⟩) [(2, 1), (1, 0)] ∧
    let replaced := ownedGrandchild.move (.register ⟨0, 0⟩ [.token] () [])
    (replaced.forest.hierarchy 0).size = 1 ∧
    (replaced.forest.hierarchy 0).WellFormed
      (fun slot => [(⟨0, 0⟩ : Handle)].count ⟨0, slot⟩) [(2, 1), (1, 0)] := by
  let replaced := ownedGrandchild.move (.register ⟨0, 0⟩ [.token] () [])
  have reached : replaced.Reachable := .move ownedGrandchild_reachable (by decide +kernel)
  have before := (hierarchies_wellFormed ownedGrandchild_reachable).2 0 (by decide +kernel)
  have after := (hierarchies_wellFormed reached).2 0 (by decide +kernel)
  have outstanding : ownedGrandchild.outstanding = [⟨0, 0⟩, ⟨0, 2⟩] := by decide +kernel
  have left : replaced.outstanding = [⟨0, 0⟩] := by decide +kernel
  have born : ownedGrandchild.born 0 = [(2, 1), (1, 0)] := by decide +kernel
  rw [outstanding, born] at before
  rw [left] at after
  exact ⟨ownedGrandchild_reachable, by decide +kernel, before, by decide +kernel, born ▸ after⟩

end Estate

end RowMapper
