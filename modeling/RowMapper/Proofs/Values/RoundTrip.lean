import Mathlib.Data.List.Nodup
import RowMapper.Kind
import RowMapper.Proofs.Values.DecimalText
import RowMapper.Proofs.Values.JsonText
/-!
Round trips. What a kind keeps of a value comes back from the database, and from the program, as the
same value. Decimals and documents go to the database as text.
-/

set_option autoImplicit false

namespace RowMapper

namespace Value

/-- What holds of every value that there is: the scale of a decimal is a signed word of 64 bits, and
the members of a document are in order. -/
def Proper : Value → Prop
  | .decimal d => Number.FitsInt64 d.scale
  | .json j => j.Ordered
  | _ => True

/-- The two are the same value. Decimals are the same if they are the same number. -/
def SameAs : Value → Value → Prop
  | .decimal a, .decimal b => a.value = b.value
  | a, b => a = b

theorem SameAs.refl (v : Value) : v.SameAs v := by
  cases v <;> rfl

end Value

namespace Kind

/-! ## What a kind keeps -/

/-- The value has the type of the kind. -/
def Holds : Kind → Value → Prop
  | .any, _ => True
  | .bool, .bool _ => True
  | .int, .int _ => True
  | .float, .float _ => True
  | .decimal, .decimal _ => True
  | .text, .text _ => True
  | .bytes, .bytes _ => True
  | .dateTime, .dateTime _ => True
  | .date, .date _ => True
  | .clock, .clock _ => True
  | .duration, .duration _ => True
  | .enumeration _, _ => True
  | .json, .json _ => True
  | _, _ => False

/-- A result that is a value is proper and has the type of the kind. -/
def Keeps (kind : Kind) (result : Except Error Value) : Prop :=
  ∀ w, result = .ok w → kind.Holds w ∧ w.Proper

theorem keeps_ok {kind : Kind} {w : Value} (holds : kind.Holds w) (proper : w.Proper) :
    Keeps kind (.ok w) := by
  intro w' same
  cases same
  exact ⟨holds, proper⟩

theorem keeps_error {kind : Kind} (e : Error) : Keeps kind (.error e) := by
  intro w same
  cases same

theorem keeps_branch {kind : Kind} {p : Prop} [Decidable p] {first second : Except Error Value}
    (whenTrue : Keeps kind first) (whenFalse : Keeps kind second) :
    Keeps kind (if p then first else second) := by
  split
  · exact whenTrue
  · exact whenFalse

theorem keeps_map {kind : Kind} {α : Type} {result : Except Error α} {f : α → Value}
    (fits : ∀ a, kind.Holds (f a) ∧ (f a).Proper) : Keeps kind (result.map f) := by
  cases result with
  | error e => exact keeps_error e
  | ok a => exact keeps_ok (fits a).1 (fits a).2

theorem keeps_ofTimestamp (seconds : Float) : Keeps .dateTime (ofTimestamp seconds) := by
  unfold ofTimestamp
  split
  · exact keeps_ok trivial trivial
  · exact keeps_error _

/-- What a kind accepts of a proper value is a proper value of the type of the kind. -/
theorem keeps_accept (kind : Kind) (source : Side) {v : Value} (proper : v.Proper) :
    Keeps kind (kind.accept source v) := by
  cases kind with
  | any => exact keeps_ok trivial proper
  | bool | float | text => cases v <;> first | exact keeps_ok trivial trivial | exact keeps_error _
  | int =>
    cases v with
    | decimal d =>
      simp only [accept]
      split
      · exact keeps_ok trivial trivial
      · exact keeps_error _
    | bool | int | float => exact keeps_ok trivial trivial
    | text | bytes | dateTime | date | clock | duration | json => exact keeps_error _
  | decimal =>
    cases v with
    | int n => exact keeps_ok trivial (by decide : Number.FitsInt64 0)
    | decimal d => exact keeps_ok trivial proper
    | text s =>
      refine keeps_branch ?_ (keeps_error _)
      split
      · next reads => exact keeps_ok trivial (Number.Decimal.read_fits reads)
      · exact keeps_error _
    | bool | float | bytes | dateTime | date | clock | duration | json => exact keeps_error _
  | dateTime =>
    cases v with
    | dateTime d => exact keeps_ok trivial trivial
    | text s => exact keeps_branch (keeps_map fun _ => ⟨trivial, trivial⟩) (keeps_error _)
    | int | float => exact keeps_branch (keeps_ofTimestamp _) (keeps_error _)
    | bool | decimal | bytes | date | clock | duration | json => exact keeps_error _
  | bytes | date | clock | duration =>
    cases v with
    | text s =>
      first
      | exact keeps_branch (keeps_ok trivial trivial) (keeps_error _)
      | exact keeps_branch (keeps_map fun _ => ⟨trivial, trivial⟩) (keeps_error _)
    | bool | int | float | decimal | bytes | dateTime | date | clock | duration | json =>
      first
      | exact keeps_ok trivial trivial
      | exact keeps_error _
      | exact keeps_branch (keeps_ok trivial trivial) (keeps_error _)
  | enumeration members =>
    refine keeps_branch (keeps_ok trivial proper) ?_
    split
    · exact keeps_ok trivial trivial
    · exact keeps_error _
  | json =>
    cases v with
    | json j => exact keeps_ok trivial proper
    | text s =>
      refine keeps_branch ?_ (keeps_error _)
      split
      · next reads => exact keeps_ok trivial (Json.read_ordered reads)
      · exact keeps_error _
    | bool | int | float | decimal | bytes | dateTime | date | clock | duration =>
      exact keeps_error _

/-- A kind accepts the values of its type as they are, from both sides. -/
theorem accept_of_holds {kind : Kind} {w : Value} (holds : kind.Holds w)
    (noMembers : ∀ members, kind ≠ .enumeration members) (side : Side) :
    kind.accept side w = .ok w := by
  cases kind with
  | any => rfl
  | enumeration members => exact (noMembers members rfl).elim
  | bool | int | float | decimal | text | bytes | dateTime | date | clock | duration | json =>
    cases w <;> first | exact holds.elim | rfl

/-! ## Enumerations -/

/-- Where no name stands twice, each name leads to the integer of its member. -/
theorem memberValue?_of_mem {members : List (String × Int64)} {name : String} {n : Int64}
    (distinct : (members.map Prod.fst).Nodup) (isMember : (name, n) ∈ members) :
    memberValue? members name = some n := by
  obtain ⟨last, isLast, found, fits⟩ :=
    findLast_of_mem (p := fun other => other.1 == name) isMember (beq_self_eq_true _)
  have same : last.1 = name := eq_of_beq fits
  obtain rfl := List.inj_on_of_nodup_map distinct isLast isMember same
  rw [memberValue?, found]
  rfl

/-! ## There and back -/

/-- What a kind hands to the database for a value that it keeps: decimals and documents travel as
text, and every other value as it is. -/
def Travels : Kind → Value → Value → Prop
  | .decimal, _, t | .json, _, t => ∃ text, t = .text text
  | _, w, t => t = w

/-- What a kind has accepted of a value goes to the database, and from there it comes back as the
same value; so it does from the program. Of documents this holds where all numbers are integers and
nothing stands deeper than 127 levels, and of the names of an enumeration where no name stands twice
and the integer is one of a member. -/
theorem accepted_values_come_back {kind : Kind} {source : Side} {v w : Value} (proper : v.Proper)
    (accepted : kind.accept source v = .ok w) :
    (∃ t, kind.present .database w = .ok t ∧ kind.Travels w t ∧
      ((∀ j, kind = .json → w = .json j → j.Integral ∧ j.depth ≤ 127) →
        ∃ w', kind.accept .database t = .ok w' ∧ w'.SameAs w)) ∧
    ((∀ members, kind = .enumeration members →
        (members.map Prod.fst).Nodup ∧ ∃ n ∈ members.map Prod.snd, w = .int n) →
      ∃ e w', kind.present .program w = .ok e ∧ kind.accept .program e = .ok w' ∧ w'.SameAs w) := by
  obtain ⟨holds, proper⟩ := keeps_accept kind source proper w accepted
  cases kind with
  | decimal =>
    cases w with
    | decimal d =>
      obtain ⟨d', reads, same⟩ := Number.Decimal.read_text (d := d) proper
      have back : Kind.decimal.accept .database (.text d.text) = .ok (.decimal d') := by
        simp only [accept, if_true, reads]
      exact ⟨⟨.text d.text, rfl, ⟨_, rfl⟩, fun _ => ⟨.decimal d', back, same⟩⟩,
        fun _ => ⟨_, _, rfl, rfl, .refl _⟩⟩
    | bool | int | float | text | bytes | dateTime | date | clock | duration | json =>
      exact holds.elim
  | json =>
    cases w with
    | json j =>
      refine ⟨⟨.text j.write, rfl, ⟨_, rfl⟩, fun documents => ⟨.json j, ?_, .refl _⟩⟩,
        fun _ => ⟨_, _, rfl, rfl, .refl _⟩⟩
      obtain ⟨integral, shallow⟩ := documents j rfl rfl
      simp only [accept, if_true, Json.read_write integral proper shallow]
    | bool | int | float | decimal | text | bytes | dateTime | date | clock | duration =>
      exact holds.elim
  | enumeration members =>
    refine ⟨⟨w, rfl, rfl, fun _ => ⟨w, rfl, .refl w⟩⟩, fun known => ?_⟩
    obtain ⟨distinct, n, isMember, rfl⟩ := known members rfl
    obtain ⟨name, named, inside⟩ := memberName?_of_mem isMember
    refine ⟨.text name, .int n, ?_, ?_, .refl _⟩
    · simp only [present, reduceCtorEq, if_false, named]
    · simp only [accept, reduceCtorEq, if_false, Value.asText, Option.bind_some,
        memberValue?_of_mem distinct inside]
  | any | bool | int | float | text | bytes | dateTime | date | clock | duration =>
    have again := accept_of_holds holds (fun _ => nofun)
    exact ⟨⟨w, rfl, rfl, fun _ => ⟨w, again .database, .refl w⟩⟩,
      fun _ => ⟨w, w, rfl, again .program, .refl w⟩⟩

def nestedDocument : Json := .object [("a", .array [.int (-1), .null]), ("b", .text "\"\n")]

/-- The document travels as text and comes back from the database and from the program. -/
theorem nestedDocument_comes_back :
    (∃ text w', Kind.json.present .database (.json nestedDocument) = .ok (.text text) ∧
      Kind.json.accept .database (.text text) = .ok w' ∧ w'.SameAs (.json nestedDocument)) ∧
    ∃ e w', Kind.json.present .program (.json nestedDocument) = .ok e ∧
      Kind.json.accept .program e = .ok w' ∧
      w'.SameAs (.json nestedDocument) := by
  have ordered : Value.Proper (.json nestedDocument) := by
    refine ⟨fun member isMember => ?_, ⟨trivial, trivial, trivial⟩, nofun, trivial, trivial⟩
    obtain rfl := List.mem_singleton.mp isMember
    decide
  have integral : nestedDocument.Integral :=
    ⟨⟨⟨by decide, by decide⟩, trivial, trivial⟩, trivial, trivial⟩
  have shallow : nestedDocument.depth ≤ 127 := by decide
  have accepted : Kind.json.accept .program (.json nestedDocument) = .ok (.json nestedDocument) :=
    rfl
  obtain ⟨⟨t, goes, ⟨text, rfl⟩, returns⟩, program⟩ := accepted_values_come_back ordered accepted
  obtain ⟨w', back, same⟩ := returns fun j _ same => by cases same; exact ⟨integral, shallow⟩
  exact ⟨⟨text, w', goes, back, same⟩, program nofun⟩

end Kind

end RowMapper
