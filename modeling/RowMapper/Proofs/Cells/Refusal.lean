import Mathlib.Tactic.FinCases
import RowMapper.Proofs.Bus.Snapshot
import RowMapper.Proofs.Cells.Runs
/-!
Refusals. Before a value, or null, is put into a cell, the validator may refuse it, and then the
cell: where null is not allowed, where its kind does not accept the value, and where the program
could not read what the database brings. No refusal touches the content of the cell or its
checkpoint, and none is announced. A lazy value that waits goes on waiting where the validator
refuses; where the cell does, it is gone.
-/

set_option autoImplicit false

namespace RowMapper

variable {υ : Type}

namespace Cell

/-! ## What a cell refuses -/

/-- A cell refuses a value, or null, from one side. -/
inductive Refuses (c : Cell) : Side → Option Value → Error → Prop
  /-- Null is not allowed. -/
  | null {source : Side} (required : c.allowNull = false) :
      Refuses c source none (.nullNotAllowed (c.column.map Column.qualifiedName))
  /-- The kind does not accept the value. -/
  | unaccepted {source : Side} {v : Value} {e : Error}
      (failed : c.kind.accept source v = .error e) :
      Refuses c source (some v) e
  /-- The program could not read what the kind makes of a value of the database. -/
  | unreadable {v kept : Value} {e : Error} (accepted : c.kind.accept .database v = .ok kept)
      (failed : c.kind.present .program kept = .error e) : Refuses c .database (some v) e

theorem take_eq_error_iff {c : Cell} {v : Option Value} {source : Side} {e : Error} :
    c.take v source = .error e ↔ c.Refuses source v e := by
  constructor
  · intro failed
    cases v with
    | none =>
      simp only [take] at failed
      split at failed
      · cases failed
      · cases failed
        exact .null (Bool.eq_false_iff.mpr ‹_›)
    | some v =>
      simp only [take, bind, Except.bind] at failed
      cases accepted : c.kind.accept source v with
      | error e' =>
        rw [accepted] at failed
        cases failed
        exact .unaccepted accepted
      | ok kept =>
        simp only [accepted] at failed
        cases source with
        | program => cases failed
        | database =>
          cases presented : c.kind.present .program kept with
          | ok shown =>
            simp only [presented] at failed
            cases failed
          | error e' =>
            simp only [presented] at failed
            cases failed
            exact .unreadable accepted presented
  · intro refuses
    cases refuses with
    | null required => simp only [take, required, Bool.false_eq_true, ↓reduceIte]
    | unaccepted failed => simp only [take, failed, bind, Except.bind]
    | unreadable accepted failed => simp only [take, accepted, failed, bind, Except.bind]

/-- An assignment of a value, or of null, to a cell is refused: with which error, in which world the
validator leaves it, and which lazy value waits then. -/
inductive Refusal (foreign : Foreign υ) (c : Cell) (v : Option Value) (source : Side)
    (w : World υ) :
    Error → World υ → Option Lazy → Prop
  | byValidator {e : Error} {after : World υ}
      (refused : judge foreign c v source w = (.error e, after)) :
      Refusal foreign c v source w e after c.state.lazy
  | byCell {judged : Option Value} {e : Error} {after : World υ}
      (passed : judge foreign c v source w = (.ok judged, after))
      (refused : c.Refuses source judged e) :
      Refusal foreign c v source w e after none

/-! ## What an assignment does behind the validator -/

section

variable {foreign : Foreign υ} {w after : World υ} {id : CellId} {c : Cell}
    {v judged : Option Value} {source : Side} {e : Error}

theorem set_of_unjudged (there : w.store.cells[id]? = some c)
    (judges : judge foreign c v source w = (.error e, after)) :
    set foreign id (.settled v) source w = (.error e, after) := by
  rw [set_settled, assign_of_there foreign id there, Act.bind_of_error _ _ _ _ _ judges]

theorem set_of_judged (there : w.store.cells[id]? = some c)
    (judges : judge foreign c v source w = (.ok judged, after))
    (still : after.store.cells[id]? = some c) :
    set foreign id (.settled v) source w = placeNow foreign id judged source after := by
  rw [set_settled, assign_of_there foreign id there, Act.bind_of_ok _ _ _ _ _ judges,
    place_of_alike foreign id still (.refl c)]

end

end Cell

/-! ## Refusals keep the content and the checkpoint -/

/-- An assignment of a value, or of null, whose validator leaves the cell as it was. Every refusal
is the error of the assignment. It leaves the world that the validator leaves, but for the lazy
value that waits: that one goes on waiting if the validator refuses, and is gone if the cell does.
In particular the content and the checkpoint of the cell are as before. This is so whatever the
callbacks of the program would do, so none of them is called. An assignment fails otherwise only
behind the change, where the cell holds the new content and its announcement fails. -/
theorem refused_assignment_keeps_content {foreign : Foreign υ} {w : World υ}
    {id : CellId} {c : Cell} {v : Option Value} {source : Side}
    (there : w.store.cells[id]? = some c)
    (untouched : (Cell.judge foreign c v source w).2.store.cells[id]? = some c) :
    (∀ e after lazy, Cell.Refusal foreign c v source w e after lazy →
      ∀ foreign' : Foreign υ, Cell.judge foreign' c v source w = Cell.judge foreign c v source w →
        Cell.set foreign' id (.settled v) source w =
          (.error e, after.withCell id { c with state := { c.state with lazy } })) ∧
    ∀ e done, Cell.set foreign id (.settled v) source w = (.error e, done) →
      (∃ after lazy, Cell.Refusal foreign c v source w e after lazy) ∨
      ∃ judged after new shown, Cell.judge foreign c v source w = (.ok judged, after) ∧
        c.take judged source = .ok (new, shown) ∧
        Cell.report foreign id c (.slot shown) source
        (after.withCell id { c with state := ⟨none, new⟩ }) =
          (.error e, done) := by
  constructor
  · intro e after lazy refusal foreign' same
    cases refusal with
    | byValidator refused =>
      rw [refused] at untouched
      rw [Cell.set_of_unjudged there (same.trans refused), World.withCell_self untouched]
    | byCell passed refused =>
      rw [passed] at untouched
      have refused := Cell.take_eq_error_iff.mpr refused
      rw [Cell.set_of_judged there (same.trans passed) untouched,
        (Cell.begins_place foreign' id _ source).present after c untouched]
      simp only [refused, Deed.apply, Act.fail]
  · intro e done failed
    cases judges : Cell.judge foreign c v source w with
    | mk outcome after =>
      rw [judges] at untouched
      cases outcome with
      | error e' =>
        rw [Cell.set_of_unjudged there judges] at failed
        cases failed
        exact .inl ⟨_, _, .byValidator judges⟩
      | ok judged =>
        rw [Cell.set_of_judged there judges untouched,
          (Cell.begins_place foreign id judged source).present after c untouched] at failed
        cases taken : c.take judged source with
        | error e' =>
          simp only [taken, Act.fail] at failed
          cases failed
          exact .inl ⟨after, none, .byCell judges (Cell.take_eq_error_iff.mp taken)⟩
        | ok both =>
          obtain ⟨new, shown⟩ := both
          simp only [taken, Deed.apply] at failed
          split at failed
          · exact .inr ⟨judged, after, new, shown, rfl, taken, failed⟩
          · cases failed

/-- A rule for integers that lets through what is not negative, and callbacks that log their
arguments. -/
def guarding : Foreign (List (List Arg)) :=
  { Foreign.ofCall fun _ _ args w => (.ok .keep, { w with user := w.user ++ [args] }) with
    validate := fun _ _ name v =>
      match v with
      | some (.int n) => if n < 0 then Act.fail (.validation (name ++ " is negative")) else pure v
      | _ => pure v }

/-- A cell with that rule that does not allow null and has waited for a lazy value since a
checkpoint. -/
def awaitingCell : Cell :=
  ⟨.int, false, none, some 0, some ⟨0, "age", none⟩, ⟨some .reload, .undefined⟩,
    some ⟨some .reload, .undefined⟩⟩

def awaiting : World (List (List Arg)) where
  store := { Store.empty with
    cells := [awaitingCell]
    buses := [(Bus.ofOwner (.actor 0)).hook Cell.changedEvent ⟨0, []⟩]
    actors := [1] }
  user := []

/-- Where the validator refuses a negative integer, all is as before. Where the cell refuses a text,
it only waits no longer: it remembers the checkpoint, and nothing is logged. -/
theorem awaiting_refuses :
    Cell.set guarding 0 (.settled (some (.int (-1)))) .program awaiting =
      (.error (.validation "age is negative"), awaiting) ∧
    Cell.set guarding 0 (.settled (some (.text "x"))) .program awaiting =
      (.error (.type (.mismatch "int" (.text "x"))),
        awaiting.withCell 0 { awaitingCell with state := ⟨none, .undefined⟩ }) := by
  have negative : Cell.judge guarding awaitingCell (some (.int (-1))) .program awaiting =
      (.error (.validation "age is negative"), awaiting) := rfl
  have passed : Cell.judge guarding awaitingCell (some (.text "x")) .program awaiting =
      (.ok (some (.text "x")), awaiting) := rfl
  constructor
  · exact (refused_assignment_keeps_content (c := awaitingCell) rfl rfl).1 _ _ _
      (.byValidator negative) guarding rfl
  · exact (refused_assignment_keeps_content (c := awaitingCell) rfl rfl).1 _ _ _
      (.byCell passed (.unaccepted rfl))
      guarding rfl

/-- Three new cells, of which the first does not allow null and the last is of an enumeration. -/
def undecided : World Unit where
  store := { Store.empty with
    cells := [⟨.int, false, none, none, none, .initial, none⟩,
      ⟨.int, true, none, none, none, .initial, none⟩,
      ⟨.enumeration [("low", 1)], true, none, none, none, .initial, none⟩] }
  user := ()

/-- Assigns a lazy value to each of them. -/
def postpone : Act (World Unit) Unit := do
  let silent : Foreign Unit := .ofCall fun _ _ _ => pure .keep
  Cell.set silent 0 (.lazy .reload) .program
  Cell.set silent 1 (.lazy .reload) .program
  Cell.set silent 2 (.lazy .reload) .program

theorem postpone_accompanied : ∃ companion, Journals False postpone companion := by
  let silent : Foreign (Journaled Unit) := .ofCall fun _ _ _ => pure .keep
  refine ⟨do
    Journal.set silent 0 (.lazy .reload) .program
    Journal.set silent 1 (.lazy .reload) .program
    Journal.set silent 2 (.lazy .reload) .program, ?_⟩
  have sets : ∀ id, Journals False
      (Cell.set (.ofCall fun _ _ _ => pure .keep) id (.lazy .reload) .program)
      (Journal.set silent id (.lazy .reload) .program) := fun id =>
    .set (fun _ _ _ => .pure _) (fun _ _ _ _ => .pure _) _ _ _
  exact .bind (sets 0) fun _ => .bind (sets 1) fun _ => sets 2

/-- Each of the three ways in which a cell refuses an assignment takes its lazy value away. -/
theorem refused_assignments_drop_lazy_values :
    (∃ journal, (postpone undecided).2.Within False undecided.store.cells journal) ∧
    ∀ assignment ∈ [(0, none, .program), (1, some (.text "x"), .program),
      (2, some (.int 7), .database)], let w := (postpone undecided).2
      let done := Cell.set (.ofCall fun _ _ _ => pure .keep) assignment.1 (.settled assignment.2.1)
        assignment.2.2 w
      (∃ e, done.1 = .error e) ∧
        (w.store.cells[assignment.1]?).map (·.state.lazy) = some (some .reload) ∧
        (done.2.store.cells[assignment.1]?).map (·.state.lazy) = some none := by
  constructor
  · obtain ⟨companion, journals⟩ := postpone_accompanied
    have new : ∀ c ∈ undecided.store.cells, c.Made := by
      intro c isCell
      fin_cases isCell <;> exact ⟨rfl, .inl rfl⟩
    exact ⟨_, World.Within.ofRun journals new (journals.accounts.restoresFrom .start)⟩
  · intro assignment isAssignment
    fin_cases isAssignment <;> exact ⟨⟨_, rfl⟩, rfl, rfl⟩

end RowMapper
