import RowMapper.Proofs.Cells.DirtyTracking
import RowMapper.Proofs.Cells.Runs
/-!
Lazy values. A cell that waits for a lazy value holds nothing, at every moment of a run that
replaces no states. So a read of it never yields what the cell held before: it first announces the
lazy value, and then yields the default, unless a value or null was put into the cell meanwhile.
-/

set_option autoImplicit false

namespace RowMapper

variable {υ : Type}

namespace Cell

/-- While the cell waits for a lazy value, it holds nothing. -/
def WaitsEmpty (c : Cell) : Prop := c.state.lazy.isSome → c.state.slot = .undefined

theorem WaitsEmpty.of_settled {c : Cell} (settled : c.state.lazy = none) : c.WaitsEmpty := by
  intro waits
  rw [settled] at waits
  cases waits

theorem Made.waitsEmpty {c : Cell} (made : c.Made) : c.WaitsEmpty := by
  rcases made.2 with initial | ⟨source, a, first⟩
  · exact .of_settled (congrArg CellState.lazy initial)
  · cases a with
    | lazy l =>
      intro _
      exact (congrArg CellState.slot (Except.ok.inj first)).symm
    | null =>
      simp only [CellState.ofAssignment] at first
      split at first
      · exact .of_settled (congrArg CellState.lazy (Except.ok.inj first)).symm
      · cases first
    | value v =>
      obtain ⟨kept, _, state, _⟩ := ofAssignment_value first
      exact .of_settled (congrArg CellState.lazy state)

theorem waitsEmpty_invariant : Cell.Invariant False WaitsEmpty where
  detached _ empty := empty
  done c deed own empty := by
    cases deed with
    | waitFor l => exact fun _ => rfl
    | place v source =>
      cases taken : c.take v source with
      | error e => exact .of_settled (by simp only [Deed.apply, taken])
      | ok both => exact .of_settled (by simp only [Deed.apply, taken])
    | delete => exact fun _ => rfl
    | look | checkpoint => exact empty
    | restore state => exact (own trivial).elim
  restored allowed := allowed.elim

end Cell

/-- A value, or null, was put into a cell. -/
def Entry.Fills (id : CellId) : Entry → Prop
  | .done other before (.place v source) => other = id ∧ ∃ taken, before.take v source = .ok taken
  | _ => False

/-- A cell that holds nothing goes on holding nothing until it is filled. -/
theorem Leads.undefined_or_filled {start cells : List Cell} {journal : Journal}
    {id : CellId} {c : Cell} (leads : Leads False start journal cells) (there : start[id]? = some c)
    (empty : c.state.slot = .undefined) :
    (∃ now, cells[id]? = some now ∧ now.state.slot = .undefined) ∨
      ∃ entry ∈ journal, entry.Fills id := by
  induction leads with
  | start => exact .inl ⟨c, there, empty⟩
  | @done journal cells other before _ at_other deed allowed ih =>
    rcases ih with ⟨now, there, empty⟩ | ⟨entry, entered, fills⟩
    · by_cases same : other = id
      · subst same
        obtain rfl : before = now := Option.some.inj (at_other.symm.trans there)
        have placed : ∀ d, (cells.set other d)[other]? = some d := fun d =>
          List.getElem?_set_self (List.getElem?_eq_some_iff.mp there).1
        cases deed with
        | place v source =>
          cases taken : before.take v source with
          | ok both => exact .inr ⟨_, List.mem_cons_self, rfl, both, taken⟩
          | error e => exact .inl ⟨_, placed _, by simpa only [Deed.apply, taken] using empty⟩
        | waitFor l => exact .inl ⟨_, placed _, rfl⟩
        | delete => exact .inl ⟨_, placed _, rfl⟩
        | look | checkpoint => exact .inl ⟨_, placed _, empty⟩
        | restore state => exact (allowed trivial).elim
      · exact .inl ⟨now, by rw [List.getElem?_set_ne same, there], empty⟩
    · exact .inr ⟨entry, List.mem_cons_of_mem _ entered, fills⟩
  | made _ _ ih | copied _ _ ih =>
    rcases ih with ⟨now, there, empty⟩ | ⟨entry, entered, fills⟩
    · exact .inl ⟨now, by
        rw [List.getElem?_append_left (List.getElem?_eq_some_iff.mp there).1, there], empty⟩
    · exact .inr ⟨entry, List.mem_cons_of_mem _ entered, fills⟩

theorem Cell.content_of_undefined {w : World υ} {id : CellId} {c : Cell}
    (there : w.store.cells[id]? = some c) (empty : c.state.slot = .undefined)
    (default : Option Value) (target : Side) :
    Cell.content id default target w = (.ok default, w) := by
  unfold Cell.content
  rw [Act.bind_of_ok _ _ _ _ _ (Cell.find_of_there there)]
  simp only [empty]
  rfl

/-- A cell that waits for a lazy value at some moment of a run holds nothing then. To read it is to
announce the lazy value once, and only then to look at what the cell holds. A read that yields
something else than the default found a value, or null, that was put into the cell during the
announcement. -/
theorem pending_read_yields_nothing_older {w : World υ} {start : List Cell} {journal : Journal}
    {id : CellId} {c : Cell} {l : Lazy} (within : w.Within False start journal)
    (there : w.store.cells[id]? = some c) (waits : c.state.lazy = some l) :
    c.state.slot = .undefined ∧
    ∀ {foreign : Foreign υ} {foreign' : Foreign (Journaled υ)}
      (_ : ∀ callback owner args,
        Journals False (foreign.call callback owner args) (foreign'.call callback owner args))
      (default : Option Value) (target : Side),
      Cell.get foreign id default target w =
        (Cell.announce foreign c.bus Cell.resolveEvent [.cell id, .lazy l] >>= fun _ =>
          Cell.content id default target) w ∧
      ∃ during : Journal,
        Cell.announce foreign' c.bus Cell.resolveEvent [.cell id, .lazy l] (w.beside journal) =
          ((Cell.announce foreign c.bus Cell.resolveEvent [.cell id, .lazy l] w).1,
            (Cell.announce foreign c.bus Cell.resolveEvent [.cell id, .lazy l] w).2.beside
              (during ++ journal)) ∧
        ∀ r, (Cell.get foreign id default target w).1 = .ok r →
          r = default ∨ ∃ entry ∈ during, entry.Fills id := by
  have empty : c.state.slot = .undefined :=
    within.holds Cell.waitsEmpty_invariant (fun _ made => made.waitsEmpty) c
      (List.mem_of_getElem? there)
      (by rw [waits]; rfl)
  refine ⟨empty, fun {foreign foreign'} calls default target => ?_⟩
  have reads := (Cell.begins_get foreign id default target).present w c there
  rw [Deed.apply, World.withCell_self there] at reads
  simp only [waits] at reads
  refine ⟨reads, ?_⟩
  obtain ⟨during, ran, leads⟩ :=
    ((Journals.congruence False).announce calls c.bus Cell.resolveEvent [.cell id,
      .lazy l]).accounts w journal
  refine ⟨during, ran, fun r result => ?_⟩
  cases announced : Cell.announce foreign c.bus Cell.resolveEvent [.cell id, .lazy l] w with
  | mk outcome after =>
    rw [announced] at leads
    rw [reads] at result
    cases outcome with
    | error e =>
      rw [Act.bind_of_error _ _ _ _ _ announced] at result
      cases result
    | ok _ =>
      rw [Act.bind_of_ok _ _ _ _ _ announced] at result
      rcases leads.undefined_or_filled there empty with ⟨now, still, empty⟩ | filled
      · rw [Cell.content_of_undefined still empty] at result
        exact .inl (Except.ok.inj result).symm
      · exact .inr filled

def overwrite : Act (World Unit) Unit := do
  Cell.set (.ofCall fun _ _ _ => pure .keep) 0 (.value (.int 5)) .program
  Cell.set (.ofCall fun _ _ _ => pure .keep) 0 (.lazy .reload) .program

def overwriteJournaled : Act (World (Journaled Unit)) Unit := do
  Journal.set (.ofCall fun _ _ _ => pure .keep) 0 (.value (.int 5)) .program
  Journal.set (.ofCall fun _ _ _ => pure .keep) 0 (.lazy .reload) .program

theorem overwrite_journals : Journals False overwrite overwriteJournaled :=
  .bind (.set (fun _ _ _ => .pure _) (fun _ _ _ _ => .pure _) _ _ _) fun _ =>
    .set (fun _ _ _ => .pure _) (fun _ _ _ _ => .pure _) _ _ _

def finding : Foreign Unit := .ofCall fun _ _ _ => do
  Cell.set (.ofCall fun _ _ _ => pure .keep) 0 (.value (.int 7)) .database
  return .keep

def findingJournaled : Foreign (Journaled Unit) := .ofCall fun _ _ _ => do
  Journal.set (.ofCall fun _ _ _ => pure .keep) 0 (.value (.int 7)) .database
  return .keep

theorem finding_journals (callback : CallbackId) (owner : Owner) (args : List Arg) :
    Journals False (finding.call callback owner args) (findingJournaled.call callback owner args) :=
  .bind (.set (fun _ _ _ => .pure _) (fun _ _ _ _ => .pure _) _ _ _) fun _ => .pure _

/-- A new cell on a bus with one callback for lazy values, and an actor that owns the bus. -/
def unread : World Unit where
  store := { Store.empty with
    cells := [⟨.any, true, none, some 0, none, .initial, none⟩]
    buses := [(Bus.ofOwner (.actor 0)).hook Cell.resolveEvent ⟨0, []⟩]
    actors := [1] }
  user := ()

/-- The read yields the value that the callback found, and not the one that was overwritten. -/
theorem overwritten_read_yields_found :
    ∃ journal during : Journal, (overwrite unread).2.Within False unread.store.cells journal ∧
      ((overwrite unread).2.store.cells[0]?).map Cell.state = some ⟨some .reload, .undefined⟩ ∧
      (Cell.get finding 0 none .program (overwrite unread).2).1 = .ok (some (.int 7)) ∧
      ∃ entry ∈ during, entry.Fills 0 := by
  have new : ∀ c ∈ unread.store.cells, c.Made := by
    intro c isCell
    obtain rfl := List.mem_singleton.mp isCell
    exact ⟨rfl, .inl rfl⟩
  have within :=
    World.Within.ofRun overwrite_journals new (overwrite_journals.accounts.restoresFrom .start)
  have there : (overwrite unread).2.store.cells[0]? =
      some ⟨.any, true, none, some 0, none, ⟨some .reload, .undefined⟩, none⟩ := rfl
  have read : (Cell.get finding 0 none .program (overwrite unread).2).1 = .ok (some (.int 7)) := rfl
  obtain ⟨_, reads⟩ := pending_read_yields_nothing_older within there rfl
  obtain ⟨_, during, _, found⟩ := reads finding_journals none .program
  rcases found _ read with nothing | filled
  · cases nothing
  · exact ⟨_, during, within, congrArg (Option.map Cell.state) there, read, filled⟩

end RowMapper
