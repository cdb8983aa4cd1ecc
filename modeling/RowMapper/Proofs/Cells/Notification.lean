import RowMapper.Proofs.Cells.Readability
/-!
Notification. Each operation on a cell of a bus emits the event of a change once or not at all,
behind the change, and with the old content as a read would have shown it. A lazy value is always
announced, a deletion if something was there, and a value or null if a lazy value waited or the
content differs.
-/

set_option autoImplicit false

namespace RowMapper

variable {υ : Type}

def Slot.value? : Slot → Option Value
  | .value v => some v
  | .undefined | .null => none

namespace Cell

variable {foreign : Foreign υ} {w : World υ} {id : CellId} {c : Cell} {old : Slot}

/-- What the program reads of the content of a cell, if it does not ask for a lazy value. -/
theorem content_of_external (there : w.store.cells[id]? = some c)
    (shows : c.external c.state.slot = .ok old) :
    content id none .program w = (.ok old.value?, w) := by
  unfold content
  rw [Act.bind_of_ok _ _ _ _ _ (find_of_there there)]
  cases holds : c.state.slot with
  | undefined | null =>
    rw [holds] at shows
    cases shows
    simp only [holds]
    rfl
  | value v =>
    rw [holds, external] at shows
    cases presented : c.kind.present .program v with
    | error e => simp only [presented, Except.map, reduceCtorEq] at shows
    | ok shown =>
      simp only [presented, Except.map, Except.ok.injEq] at shows
      subst shows
      simp only [holds, presented]
      rfl

/-- What an event from the database shows of a new value is what the program reads then. -/
theorem get_of_taken {v : Option Value} {new shown : Slot} (there : w.store.cells[id]? = some c)
    (taken : c.take v .database = .ok (new, shown)) (state : c.state = ⟨none, new⟩) :
    get foreign id none .program w = (.ok shown.value?, w) := by
  have reads : get foreign id none .program w = content id none .program w := by
    refine ((begins_get foreign id none .program).present w c there).trans ?_
    rw [Deed.apply, World.withCell_self there]
    simp only [state]
  rw [reads]
  refine content_of_external there ?_
  cases v with
  | none =>
    obtain ⟨rfl, rfl⟩ := take_none taken
    rw [state]
    rfl
  | some v =>
    obtain ⟨kept, y, _, rfl, rfl, presented⟩ := take_some taken
    simp only [state, external, presented rfl, Except.map]

/-- What the operations on a cell of a bus do in a world where the program would read `old` of its
content. The first hook of an event already sees the world in which it is emitted. -/
structure Notifies (foreign : Foreign υ) (bus : BusId) (id : CellId) (c : Cell) (w : World υ)
    (old : Slot) :
    Prop where
  external : c.external c.state.slot = .ok old
  reads : content id none .program w = (.ok old.value?, w)
  /-- A lazy value is assigned: one event. -/
  waitFor : ∀ l source,
    set foreign id (.lazy l) source w =
      Bus.emit foreign bus changedEvent [.cell id, .slot old, .lazy l, .flag (source = .database)]
        (w.withCell id { c with baseline := none, state := ⟨some l, .undefined⟩ })
  /-- The cell is emptied: one event if something was there. -/
  delete : Cell.delete foreign id w =
    (if c.state.slot.isDefined then
        Bus.emit foreign bus changedEvent [.cell id, .slot old, .slot .undefined, .flag false]
      else pure ()) (w.withCell id { c with state := { c.state with slot := .undefined } })
  /-- A read that finds a lazy value emits another event. -/
  get : ∀ default target,
    Cell.get foreign id default target w =
      (match c.state.lazy with
        | some l =>
          Bus.emit foreign bus resolveEvent [.cell id, .lazy l] >>=
            fun _ => content id default target
        | none => content id default target) w
  checkpoint : setCheckpoint id w = (.ok (), w.withCell id c.checkpoint)
  look : find id w = (.ok (some c), w)
  copy : Cell.copy id w =
    (.ok (some w.store.cells.length),
      { w with store := { w.store with cells := w.store.cells ++ [c.detached] } })

/-- What becomes of a value, or of null, that the validator has let through, in a world where the
program would read `old` of the content of the cell. -/
structure Settles (foreign : Foreign υ) (bus : BusId) (id : CellId) (c : Cell)
    (w : World υ) (old : Slot) (judged : Option Value) (source : Side)
    (done : Except Error Unit × World υ) : Prop where
  external : c.external c.state.slot = .ok old
  reads : content id none .program w = (.ok old.value?, w)
  /-- The cell refuses it: no event, and the content stays. -/
  refused : ∀ e, c.take judged source = .error e →
    done = (.error e, w.withCell id { c with state := { c.state with lazy := none } })
  /-- The cell takes it: one event if a lazy value waited or the content differs. -/
  committed : ∀ new shown, c.take judged source = .ok (new, shown) →
    done =
      (if c.state.lazy.isSome || !c.state.slot.same new then
          Bus.emit foreign bus changedEvent [.cell id, .slot old, .slot shown,
            .flag (source = .database)]
        else pure ()) (w.withCell id { c with state := ⟨none, new⟩ })
  /-- What an event shows of a value from the database is what a read yields right behind the
  change. -/
  payload : ∀ new shown v, c.take judged source = .ok (new, shown) → source = .database →
    judged = some v →
    ∃ y, shown = .value y ∧
      Cell.get foreign id none .program (w.withCell id { c with state := ⟨none, new⟩ }) =
        (.ok (some y), w.withCell id { c with state := ⟨none, new⟩ })

end Cell

/-- Every operation on a cell with a bus, at any moment of a run, emits the event of a change as
often as it should: once for a lazy value; once for a deletion if something was there; once for a
value or null that was let through and taken, if a lazy value waited or the content differs; and
never otherwise. A validator may have changed the cell meanwhile; what counts is the cell just
before the change. -/
theorem changes_are_announced_once {w : World υ} {start : List Cell} {journal : Journal}
    {id : CellId} {c : Cell} {bus : BusId} (within : w.Within False start journal)
    (there : w.store.cells[id]? = some c) (attached : c.bus = some bus) :
    Cell.resolveEvent ≠ Cell.changedEvent ∧
    ∀ {foreign : Foreign υ} {foreign' : Foreign (Journaled υ)}
      (_ : ∀ callback owner args,
        Journals False (foreign.call callback owner args) (foreign'.call callback owner args))
      (_ : ∀ rule context subject v,
        Journals False (foreign.validate rule context subject v)
        (foreign'.validate rule context subject v)),
      (∃ old, Cell.Notifies foreign bus id c w old) ∧
      ∀ v source,
        (∀ e after, Cell.judge foreign c v source w = (.error e, after) →
          Cell.set foreign id (.settled v) source w = (.error e, after)) ∧
        ∀ judged after, Cell.judge foreign c v source w = (.ok judged, after) →
          ∃ now old, after.store.cells[id]? = some now ∧ now.Alike c ∧
            Cell.Settles foreign bus id now after old judged source
            (Cell.set foreign id (.settled v) source w) := by
  have new : ∀ c : Cell, c.Made → c.Readable := fun _ made => made.readable
  have readable := within.holds (Cell.readable_invariant False) new c (List.mem_of_getElem? there)
  refine ⟨by decide, fun {foreign foreign'} calls rules => ⟨?_, fun v source => ⟨?_, ?_⟩⟩⟩
  · obtain ⟨old, shows⟩ := readable.external
    refine ⟨old, shows, Cell.content_of_external there shows, fun l source => ?_, ?_,
      fun default target => ?_, ?_, ?_, ?_⟩
    · rw [Cell.waitFor_of_external there shows, Cell.announceChange, attached]
      rfl
    · rw [Cell.delete_of_external there shows, Cell.announceChange, attached]
      rfl
    · rw [(Cell.begins_get foreign id default target).present w c there, Deed.apply,
        World.withCell_self there, attached]
      cases c.state.lazy <;> rfl
    · exact (Cell.begins_checkpoint id).present w c there
    · exact Cell.find_of_there there
    · simp only [Cell.copy, World.update, there]
      rfl
  · intro e after judges
    rw [Cell.set_settled, Cell.assign_of_there foreign id there, Act.bind_of_error _ _ _ _ _ judges]
  · intro judged after judges
    have accounts :=
      Accounts.judge (fun callback owner args => (calls callback owner args).accounts)
      (fun rule context subject v => (rules rule context subject v).accounts) c v source
    have still := within.holds_after accounts (Cell.readable_invariant False) new
      (accounts.restoresFrom within.leads)
    obtain ⟨during, _, leads⟩ := accounts w journal
    rw [judges] at still leads
    obtain ⟨now, remains, alike⟩ := leads.kept there
    obtain ⟨old, shows⟩ := (still now (List.mem_of_getElem? remains)).external
    have settles := Cell.settle_of_external there judges remains alike shows
    refine ⟨now, old, remains, alike, shows, Cell.content_of_external remains shows,
      fun e refused => ?_, fun new shown taken => ?_,
      fun new shown x taken fromDatabase value => ?_⟩
    · rw [settles, refused]
    · rw [settles, taken]
      simp only [Cell.announceChange, alike.bus, attached]
      rfl
    · subst fromDatabase value
      obtain ⟨kept, y, _, _, rfl, _⟩ := Cell.take_some taken
      have takes : Cell.take { now with state := ⟨none, new⟩ } (some x) .database =
          .ok (new, .value y) := taken
      exact ⟨y, rfl, Cell.get_of_taken (World.cells_withCell remains _) takes rfl⟩

/-- Callbacks that log their arguments. -/
def logging : Foreign (List (List Arg)) :=
  .ofCall fun _ _ args w => (.ok .keep, { w with user := w.user ++ [args] })

def loggingJournaled : Foreign (Journaled (List (List Arg))) :=
  .ofCall fun _ _ args => Journal.aside fun w => (.ok .keep, { w with user := w.user ++ [args] })

/-- A new cell on a bus with one callback for changes, and an actor that owns the bus. -/
def watched : World (List (List Arg)) where
  store := { Store.empty with
    cells := [⟨.any, true, none, some 0, none, .initial, none⟩]
    buses := [(Bus.ofOwner (.actor 0)).hook Cell.changedEvent ⟨0, []⟩]
    actors := [1] }
  user := []

/-- After a lazy value was assigned, a value that takes its place is announced once, though nothing
was read before. -/
theorem cleared_lazy_value_is_announced_once :
    ∃ (waiting : World (List (List Arg))) (journal : Journal),
      waiting = (Cell.set (.ofCall fun _ _ _ => pure .keep) 0 (.lazy .reload) .program watched).2 ∧
      waiting.Within False watched.store.cells journal ∧
      Cell.set logging 0 (.settled (some (.int 7))) .database waiting =
        Bus.emit logging 0 Cell.changedEvent [.cell 0, .slot .undefined,
          .slot (.value (.int 7)), .flag true]
            (waiting.withCell 0 ⟨.any, true, none, some 0, none, ⟨none, .value (.int 7)⟩, none⟩) ∧
      (Cell.set logging 0 (.settled (some (.int 7))) .database waiting).2.user =
        [[.cell 0, .slot .undefined, .slot (.value (.int 7)), .flag true]] := by
  have journals : Journals (υ := List (List Arg)) False
      (Cell.set (.ofCall fun _ _ _ => pure .keep) 0 (.lazy .reload) .program)
      (Journal.set (.ofCall fun _ _ _ => pure .keep) 0 (.lazy .reload) .program) :=
    .set (fun _ _ _ => .pure _) (fun _ _ _ _ => .pure _) _ _ _
  have new : ∀ c ∈ watched.store.cells, c.Made := by
    intro c isCell
    obtain rfl := List.mem_singleton.mp isCell
    exact ⟨rfl, .inl rfl⟩
  have within := World.Within.ofRun journals new (journals.accounts.restoresFrom .start)
  refine ⟨_, _, rfl, within, ?_, rfl⟩
  have there : (Cell.set (.ofCall fun _ _ _ => pure .keep) 0 (.lazy .reload) .program
      watched).2.store.cells[0]? = some ⟨.any, true, none, some 0, none, ⟨some .reload, .undefined⟩,
      none⟩ := rfl
  have calls : ∀ (callback : CallbackId) (owner : Owner) (args : List Arg),
      Journals False (logging.call callback owner args)
        (loggingJournaled.call callback owner args) :=
    fun _ _ _ => .aside fun _ => rfl
  have rules : ∀ (rule : RuleId) (context : Option ContextRef) (subject : String)
      (v : Option Value), Journals False (logging.validate rule context subject v)
        (loggingJournaled.validate rule context subject v) :=
    fun _ _ _ _ => .pure _
  obtain ⟨_, settles⟩ := (changes_are_announced_once within there rfl).2 calls rules
  obtain ⟨now, old, remains, _, settles⟩ := (settles (some (.int 7)) .database).2 _ _ rfl
  obtain rfl := Option.some.inj (there.symm.trans remains)
  obtain rfl : Slot.undefined = old := Except.ok.inj settles.external
  exact settles.committed _ _ rfl

end RowMapper
