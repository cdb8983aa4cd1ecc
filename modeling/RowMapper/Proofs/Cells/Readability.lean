import RowMapper.Proofs.Cells.DirtyTracking
import RowMapper.Proofs.Cells.Runs
/-!
Readability. Whatever a cell of any kind holds in a run can be presented to both sides, also where
states of other cells of the kind were put back. So a read fails only where a hook fails that was to
find a lazy value, and the old value that a change shows never stops an operation behind the change.
-/

set_option autoImplicit false

namespace RowMapper

variable {υ α : Type}

namespace Kind

/-- What was accepted from the program can be presented to it: the integer of a member has a
name. -/
theorem present_of_accept {kind : Kind} {v kept : Value}
    (accepted : kind.accept .program v = .ok kept) :
    ∃ shown, kind.present .program kept = .ok shown := by
  cases kind with
  | enumeration members =>
    cases found : v.asText.bind (memberValue? members) with
    | none => simp only [accept, found, reduceCtorEq, if_false] at accepted
    | some n =>
      simp only [accept, found, reduceCtorEq, if_false, Except.ok.injEq] at accepted
      obtain ⟨_, _, isValue⟩ := Option.bind_eq_some_iff.mp found
      obtain ⟨shown, named, _⟩ := memberName?_of_mem (mem_of_memberValue? isValue)
      exact ⟨.text shown, by rw [← accepted]; simp only [present, reduceCtorEq, if_false, named]⟩
  | decimal | json => cases kept <;> exact ⟨_, rfl⟩
  | any | bool | int | float | text | bytes | dateTime | date | clock | duration => exact ⟨_, rfl⟩

/-- Everything can be presented to the database. -/
theorem present_database (kind : Kind) (v : Value) :
    ∃ shown, kind.present .database v = .ok shown := by
  cases kind with
  | decimal | json => cases v <;> exact ⟨_, rfl⟩
  | any | bool | int | float | text | bytes | dateTime | date | clock | duration | enumeration =>
    exact ⟨_, rfl⟩

end Kind

namespace Cell

/-- A value that the cell holds can be presented to both sides. -/
def Readable (c : Cell) : Prop :=
  ∀ v, c.state.slot = .value v → ∀ side, ∃ shown, c.kind.present side v = .ok shown

theorem Readable.of_program {c : Cell}
    (shows : ∀ v, c.state.slot = .value v → ∃ shown, c.kind.present .program v = .ok shown) :
    c.Readable
  | v, holds, .program => shows v holds
  | v, _, .database => c.kind.present_database v

/-- Whether a cell is readable depends on its kind and content only. -/
theorem Readable.congr {c d : Cell} (kind : d.kind = c.kind) (slot : d.state.slot = c.state.slot)
    (readable : c.Readable) : d.Readable := by
  intro v holds side
  rw [kind]
  exact readable v (slot ▸ holds) side

theorem Readable.of_empty {c : Cell} (empty : c.state.slot = .undefined ∨ c.state.slot = .null) :
    c.Readable := by
  intro v holds
  rcases empty with empty | empty <;> (rw [empty] at holds; cases holds)

theorem Made.readable {c : Cell} (made : c.Made) : c.Readable := by
  rcases made.2 with initial | ⟨source, a, first⟩
  · exact .of_empty (.inl (congrArg CellState.slot initial))
  · cases a with
    | lazy l => exact .of_empty (.inl (congrArg CellState.slot (Except.ok.inj first).symm))
    | null =>
      simp only [CellState.ofAssignment] at first
      split at first
      · exact .of_empty (.inr (congrArg CellState.slot (Except.ok.inj first).symm))
      · cases first
    | value v =>
      obtain ⟨kept, accepted, state, presented⟩ := ofAssignment_value first
      refine .of_program fun x holds => ?_
      rw [state] at holds
      cases holds
      cases source with
      | program => exact Kind.present_of_accept accepted
      | database => exact presented rfl

/-- What a cell takes can be read back. -/
theorem take_readable {c : Cell} {v : Option Value} {source : Side} {new shown : Slot} {x : Value}
    (taken : c.take v source = .ok (new, shown)) (value : new = .value x) :
    ∃ y, c.kind.present .program x = .ok y := by
  subst value
  cases v with
  | none => cases (take_none taken).1
  | some v =>
    obtain ⟨kept, y, accepted, kept_eq, _, presented⟩ := take_some taken
    cases kept_eq
    cases source with
    | program => exact Kind.present_of_accept accepted
    | database => exact ⟨y, presented rfl⟩

theorem readable_invariant (restores : Prop) : Cell.Invariant restores Readable where
  detached c readable := readable.congr rfl rfl
  done c deed own readable := by
    cases deed with
    | waitFor l => exact .of_empty (.inl rfl)
    | place v source =>
      cases taken : c.take v source with
      | error e =>
        exact readable.congr (by simp only [Deed.apply, taken]) (by simp only [Deed.apply, taken])
      | ok both =>
        obtain ⟨new, shown⟩ := both
        refine .of_program fun x holds => ?_
        simp only [Deed.apply, taken] at holds ⊢
        exact take_readable taken holds
    | delete => exact .of_empty (.inl rfl)
    | look | checkpoint => exact readable.congr rfl rfl
    | restore state => exact (own trivial).elim
  restored _ c d _ readable same := readable.congr same.symm rfl

/-- What the program reads of a readable cell is there. -/
theorem Readable.external {c : Cell} (readable : c.Readable) :
    ∃ old, c.external c.state.slot = .ok old := by
  cases holds : c.state.slot with
  | undefined | null => exact ⟨_, rfl⟩
  | value v =>
    obtain ⟨shown, presented⟩ := readable v holds .program
    exact ⟨.value shown, by simp only [Cell.external, presented]; rfl⟩

theorem content_world (id : CellId) (default : Option Value) (target : Side) (w : World υ) :
    (content id default target w).2 = w := by
  unfold content
  cases there : w.store.cells[id]? with
  | none => rw [Act.bind_of_ok _ _ _ _ _ (find_of_absent there)]; rfl
  | some c =>
    rw [Act.bind_of_ok _ _ _ _ _ (find_of_there there)]
    cases holds : c.state.slot <;> simp only [holds] <;> rfl

/-- Announces a change of a cell with what the program reads of the old content. -/
def announceChange (foreign : Foreign υ) (id : CellId) (before : Cell) (old : Slot) (payload : Arg)
    (source : Side) :
    Act (World υ) Unit :=
  announce foreign before.bus changedEvent [.cell id, .slot old, payload,
    .flag (source = .database)]

/-- Where the old content can be shown, nothing in a report fails before the event. -/
theorem report_of_external {c : Cell} {old : Slot} (shows : c.external c.state.slot = .ok old)
    (foreign : Foreign υ) (id : CellId) (payload : Arg) (source : Side) :
    report foreign id c payload source = announceChange foreign id c old payload source := by
  unfold report announceChange
  rw [shows, Act.lift_ok_bind]
  cases c.bus <;> rfl

theorem content_of_there {w : World υ} {id : CellId} {c : Cell}
    (there : w.store.cells[id]? = some c) (readable : c.Readable) (default : Option Value)
    (target : Side) :
    ∃ r, content id default target w = (.ok r, w) := by
  unfold content
  rw [Act.bind_of_ok _ _ _ _ _ (find_of_there there)]
  cases holds : c.state.slot with
  | undefined => exact ⟨default, by simp only [holds]; rfl⟩
  | null => exact ⟨none, by simp only [holds]; rfl⟩
  | value v =>
    obtain ⟨shown, presented⟩ := readable v holds target
    exact ⟨some shown, by simp only [holds, presented]; rfl⟩

section

variable {foreign : Foreign υ} {w after : World υ} {id : CellId} {c now : Cell} {old : Slot}

theorem delete_of_external (there : w.store.cells[id]? = some c)
    (shows : c.external c.state.slot = .ok old) :
    delete foreign id w =
      (if c.state.slot.isDefined then announceChange foreign id c old (.slot .undefined) .program
        else pure ()) (w.withCell id { c with state := { c.state with slot := .undefined } }) := by
  rw [(begins_delete foreign id).present w c there, report_of_external shows]
  rfl

theorem waitFor_of_external (there : w.store.cells[id]? = some c)
    (shows : c.external c.state.slot = .ok old) (l : Lazy) (source : Side) :
    set foreign id (.lazy l) source w =
      announceChange foreign id c old (.lazy l) source
        (w.withCell id { c with baseline := none, state := ⟨some l, .undefined⟩ }) := by
  rw [(begins_waitFor foreign id l source).present w c there, report_of_external shows]
  rfl

/-- An assignment that the validator lets through is either refused, or committed and then announced
if a lazy value waited or the content differs. -/
theorem settle_of_external {v judged : Option Value} {source : Side}
    (there : w.store.cells[id]? = some c)
    (judges : judge foreign c v source w = (.ok judged, after))
    (still : after.store.cells[id]? = some now) (alike : now.Alike c)
    (shows : now.external now.state.slot = .ok old) :
    set foreign id (.settled v) source w =
      match now.take judged source with
      | .error e =>
          (.error e, after.withCell id { now with state := { now.state with lazy := none } })
      | .ok (new, shown) =>
        (if now.state.lazy.isSome || !now.state.slot.same new then
            announceChange foreign id now old (.slot shown) source
          else pure ()) (after.withCell id { now with state := ⟨none, new⟩ }) := by
  rw [set_settled, assign_of_there foreign id there, Act.bind_of_ok _ _ _ _ _ judges,
    place_of_alike foreign id still alike,
    (begins_place foreign id judged source).present after now still]
  simp only [report_of_external shows]
  cases taken : now.take judged source with
  | error e => simp only [Deed.apply, taken, Act.fail]
  | ok both => simp only [Deed.apply, taken]

end

end Cell

/-! ## Failures of hooks -/

/-- A hook that stands under a name fails when it is called with some arguments. -/
def Bus.HookFails (foreign : Foreign υ) (b : Bus) (name : String) (args : List Arg)
    (e : Error) : Prop :=
  ∃ hook ∈ b.hooksOf name, ∃ before after : World υ,
    foreign.call hook.callback b.owner (args ++ hook.extra) before = (.error e, after)

theorem Bus.callAll_error {foreign : Foreign υ} {bus : BusId} {name : String} {owner : Owner}
    {args : List Arg} {hooks : List Hook} {w after : World υ} {e : Error}
    (failed : Bus.callAll foreign bus name owner args hooks w = (.error e, after)) :
    ∃ hook ∈ hooks, ∃ before after : World υ,
      foreign.call hook.callback owner (args ++ hook.extra) before = (.error e, after) := by
  induction hooks generalizing w with
  | nil => cases failed
  | cons hook rest ih =>
    unfold Bus.callAll at failed
    cases called : foreign.call hook.callback owner (args ++ hook.extra) w with
    | mk outcome middle =>
      cases outcome with
      | error e' =>
        rw [Act.bind_of_error _ _ _ _ _ called] at failed
        cases failed
        exact ⟨hook, List.mem_cons_self, w, _, called⟩
      | ok flow =>
        rw [Act.bind_of_ok _ _ _ _ _ called] at failed
        obtain ⟨later, isLater, fails⟩ : ∃ hook ∈ rest, ∃ before after : World υ,
            foreign.call hook.callback owner (args ++ hook.extra) before = (.error e, after) := by
          cases flow with
          | keep => exact ih failed
          | unsubscribe => exact ih failed
        exact ⟨later, List.mem_cons_of_mem _ isLater, fails⟩

/-- An event fails only where one of its hooks fails. -/
theorem Cell.announce_error {foreign : Foreign υ} {bus : Option BusId} {name : String}
    {args : List Arg} {w after : World υ} {e : Error}
    (failed : Cell.announce foreign bus name args w = (.error e, after)) :
    ∃ number b, bus = some number ∧ w.store.buses[number]? = some b ∧
      b.HookFails foreign name args e := by
  cases bus with
  | none => cases failed
  | some number =>
    cases there : w.store.buses[number]? with
    | none =>
      have found : World.read (fun s => s.buses[number]?) w = (.ok none, w) := by
        simp only [World.read, there]
      simp only [announce, Bus.emit] at failed
      rw [Act.bind_of_ok _ _ _ _ _ found] at failed
      cases failed
    | some b =>
      have found : World.read (fun s => s.buses[number]?) w = (.ok (some b), w) := by
        simp only [World.read, there]
      simp only [announce, Bus.emit] at failed
      rw [Act.bind_of_ok _ _ _ _ _ found] at failed
      have read : World.read (fun s => s.ownerAlive b.owner) w =
          (.ok (w.store.ownerAlive b.owner), w) := rfl
      dsimp only at failed
      rw [Act.bind_of_ok _ _ _ _ _ read] at failed
      refine ⟨number, b, rfl, there, ?_⟩
      cases alive : w.store.ownerAlive b.owner with
      | false =>
        simp only [alive, Bool.false_eq_true, if_false] at failed
        cases failed
      | true =>
        simp only [alive, if_true] at failed
        cases hooked : b.hooks.get? name with
        | none =>
          simp only [hooked] at failed
          cases failed
        | some hooks =>
          simp only [hooked] at failed
          have retained : World.change (υ := υ) (·.retainOwner b.owner) w =
              (.ok (), { w with store := w.store.retainOwner b.owner }) := rfl
          rw [Act.bind_of_ok _ _ _ _ _ retained] at failed
          simp only [World.ensure, Act.ensure, Prod.mk.injEq] at failed
          obtain ⟨hook, isHook, fails⟩ := Bus.callAll_error (Prod.ext failed.1 rfl)
          exact ⟨hook, by simpa only [Bus.hooksOf, hooked, Option.getD_some] using isHook, fails⟩

/-- Where the cell stays readable, a read of it fails only with a hook. -/
theorem Cell.get_error {foreign : Foreign υ} {w after : World υ} {id : CellId} {c now : Cell}
    {default : Option Value} {target : Side} {e : Error} (there : w.store.cells[id]? = some c)
    (readable : c.Readable) (remains : after.store.cells[id]? = some now) (still : now.Readable)
    (failed : Cell.get foreign id default target w = (.error e, after)) :
    ∃ l number b, c.state.lazy = some l ∧ c.bus = some number ∧ w.store.buses[number]? = some b ∧
      b.HookFails foreign Cell.resolveEvent [.cell id, .lazy l] e := by
  have reads := (begins_get foreign id default target).present w c there
  rw [Deed.apply, World.withCell_self there, failed] at reads
  cases waits : c.state.lazy with
  | none =>
    obtain ⟨r, found⟩ := content_of_there there readable default target
    simp only [waits] at reads
    rw [found] at reads
    cases reads
  | some l =>
    simp only [waits] at reads
    cases announced : announce foreign c.bus resolveEvent [.cell id, .lazy l] w with
    | mk outcome middle =>
      cases outcome with
      | error e' =>
        rw [Act.bind_of_error _ _ _ _ _ announced] at reads
        cases reads
        obtain ⟨number, b, attached, isBus, fails⟩ := announce_error announced
        exact ⟨l, number, b, rfl, attached, isBus, fails⟩
      | ok _ =>
        rw [Act.bind_of_ok _ _ _ _ _ announced] at reads
        obtain rfl : after = middle :=
          (congrArg Prod.snd reads).trans (content_world id default target middle)
        obtain ⟨r, found⟩ := content_of_there remains still default target
        rw [found] at reads
        cases reads

/-! ## What cells hold -/

/-- What a cell of any kind holds at some moment of a run can be presented to both sides. So a read
fails only with the failure of a hook that was to find the lazy value that waits. A deletion, a lazy
value that is assigned, and a value or null that the validator lets through change the cell, or are
refused before, and all that follows the change is the event with the old content as the program
reads it: the old content never fails to be shown. -/
theorem stored_values_are_readable {w : World υ} {start : List Cell} {journal : Journal}
    {id : CellId} {c : Cell} (within : w.Within True start journal)
    (there : w.store.cells[id]? = some c) :
    (∀ v, c.state.slot = .value v → ∀ side, ∃ shown, c.kind.present side v = .ok shown) ∧
    ∀ {foreign : Foreign υ} {foreign' : Foreign (Journaled υ)}
      (_ : ∀ callback owner args,
        Journals True (foreign.call callback owner args) (foreign'.call callback owner args))
      (_ : ∀ rule context subject v,
        Journals True (foreign.validate rule context subject v)
        (foreign'.validate rule context subject v)),
      (∀ default target e after,
        (Journal.entering id (.done id · .look) (Cell.get foreign' id default target)
          (w.beside journal)).2.user.journal.RestoresFrom start →
        Cell.get foreign id default target w = (.error e, after) →
          ∃ l number b, c.state.lazy = some l ∧ c.bus = some number ∧
            w.store.buses[number]? = some b ∧
            b.HookFails foreign Cell.resolveEvent [.cell id, .lazy l] e) ∧
      (∃ old, c.external c.state.slot = .ok old ∧
        Cell.delete foreign id w =
          (if c.state.slot.isDefined then Cell.announceChange foreign id c old
            (.slot .undefined) .program else pure ())
              (w.withCell id { c with state := { c.state with slot := .undefined } }) ∧
        ∀ l source,
          Cell.set foreign id (.lazy l) source w =
            Cell.announceChange foreign id c old (.lazy l) source
              (w.withCell id { c with baseline := none, state := ⟨some l, .undefined⟩ })) ∧
      ∀ v source judged after,
        (Cell.judge foreign' c v source (w.beside journal)).2.user.journal.RestoresFrom start →
        Cell.judge foreign c v source w = (.ok judged, after) →
          ∃ now old, after.store.cells[id]? = some now ∧ now.Alike c ∧
            now.external now.state.slot = .ok old ∧
            Cell.set foreign id (.settled v) source w =
              match now.take judged source with
              | .error e =>
                  (.error e, after.withCell id
                    { now with state := { now.state with lazy := none } })
              | .ok (new, shown) =>
                (if now.state.lazy.isSome || !now.state.slot.same new then
                    Cell.announceChange foreign id now old (.slot shown) source
                  else pure ()) (after.withCell id { now with state := ⟨none, new⟩ }) := by
  have new : ∀ c : Cell, c.Made → c.Readable := fun _ made => made.readable
  have readable : c.Readable :=
    within.holds (Cell.readable_invariant True) new c (List.mem_of_getElem? there)
  obtain ⟨old, shows⟩ := readable.external
  refine ⟨readable, fun {foreign foreign'} calls rules => ⟨?_, ?_, ?_⟩⟩
  · intro default target e after fair failed
    have accounts := (Journals.get calls id default target).accounts
    have still := within.holds_after accounts (Cell.readable_invariant True) new fair
    obtain ⟨during, _, leads⟩ := accounts w journal
    rw [failed] at still leads
    obtain ⟨now, remains, _⟩ := leads.kept there
    exact Cell.get_error there readable remains (still now (List.mem_of_getElem? remains)) failed
  · exact ⟨old, shows, Cell.delete_of_external there shows, Cell.waitFor_of_external there shows⟩
  · intro v source judged after fair judges
    have accounts :=
      Accounts.judge (fun callback owner args => (calls callback owner args).accounts)
      (fun rule context subject v => (rules rule context subject v).accounts) c v source
    have still := within.holds_after accounts (Cell.readable_invariant True) new fair
    obtain ⟨during, _, leads⟩ := accounts w journal
    rw [judges] at still leads
    obtain ⟨now, remains, alike⟩ := leads.kept there
    obtain ⟨old, shows⟩ := (still now (List.mem_of_getElem? remains)).external
    exact ⟨now, old, remains, alike, shows,
      Cell.settle_of_external there judges remains alike shows⟩

/-- Assigns the name of a member to the first cell and a foreign integer to the second one, which
refuses it, and then puts the state of the first cell into the second one. -/
def putBack : Act (World Unit) Unit := do
  let silent : Foreign Unit := .ofCall fun _ _ _ => pure .keep
  Cell.set silent 0 (.value (.text "low")) .program
  let _ ← (Cell.set silent 1 (.value (.int 9)) .database).attempt
  match ← Cell.find 0 with
  | none => pure ()
  | some c => Cell.changeState 1 fun _ => c.state

def putBackJournaled : Act (World (Journaled Unit)) Unit := do
  let silent : Foreign (Journaled Unit) := .ofCall fun _ _ _ => pure .keep
  Journal.set silent 0 (.value (.text "low")) .program
  let _ ← (Journal.set silent 1 (.value (.int 9)) .database).attempt
  match ← Journal.entering 0 (.done 0 · .look) (Cell.find 0) with
  | none => pure ()
  | some c =>
    Journal.entering 1 (.done 1 · (.restore c.state)) (Cell.changeState 1 fun _ => c.state)

/-- Two new cells of an enumeration in which a name and an integer stand twice. -/
def ambiguous : World Unit where
  store :=
    let c : Cell := ⟨.enumeration [("low", 1), ("high", 2), ("low", 2)], true, none, none, none,
      .initial, none⟩
    { Store.empty with cells := [c, c] }
  user := ()

/-- The state that was put back can be read. -/
theorem ambiguous_values_are_readable :
    ∃ journal, (putBack ambiguous).2.Within True ambiguous.store.cells journal ∧
      ((putBack ambiguous).2.store.cells[1]?).map Cell.state = some ⟨none, .value (.int 2)⟩ ∧
      ∃ shown, Kind.present (.enumeration [("low", 1), ("high", 2), ("low", 2)]) .program (.int 2) =
      .ok shown := by
  have journals : Journals True putBack putBackJournaled := by
    refine .bind (.set (fun _ _ _ => .pure _) (fun _ _ _ _ => .pure _) _ _ _) fun _ =>
      .bind (.attempt (.set (fun _ _ _ => .pure _) (fun _ _ _ _ => .pure _) _ _ _)) fun _ =>
        .bind (.look 0) fun found => ?_
    cases found with
    | none => exact .pure ()
    | some c => exact .restore trivial 1 c.state
  have new : ∀ c ∈ ambiguous.store.cells, c.Made := by
    intro c isCell
    simp only [ambiguous, List.mem_cons, List.not_mem_nil, or_false, or_self] at isCell
    exact ⟨congrArg Cell.baseline isCell, .inl (congrArg Cell.state isCell)⟩
  have fair : (putBackJournaled (ambiguous.beside [])).2.user.journal.RestoresFrom
      ambiguous.store.cells :=
    ⟨⟨_, _, List.suffix_rfl, List.mem_cons_self, rfl, rfl⟩, trivial⟩
  have within := World.Within.ofRun journals new fair
  have there : (putBack ambiguous).2.store.cells[1]? =
      some ⟨.enumeration [("low", 1), ("high", 2), ("low", 2)], true, none, none, none,
        ⟨none, .value (.int 2)⟩, none⟩ := rfl
  exact ⟨_, within, congrArg (Option.map Cell.state) there,
    (stored_values_are_readable within there).1 (.int 2) rfl .program⟩

end RowMapper
