import RowMapper.Cell.Operations
/-!
What the operations on a cell do. Each one begins with a deed, which is a function on cells, and
goes on with one event or none: a read announces the lazy value that waits, and a commit or a
deletion announces the change. So foreign code runs only behind a deed, or before it in a validator,
and never within it.
-/

set_option autoImplicit false

namespace RowMapper

variable {υ α : Type}

def World.withCell (w : World υ) (id : CellId) (c : Cell) : World υ :=
  { w with store := { w.store with cells := w.store.cells.set id c } }

namespace World

variable {w : World υ} {id : CellId} {c : Cell}

theorem cells_withCell (there : w.store.cells[id]? = some c) (d : Cell) :
    (w.withCell id d).store.cells[id]? = some d :=
  List.getElem?_set_self (List.getElem?_eq_some_iff.mp there).1

theorem withCell_withCell (w : World υ) (id : CellId) (c d : Cell) :
    (w.withCell id c).withCell id d = w.withCell id d := by
  simp only [withCell, List.set_set]

theorem withCell_self (there : w.store.cells[id]? = some c) : w.withCell id c = w := by
  have same : w.store.cells.set id c = w.store.cells := by
    obtain ⟨inside, rfl⟩ := List.getElem?_eq_some_iff.mp there
    exact List.set_getElem_self inside
  simp only [withCell, same]

theorem change_adjustCell (there : w.store.cells[id]? = some c) (f : Cell → Cell) :
    World.change (·.adjustCell id f) w = (.ok (), w.withCell id (f c)) := by
  have same : w.store.cells.modify id f = w.store.cells.set id (f c) := by
    refine List.ext_getElem? fun i => ?_
    by_cases here : id = i
    · subst here
      rw [List.getElem?_modify_eq, there,
        List.getElem?_set_self (List.getElem?_eq_some_iff.mp there).1]
      rfl
    · rw [List.getElem?_modify_ne _ _ here, List.getElem?_set_ne here]
  simp only [World.change, Store.adjustCell, withCell, same]

theorem change_adjustCell_absent (absent : w.store.cells[id]? = none) (f : Cell → Cell) :
    World.change (·.adjustCell id f) w = (.ok (), w) := by
  have same : w.store.cells.modify id f = w.store.cells := by
    exact List.modify_eq_self (List.getElem?_eq_none_iff.mp absent)
  simp only [World.change, Store.adjustCell, same]

end World

namespace Cell

variable {foreign : Foreign υ} {w : World υ} {id : CellId} {c : Cell}

theorem find_of_there (there : w.store.cells[id]? = some c) : find id w = (.ok (some c), w) := by
  simp only [find, World.read, there]

theorem find_of_absent (absent : w.store.cells[id]? = none) : find id w = (.ok none, w) := by
  simp only [find, World.read, absent]

theorem changeState_of_there (there : w.store.cells[id]? = some c) (f : CellState → CellState) :
    changeState id f w = (.ok (), w.withCell id { c with state := f c.state }) :=
  World.change_adjustCell there _

/-! ## What a cell makes of a value -/

/-- The content that a cell makes of a value, or of null, with what an event shows of it; or why it
refuses. -/
def take (c : Cell) (v : Option Value) (source : Side) : Except Error (Slot × Slot) :=
  match v with
  | none =>
    if c.allowNull then .ok (.null, .null)
    else .error (.nullNotAllowed (c.column.map Column.qualifiedName))
  | some v => do
    let kept ← c.kind.accept source v
    match source with
    | .database => return (.value kept, .value (← c.kind.present .program kept))
    | .program => return (.value kept, .value v)

/-- What a cell takes of a value is what its kind accepts. An event shows a value of the program as
it came, and one of the database as the program will read it. -/
theorem take_some {v : Value} {source : Side} {new shown : Slot}
    (taken : c.take (some v) source = .ok (new, shown)) :
    ∃ kept y, c.kind.accept source v = .ok kept ∧ new = .value kept ∧ shown = .value y ∧
      (source = .database → c.kind.present .program kept = .ok y) := by
  simp only [take, bind, Except.bind] at taken
  cases accepted : c.kind.accept source v with
  | error e => simp only [accepted, reduceCtorEq] at taken
  | ok kept =>
    simp only [accepted] at taken
    cases source with
    | program =>
      cases taken
      exact ⟨kept, v, rfl, rfl, rfl, nofun⟩
    | database =>
      cases presented : c.kind.present .program kept with
      | error e => simp only [presented, reduceCtorEq] at taken
      | ok y =>
        simp only [presented] at taken
        cases taken
        exact ⟨kept, y, rfl, rfl, rfl, fun _ => presented⟩

theorem take_none {source : Side} {new shown : Slot}
    (taken : c.take none source = .ok (new, shown)) :
    new = .null ∧ shown = .null := by
  simp only [take] at taken
  split at taken <;> cases taken
  exact ⟨rfl, rfl⟩

/-- What a new cell holds of a first value is what its kind accepts. -/
theorem ofAssignment_value {kind : Kind} {allowNull : Bool} {column : Option Column}
    {source : Side} {v : Value} {state : CellState}
    (first : CellState.ofAssignment kind allowNull column source (.value v) = .ok state) :
    ∃ kept, kind.accept source v = .ok kept ∧ state = ⟨none, .value kept⟩ ∧
      (source = .database → ∃ shown, kind.present .program kept = .ok shown) := by
  simp only [CellState.ofAssignment, bind, Except.bind] at first
  cases accepted : kind.accept source v with
  | error e => simp only [accepted, reduceCtorEq] at first
  | ok kept =>
    simp only [accepted] at first
    cases source with
    | program =>
      cases first
      exact ⟨kept, rfl, rfl, nofun⟩
    | database =>
      cases presented : kind.present .program kept with
      | error e => simp only [presented, reduceCtorEq] at first
      | ok shown =>
        simp only [presented] at first
        cases first
        exact ⟨kept, rfl, rfl, fun _ => ⟨shown, presented⟩⟩

/-- Announces that a cell is no longer what it was before. -/
def report (foreign : Foreign υ) (id : CellId) (before : Cell) (payload : Arg) (source : Side) :
    Act (World υ) Unit :=
  if before.bus.isSome then do
    let shown ← Act.lift (before.external before.state.slot)
    announce foreign before.bus changedEvent [.cell id, .slot shown, payload,
      .flag (source = .database)]
  else pure ()

/-- Where a cell waits for a lazy value or has another content than the new one, the change is
announced. -/
theorem commit_of_there (there : w.store.cells[id]? = some c) (new : Slot) (payload : Arg)
    (cleared : Bool) (source : Side) :
    commit foreign id new payload cleared source w =
      (if c.state.lazy.isSome || cleared ||
        !c.state.slot.same new then report foreign id c payload source else pure ())
        (w.withCell id { c with state := { c.state with slot := new } }) := by
  unfold commit
  rw [Act.bind_of_ok _ _ _ _ _ (find_of_there there)]
  dsimp only
  rw [Act.bind_of_ok _ _ _ _ _ (changeState_of_there there _)]
  cases attached : c.bus.isSome <;>
    cases notable : (c.state.lazy.isSome || cleared || !c.state.slot.same new) <;>
    simp [report, attached]

end Cell

/-- The assignment of a value, or of null. -/
def Assignment.settled : Option Value → Assignment
  | none => .null
  | some v => .value v

/-! ## Deeds -/

/-- What is done to a cell at once. -/
inductive Deed where
  /-- A lazy value is assigned. -/
  | waitFor (l : Lazy)
  /-- A value, or null, is to take the place of what the cell holds. -/
  | place (v : Option Value) (source : Side)
  | delete
  /-- The cell is read, or asked for its state. -/
  | look
  | checkpoint
  /-- The state is replaced. -/
  | restore (state : CellState)

/-- The cell after a deed. A cell that refuses a value waits no longer either. -/
def Deed.apply : Deed → Cell → Cell
  | .waitFor l, c => { c with baseline := none, state := ⟨some l, .undefined⟩ }
  | .place v source, c =>
    match c.take v source with
    | .ok (new, _) => { c with state := ⟨none, new⟩ }
    | .error _ => { c with state := { c.state with lazy := none } }
  | .delete, c => { c with state := { c.state with slot := .undefined } }
  | .look, c => c
  | .checkpoint, c => c.checkpoint
  | .restore state, c => { c with state }

/-- What no deed changes of a cell. -/
structure Cell.Alike (c d : Cell) : Prop where
  kind : c.kind = d.kind
  allowNull : c.allowNull = d.allowNull
  column : c.column = d.column
  bus : c.bus = d.bus
  validator : c.validator = d.validator

theorem Cell.Alike.refl (c : Cell) : c.Alike c := ⟨rfl, rfl, rfl, rfl, rfl⟩

theorem Cell.Alike.trans {c d e : Cell} (first : c.Alike d) (second : d.Alike e) : c.Alike e :=
  ⟨first.kind.trans second.kind, first.allowNull.trans second.allowNull,
    first.column.trans second.column, first.bus.trans second.bus,
    first.validator.trans second.validator⟩

theorem Deed.apply_alike (deed : Deed) (c : Cell) : (deed.apply c).Alike c := by
  cases deed with
  | place v source =>
    cases taken : c.take v source <;> simp only [apply, taken] <;> exact ⟨rfl, rfl, rfl, rfl, rfl⟩
  | waitFor | delete | look | checkpoint | restore => exact ⟨rfl, rfl, rfl, rfl, rfl⟩

/-- A program does something to a cell at once and then goes on, knowing the cell as it was before.
Without the cell it does nothing. -/
structure Begins (id : CellId) (deed : Deed) (act : Act (World υ) α) (absent : α)
    (rest : Cell → Act (World υ) α) : Prop where
  absent : ∀ w : World υ, w.store.cells[id]? = none → act w = (.ok absent, w)
  present : ∀ (w : World υ) (c : Cell), w.store.cells[id]? = some c →
    act w = rest c (w.withCell id (deed.apply c))

namespace Cell

variable (foreign : Foreign υ) (id : CellId)

/-- The value that is to be put into a cell: the program's values go through the validator. -/
def judge (c : Cell) (v : Option Value) (source : Side) : Act (World υ) (Option Value) :=
  match source, c.validator with
  | .program, some validator => validate foreign validator v
  | _, _ => pure v

theorem set_settled (v : Option Value) (source : Side) :
    set foreign id (.settled v) source = assign foreign id v source := by
  cases v <;> rfl

theorem assign_of_there {w : World υ} {c : Cell} (there : w.store.cells[id]? = some c)
    (v : Option Value) (source : Side) :
    assign foreign id v source w =
      (judge foreign c v source >>= fun v => place foreign id c v source) w := by
  refine (Act.bind_of_ok _ _ _ _ _ (find_of_there there)).trans ?_
  obtain ⟨kind, allowNull, column, bus, validator, state, baseline⟩ := c
  cases source <;> cases validator <;> rfl

def placeNow (v : Option Value) (source : Side) : Act (World υ) Unit := do
  match ← find id with
  | none => pure ()
  | some c => place foreign id c v source

theorem place_of_alike {w : World υ} {now c : Cell} (there : w.store.cells[id]? = some now)
    (alike : now.Alike c) (v : Option Value) (source : Side) :
    place foreign id c v source w = placeNow foreign id v source w := by
  refine Eq.trans ?_ (Act.bind_of_ok _ _ _ _ _ (find_of_there there)).symm
  simp only [place, alike.kind, alike.allowNull, alike.column]

theorem begins_look : Begins (υ := υ) id .look (find id) none fun c => pure (some c) where
  absent _ absent := find_of_absent absent
  present w c there := by
    rw [find_of_there there, Deed.apply, World.withCell_self there]
    rfl

theorem begins_checkpoint :
    Begins (υ := υ) id .checkpoint (setCheckpoint id) () fun _ => pure () where
  absent _ absent := World.change_adjustCell_absent absent _
  present _ _ there := World.change_adjustCell there _

theorem begins_restore (state : CellState) :
    Begins (υ := υ) id (.restore state) (changeState id fun _ => state) () fun _ => pure () where
  absent _ absent := World.change_adjustCell_absent absent _
  present _ _ there := World.change_adjustCell there _

theorem begins_delete :
    Begins id .delete (delete foreign id) () fun c =>
      if c.state.slot.isDefined then report foreign id c (.slot .undefined) .program
      else pure () where
  absent w absent := Act.bind_of_ok _ _ _ _ _ (find_of_absent absent)
  present w c there := by
    unfold delete
    rw [Act.bind_of_ok _ _ _ _ _ (find_of_there there)]
    dsimp only
    rw [Act.bind_of_ok _ _ _ _ _ (changeState_of_there there _)]
    cases defined : c.state.slot.isDefined <;> cases attached : c.bus.isSome <;>
      simp [report, Deed.apply, attached]

theorem begins_get (default : Option Value) (target : Side) :
    Begins id .look (get foreign id default target) default fun c => do
      match c.state.lazy with
      | some l => announce foreign c.bus resolveEvent [.cell id, .lazy l]
      | none => pure ()
      content id default target where
  absent w absent := Act.bind_of_ok _ _ _ _ _ (find_of_absent absent)
  present w c there := by
    have same : w.withCell id (Deed.look.apply c) = w := World.withCell_self there
    rw [same]
    exact Act.bind_of_ok _ _ _ _ _ (find_of_there there)

theorem begins_waitFor (l : Lazy) (source : Side) :
    Begins id (.waitFor l) (set foreign id (.lazy l) source) () fun c =>
      report foreign id c (.lazy l) source where
  absent w absent :=
    (Act.bind_of_ok _ _ _ _ _ (World.change_adjustCell_absent absent _)).trans
      (Act.bind_of_ok _ _ _ _ _ (find_of_absent absent))
  present w c there := by
    refine (Act.bind_of_ok _ _ _ _ _ (World.change_adjustCell there _)).trans ?_
    rw [commit_of_there (World.cells_withCell there _), World.withCell_withCell]
    rfl

theorem takeLazy_of_there {w : World υ} {id : CellId} {c : Cell}
    (there : w.store.cells[id]? = some c) :
    takeLazy id w =
      (.ok c.state.lazy.isSome,
        w.withCell id { c with state := { c.state with lazy := none } }) := by
  unfold takeLazy
  rw [Act.bind_of_ok _ _ _ _ _ (find_of_there there)]
  dsimp only
  rw [Act.bind_of_ok _ _ _ _ _ (changeState_of_there there _)]
  rfl

/-- What is put into a cell is committed unless the cell refuses it. -/
theorem place_eq (c : Cell) (v : Option Value) (source : Side) :
    place foreign id c v source =
      takeLazy id >>= fun cleared => Act.lift (c.take v source) >>= fun taken =>
        commit foreign id taken.1 (.slot taken.2) cleared source := by
  unfold place
  congr 1
  funext cleared
  cases v with
  | none => cases allowed : c.allowNull <;> simp only [take, allowed] <;> rfl
  | some v =>
    change (Act.lift (c.kind.accept source v) >>= _) = _
    cases accepted : c.kind.accept source v with
    | error e =>
      have refused : c.take (some v) source = .error e := by
        simp only [take, accepted, bind, Except.bind]
      rw [refused]
      rfl
    | ok kept =>
      cases source with
      | program =>
        have taken : c.take (some v) .program = .ok (.value kept, .value v) := by
          simp only [take, accepted, bind, Except.bind]
          rfl
        rw [taken]
        rfl
      | database =>
        cases presented : c.kind.present .program kept with
        | error e =>
          have refused : c.take (some v) .database = .error e := by
            simp only [take, accepted, presented, bind, Except.bind]
          rw [refused, Act.lift_ok_bind, presented]
          rfl
        | ok shown =>
          have taken : c.take (some v) .database = .ok (.value kept, .value shown) := by
            simp only [take, accepted, presented, bind, Except.bind]
            rfl
          rw [taken, Act.lift_ok_bind, presented]
          rfl

/-- A commit of a value announces the change if a lazy value waited before, or if the content
differs. -/
theorem begins_place (v : Option Value) (source : Side) :
    Begins id (.place v source) (placeNow foreign id v source) () fun c =>
      match c.take v source with
      | .error e => Act.fail e
      | .ok (new, shown) =>
        if c.state.lazy.isSome || !c.state.slot.same new then
          report foreign id c (.slot shown) source
        else pure () where
  absent w absent := Act.bind_of_ok _ _ _ _ _ (find_of_absent absent)
  present w c there := by
    refine (Act.bind_of_ok _ _ _ _ _ (find_of_there there)).trans ?_
    dsimp only
    rw [place_eq, Act.bind_of_ok _ _ _ _ _ (takeLazy_of_there there)]
    cases taken : c.take v source with
    | error e =>
      simp only [Deed.apply, taken]
      rfl
    | ok both =>
      obtain ⟨new, shown⟩ := both
      rw [Act.lift_ok_bind, commit_of_there (World.cells_withCell there _),
        World.withCell_withCell]
      simp only [Deed.apply, taken, Option.isSome_none, Bool.false_or]
      rfl

end Cell

end RowMapper
