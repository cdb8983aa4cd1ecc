import RowMapper.Mapping.Deletion
/-!
What a program does with a cell: reading it, which first asks the bus for a lazy value, assigning to
it, emptying it, and setting checkpoints. Assignments and deletions that change a cell are announced
on its bus, when the change can already be seen.
-/

set_option autoImplicit false

namespace RowMapper.Cell

variable {υ : Type}

/-- The event of a change: the cell, the old content, the new one, and whether it comes from the
database. -/
def changedEvent : String := "changed"

/-- The event of a read while a lazy value waits: the cell and the lazy value. -/
def resolveEvent : String := "resolve-lazy-value"

def find (id : CellId) : Act (World υ) (Option Cell) := World.read fun s => s.cells[id]?

def changeState (id : CellId) (f : CellState → CellState) : Act (World υ) Unit :=
  World.change (·.adjustCell id fun c => { c with state := f c.state })

/-- Emits an event on the bus of a cell, if it has one. -/
def announce (foreign : Foreign υ) (bus : Option BusId) (name : String) (args : List Arg) :
    Act (World υ) Unit :=
  match bus with
  | none => pure ()
  | some bus => Bus.emit foreign bus name args

/-- Applies the rule of a validator. Its context is kept alive meanwhile. -/
def validate (foreign : Foreign υ) (validator : Validator) (v : Option Value) :
    Act (World υ) (Option Value) := do
  let context ← World.read fun s => validator.context.bind s.context?
  match context with
  | none => foreign.validate validator.rule none validator.name v
  | some (.actor id) =>
    World.change (·.retainActor id)
    World.ensure (foreign.validate validator.rule (some (.actor id)) validator.name v)
      (·.releaseActor id)
  | some (.object id) =>
    World.change (·.retainObject id)
    let result ← (foreign.validate validator.rule (some (.object id)) validator.name v).attempt
    Obj.release foreign id
    Act.lift result

/-- Puts a new content into a cell and announces it if the content differs, or if a lazy value waits
or has just been taken away. -/
def commit (foreign : Foreign υ) (id : CellId) (new : Slot) (payload : Arg) (cleared : Bool)
    (source : Side) : Act (World υ) Unit := do
  match ← find id with
  | none => pure ()
  | some c =>
    let old := c.state.slot
    let notable := c.state.lazy.isSome || cleared || !old.same new
    changeState id fun state => { state with slot := new }
    if c.bus.isSome && notable then
      let shown ← Act.lift (c.external old)
      announce foreign c.bus changedEvent [.cell id, .slot shown, payload,
        .flag (source = .database)]

/-- Takes a waiting lazy value away; yields whether there was one. -/
def takeLazy (id : CellId) : Act (World υ) Bool := do
  match ← find id with
  | none => pure false
  | some c =>
    changeState id fun state => { state with lazy := none }
    return c.state.lazy.isSome

/-- Puts a value, or null, in the place of what a cell holds and of a lazy value that waits. The
lazy value is gone also if the new value is refused. -/
def place (foreign : Foreign υ) (id : CellId) (c : Cell) (v : Option Value) (source : Side) :
    Act (World υ) Unit := do
  let cleared ← takeLazy id
  match v with
  | none =>
    if c.allowNull then commit foreign id .null (.slot .null) cleared source
    else Act.fail (.nullNotAllowed (c.column.map Column.qualifiedName))
  | some v =>
    let kept ← Act.lift (c.kind.accept source v)
    match source with
    | .database =>
      let shown ← Act.lift (c.kind.present .program kept)
      commit foreign id (.value kept) (.slot (.value shown)) cleared source
    | .program => commit foreign id (.value kept) (.slot (.value v)) cleared source

/-- Assigns a value, or null. The program's values are validated first, which may put others in
their place. -/
def assign (foreign : Foreign υ) (id : CellId) (v : Option Value) (source : Side) :
    Act (World υ) Unit := do
  match ← find id with
  | none => pure ()
  | some c =>
    let v ← match source, c.validator with
      | .program, some validator => validate foreign validator v
      | _, _ => pure v
    place foreign id c v source

/-- Assigns to a cell. A lazy value also takes the checkpoint away. -/
def set (foreign : Foreign υ) (id : CellId) (a : Assignment) (source : Side) : Act (World υ) Unit :=
  match a with
  | .lazy l => do
    World.change (·.adjustCell id fun c =>
      { c with baseline := none, state := { c.state with lazy := some l } })
    commit foreign id .undefined (.lazy l) false source
  | .null => assign foreign id none source
  | .value v => assign foreign id (some v) source

/-- Reads what a cell holds, for one side: the default if nothing is there, and none for null. -/
def content (id : CellId) (default : Option Value) (target : Side) :
    Act (World υ) (Option Value) := do
  match ← find id with
  | none => pure default
  | some c =>
    match c.state.slot with
    | .undefined => pure default
    | .null => pure none
    | .value v => Act.lift ((c.kind.present target v).map some)

/-- Reads a cell. If a lazy value waits, a listener may assign to the cell before. -/
def get (foreign : Foreign υ) (id : CellId) (default : Option Value) (target : Side) :
    Act (World υ) (Option Value) := do
  match ← find id with
  | none => pure default
  | some c =>
    match c.state.lazy with
    | some l => announce foreign c.bus resolveEvent [.cell id, .lazy l]
    | none => pure ()
    content id default target

def delete (foreign : Foreign υ) (id : CellId) : Act (World υ) Unit := do
  match ← find id with
  | none => pure ()
  | some c =>
    let old := c.state.slot
    changeState id fun state => { state with slot := .undefined }
    if old.isDefined && c.bus.isSome then
      let shown ← Act.lift (c.external old)
      announce foreign c.bus changedEvent [.cell id, .slot shown, .slot .undefined, .flag false]

def setCheckpoint (id : CellId) : Act (World υ) Unit :=
  World.change (·.adjustCell id Cell.checkpoint)

/-- Makes a detached cell with the state of another. -/
def copy (id : CellId) : Act (World υ) (Option CellId) := World.update fun s =>
  match s.cells[id]? with
  | none => (none, s)
  | some c =>
    let (made, s) := s.addCell c.detached
    (some made, s)

/-- Makes a cell, with a first value or with nothing in it. A first value is neither validated nor
announced. -/
def build (kind : Kind) (allowNull : Bool) (column : Option Column) (bus : Option BusId)
    (validator : Option Validator) (first : Option (Assignment × Side)) : Act (World υ) CellId := do
  let state ← Act.lift (match first with
    | none => .ok .initial
    | some (a, source) => CellState.ofAssignment kind allowNull column source a)
  World.update (·.addCell { kind, allowNull, column, bus, validator, state, baseline := none })

def ofColumn (foreign : Foreign υ) (column : Column) (bus : Option BusId)
    (context : Option ContextSource) : Act (World υ) CellId := do
  let factory := column.factory
  let state ← match factory.initial with
    | none => pure CellState.initial
    | some source => do
      let first ← Act.update (foreign.initial source)
      Act.lift (CellState.ofAssignment factory.kind factory.allowNull (some column) .program first)
  let validator := factory.validator.map fun (rule, name) => (⟨rule, name, context⟩ : Validator)
  World.update (·.addCell
    { kind := factory.kind, allowNull := factory.allowNull, column := some column, bus,
      validator, state, baseline := none })

end RowMapper.Cell
