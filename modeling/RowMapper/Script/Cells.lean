import RowMapper.Script.Resolve
import RowMapper.Script.View
/-!
The steps on owners, buses and cells.
-/

set_option autoImplicit false

namespace RowMapper.Script

/-- Makes an owner with a bus of its own. The owner that had the name is dropped. -/
def createOwner (id : Name) : Play Reply := do
  let previous ← Play.look fun s => s.owners.get? id
  let actor ← World.update Store.addActor
  let bus ← World.update (·.addBus (.ofOwner (.actor actor)))
  Play.alter fun s =>
    { s with
      actorNames := s.actorNames ++ [id], owners := s.owners.insert id actor,
      buses := s.buses.insert id bus }
  match previous with
  | some previous => World.change (·.releaseActor previous)
  | none => pure ()
  return .done

def dropOwner (id : Name) : Play Reply := do
  let actor ← Play.named (·.owners) id
  Play.alter fun s => { s with owners := s.owners.erase id }
  World.change (·.releaseActor actor)
  return .done

def createCallback (id : Name) (form : CallbackForm Step) : Play Reply := do
  Play.alter fun s =>
    { s with
      callbacks := s.callbacks ++ [⟨id, form, 0⟩],
      callbackNames := s.callbackNames.insert id s.callbacks.length }
  return .done

def countHooks (bus : BusId) (event : String) : Play Reply := do
  return .count (← World.read fun s => ((s.buses[bus]?).map (·.hookCount event)).getD 0)

def changeHooks (change : Bus → String → Hook → Bus) (on event callback : Name)
    (extra : List ArgForm) :
    Play Reply := do
  let bus ← busNamed on
  let callback ← Play.named (·.callbackNames) callback
  let extra ← extra.mapM ArgForm.build
  World.change (·.adjustBus bus fun b => change b event ⟨callback, extra⟩)
  countHooks bus event

def emitStep (foreign : Foreign Session) (on event : Name) (args : List ArgForm) : Play Reply := do
  let bus ← busNamed on
  let args ← args.mapM ArgForm.build
  Bus.emit foreign bus event args
  countHooks bus event

def showBus (on : Name) : Play Reply := do
  let bus ← busNamed on
  return .text (← World.read fun s =>
    ((s.buses[bus]?).map fun b => b.diagnostic (s.ownerAlive b.owner)).getD "")

def nameCell (id : Name) (cell : CellId) : Play Reply := do
  Play.alter fun s => { s with cells := s.cells.insert id cell }
  return .cell (← viewOf cell) none

def createCell (id : Name) (form : CellForm Step) : Play Reply := do
  let column ← form.column.mapM (Play.named (·.columns))
  let bus ← form.bus.mapM busNamed
  let validator ← form.validator.mapM ValidatorForm.build
  let initial ← form.initial.mapM AssignmentForm.build
  nameCell id (← Cell.build form.kind form.allowNull column bus validator
    (initial.map (·, form.source)))

def createColumnCell (foreign : Foreign Session) (id column : Name) (bus context : Option Name) :
    Play Reply := do
  let column ← Play.named (·.columns) column
  let bus ← bus.mapM busNamed
  let context ← contextNamed context
  nameCell id (← Cell.ofColumn foreign column bus context)

/-- Does something with a cell and shows the cell, and the failure if there was one. -/
def cellStep (name : Name) (act : CellId → Play Unit) : Play Reply := do
  let cell ← cellNamed name
  let result ← (act cell).attempt
  let view ← viewOf cell
  match result with
  | .ok () => return .cell view none
  | .error e => return .cell view (some e)

def getStep (foreign : Foreign Session) (name : Name) (default : Option Value) (target : Side) :
    Play Reply := do
  let cell ← cellNamed name
  let result ← (Cell.get foreign cell default target).attempt
  return .got result (← viewOf cell)

def setStateStep (name : Name) (slot : Slot) (lazy : Option LazyForm) : Play Reply := do
  let cell ← cellNamed name
  let lazy ← lazy.mapM LazyForm.build
  Cell.changeState cell fun _ => ⟨lazy, slot⟩
  return .cell (← viewOf cell) none

def sameStates (s : Store) (a b : CellId) : Bool :=
  match s.cells[a]?, s.cells[b]? with
  | some a, some b => a.state.same b.state
  | _, _ => false

def copyStep (id name : Name) : Play Reply := do
  let cell ← cellNamed name
  match ← Cell.copy cell with
  | none => Act.fail (.invariant (.stated "no such cell"))
  | some made =>
    Play.alter fun s => { s with cells := s.cells.insert id made }
    return .copied (← viewOf made) (made == cell) (← World.read fun s => sameStates s made cell)

def showCell (name : Name) : Play Reply := do
  let cell ← cellNamed name
  match ← World.read fun s => (s.cells[cell]?).map fun c =>
      Reply.cellFacts c.kind.name (c.column.map Column.qualifiedName) c.allowNull c.bus.isSome
        (c.state.lazy.map (Lazy.diagnostic s.describeCell)) (c.diagnostic s.describeCell) with
  | some reply => pure reply
  | none => Act.fail (.invariant (.stated "no such cell"))

end RowMapper.Script
