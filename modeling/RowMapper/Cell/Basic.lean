import RowMapper.Sql.Diagnostic
/-!
Cells: what a program keeps of one attribute. A cell holds nothing, null or a value, may wait for a
lazy value, and remembers its state at the last checkpoint. It has changed if a lazy value waits or
its state differs from the one remembered.
-/

set_option autoImplicit false

namespace RowMapper

/-- The content of a cell. -/
inductive Slot where
  | undefined
  | null
  | value (v : Value)

namespace Slot

def same : Slot → Slot → Bool
  | .undefined, .undefined => true
  | .null, .null => true
  | .value a, .value b => a.same b
  | _, _ => false

/-- Null or a value is there. -/
def isDefined : Slot → Bool
  | .undefined => false
  | _ => true

def diagnostic : Slot → String
  | .undefined => "Undefined"
  | .null => "Null"
  | .value v => Text.applied "Value" [v.diagnostic]

end Slot

/-- A value that is to be found when it is read: loaded again, or computed by the database. -/
inductive Lazy where
  | reload
  | expr (e : Expr)

namespace Lazy

/-- The two are equal; expressions are compared by their nodes. -/
def same : Lazy → Lazy → Bool
  | .reload, .reload => true
  | .expr a, .expr b => a.same b
  | _, _ => false

def diagnostic (cell : CellId → String) : Lazy → String
  | .reload => "AutoReload"
  | .expr e => Text.applied "Expr" [e.diagnostic cell]

end Lazy

inductive Assignment where
  | lazy (l : Lazy)
  | null
  | value (v : Value)

/-- What a cell holds and waits for. -/
structure CellState where
  lazy : Option Lazy
  slot : Slot

namespace CellState

def initial : CellState := ⟨none, .undefined⟩

def same (a b : CellState) : Bool :=
  (match a.lazy, b.lazy with
    | none, none => true
    | some l, some m => l.same m
    | _, _ => false) && a.slot.same b.slot

/-- The state of a cell made with a first value, which is neither validated nor announced. -/
def ofAssignment (kind : Kind) (allowNull : Bool) (column : Option Column) (source : Side) :
    Assignment → Except Error CellState
  | .lazy l => .ok ⟨some l, .undefined⟩
  | .null =>
    if allowNull then .ok ⟨none, .null⟩
    else .error (.nullNotAllowed (column.map Column.qualifiedName))
  | .value v => do
    let kept ← kind.accept source v
    match source with
    | .program => return ⟨none, .value kept⟩
    | .database =>
      let _ ← kind.present .program kept
      return ⟨none, .value kept⟩

end CellState

abbrev BusId := Nat

/-- The number of an actor: something of the program that owns a bus or gives validation its
context. -/
abbrev ActorId := Nat

/-- The number of the record of a mapped object. -/
abbrev InfoId := Nat

abbrev ObjectId := Nat

/-- Where a validator finds its context, as long as that lives. -/
inductive ContextSource where
  | actor (id : ActorId)
  /-- The object that a record observes. -/
  | objectOf (info : InfoId)
  deriving DecidableEq, Repr

/-- The context that a validator is given. -/
inductive ContextRef where
  | actor (id : ActorId)
  | object (id : ObjectId)
  deriving DecidableEq, Repr

/-- A rule for assignments by the program, with the name of the attribute that it reports. -/
structure Validator where
  rule : RuleId
  name : String
  context : Option ContextSource
  deriving Repr

structure Cell where
  kind : Kind
  allowNull : Bool
  column : Option Column
  bus : Option BusId
  validator : Option Validator
  state : CellState
  /-- The state at the last checkpoint. -/
  baseline : Option CellState

namespace Cell

/-- Something is new since the last checkpoint. -/
def hasChanged (c : Cell) : Bool :=
  c.state.lazy.isSome || match c.baseline with
    | none => true
    | some baseline => !baseline.same c.state

def checkpoint (c : Cell) : Cell := { c with baseline := some c.state }

/-- A cell apart with the same state, without bus, validator and checkpoint. -/
def detached (c : Cell) : Cell := { c with bus := none, validator := none, baseline := none }

/-- What the program reads of a content: the external form of a value. -/
def external (c : Cell) : Slot → Except Error Slot
  | .value v => (c.kind.present .program v).map .value
  | slot => .ok slot

def diagnostic (cell : CellId → String) (c : Cell) : String :=
  Text.record "Variable"
    [("kind", Text.quoted c.kind.name),
      ("column", Text.optional (c.column.map fun column => Text.quoted column.qualifiedName)),
      ("value", c.state.slot.diagnostic),
      ("lazy_value", Text.optional (c.state.lazy.map (Lazy.diagnostic cell)))]

end Cell

end RowMapper
