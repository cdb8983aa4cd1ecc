import RowMapper.Act
import RowMapper.Bus.Basic
import RowMapper.Mapping.ClassInfo
/-!
The store of a program: cells, buses, actors, records of mapped objects and the objects themselves,
each known by its number. Actors, records and objects live as long as something refers to them; the
store counts the references. A world is a store beside whatever else a program keeps, and foreign
code is what the program brings: callbacks, validators, sources of initial values and declarations
of classes.
-/

set_option autoImplicit false

namespace RowMapper

/-- The number of a mapped class. -/
abbrev ClassId := Nat

/-- The record of a mapped object: one cell for each column. It does not keep its object alive. -/
structure Info where
  classId : ClassId
  cells : List (Column × CellId)
  /-- The cells of the key columns, in the order of the key. -/
  keyCells : List CellId
  object : ObjectId
  /-- The end of the object has been announced. -/
  notified : Bool
  bus : BusId
  references : Nat

/-- A mapped object with the record attached to it, and with the records that were replaced there
while they observed it. -/
structure Obj where
  classId : ClassId
  references : Nat
  attached : Option InfoId
  replaced : List InfoId

structure Store where
  cells : List Cell
  buses : List Bus
  /-- The references to each actor. -/
  actors : List Nat
  infos : List Info
  objects : List Obj
  /-- What is known of the classes used so far. -/
  classes : Dict ClassId ClassInfo

namespace Store

def empty : Store := ⟨[], [], [], [], [], .empty⟩

instance : Inhabited Store := ⟨empty⟩

def adjustCell (s : Store) (id : CellId) (f : Cell → Cell) : Store :=
  { s with cells := s.cells.modify id f }

def adjustBus (s : Store) (id : BusId) (f : Bus → Bus) : Store :=
  { s with buses := s.buses.modify id f }

def adjustInfo (s : Store) (id : InfoId) (f : Info → Info) : Store :=
  { s with infos := s.infos.modify id f }

def adjustObject (s : Store) (id : ObjectId) (f : Obj → Obj) : Store :=
  { s with objects := s.objects.modify id f }

def addCell (s : Store) (c : Cell) : CellId × Store :=
  (s.cells.length, { s with cells := s.cells ++ [c] })

def addBus (s : Store) (b : Bus) : BusId × Store :=
  (s.buses.length, { s with buses := s.buses ++ [b] })

def addActor (s : Store) : ActorId × Store :=
  (s.actors.length, { s with actors := s.actors ++ [1] })

/-- Adds an object with one reference and nothing attached. -/
def addObject (s : Store) (classId : ClassId) : ObjectId × Store :=
  (s.objects.length, { s with objects := s.objects ++ [⟨classId, 1, none, []⟩] })

def actorAlive (s : Store) (id : ActorId) : Bool := (s.actors[id]?).getD 0 ≠ 0

def infoAlive (s : Store) (id : InfoId) : Bool :=
  match s.infos[id]? with
  | some info => info.references ≠ 0
  | none => false

def objectAlive (s : Store) (id : ObjectId) : Bool :=
  match s.objects[id]? with
  | some o => o.references ≠ 0
  | none => false

def ownerAlive (s : Store) : Owner → Bool
  | .actor id => s.actorAlive id
  | .info id => s.infoAlive id

def retainActor (s : Store) (id : ActorId) : Store :=
  { s with actors := s.actors.modify id (· + 1) }

def releaseActor (s : Store) (id : ActorId) : Store :=
  { s with actors := s.actors.modify id (· - 1) }

def retainInfo (s : Store) (id : InfoId) : Store :=
  s.adjustInfo id fun info => { info with references := info.references + 1 }

def releaseInfo (s : Store) (id : InfoId) : Store :=
  s.adjustInfo id fun info => { info with references := info.references - 1 }

def retainObject (s : Store) (id : ObjectId) : Store :=
  s.adjustObject id fun o => { o with references := o.references + 1 }

def retainOwner (s : Store) : Owner → Store
  | .actor id => s.retainActor id
  | .info id => s.retainInfo id

def releaseOwner (s : Store) : Owner → Store
  | .actor id => s.releaseActor id
  | .info id => s.releaseInfo id

/-- The object that a record observes, as long as it lives. -/
def observed? (s : Store) (id : InfoId) : Option ObjectId :=
  match s.infos[id]? with
  | some info => if s.objectAlive info.object then some info.object else none
  | none => none

/-- The context that a source leads to, as long as it lives. -/
def context? (s : Store) : ContextSource → Option ContextRef
  | .actor id => if s.actorAlive id then some (.actor id) else none
  | .objectOf info => if s.infoAlive info then (s.observed? info).map .object else none

/-- The diagnostic form of a cell. A lazy value may show further cells, at most so many deep. -/
def describeCellTo : Nat → Store → CellId → String
  | 0, _, _ => ""
  | depth + 1, s, id =>
    match s.cells[id]? with
    | some c => c.diagnostic (describeCellTo depth s)
    | none => ""

def describeCell (s : Store) (id : CellId) : String := describeCellTo (s.cells.length + 1) s id

def describeInfo (s : Store) (id : InfoId) : String :=
  match s.infos[id]? with
  | some info =>
    let typeName := match s.classes.get? info.classId with
      | some known => known.typeName
      | none => ""
    Text.record "ObjectInfo"
      [("type", Text.quoted typeName), ("alive", Text.truth (s.objectAlive info.object)),
        ("variables", Text.listed (info.cells.map fun (_, cell) => s.describeCell cell))]
  | none => ""

end Store

/-- A store beside what else a program keeps. -/
structure World (υ : Type) where
  store : Store
  user : υ

/-- What a program declares of a class. -/
structure ClassDeclaration where
  typeName : String
  table : Table
  columns : List Column
  primary : Option (List String)
  order : List String

/-- The code that a program brings. -/
structure Foreign (υ : Type) where
  /-- Calls a callback for an owner. -/
  call : CallbackId → Owner → List Arg → Act (World υ) Flow
  /-- Applies a rule to a value that is to be assigned, null being none. -/
  validate : RuleId → Option ContextRef → String → Option Value → Act (World υ) (Option Value)
  /-- Asks a source for an initial value. -/
  initial : DefaultId → World υ → Assignment × World υ
  /-- Asks for the declaration of a class. -/
  declared : ClassId → World υ → ClassDeclaration × World υ

namespace World

variable {υ α : Type}

def read (f : Store → α) : Act (World υ) α := fun w => (.ok (f w.store), w)

def change (f : Store → Store) : Act (World υ) Unit :=
  fun w => (.ok (), { w with store := f w.store })

/-- Changes the store and yields what the change yields. -/
def update (f : Store → α × Store) : Act (World υ) α := fun w =>
  let changed := f w.store
  (.ok changed.1, { w with store := changed.2 })

/-- Changes the store at the end of something, whatever its outcome. -/
def ensure (act : Act (World υ) α) (f : Store → Store) : Act (World υ) α :=
  Act.ensure act fun w => { w with store := f w.store }

end World

end RowMapper
