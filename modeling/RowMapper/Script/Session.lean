import RowMapper.Compiler.Forest
import RowMapper.Mapping.ObjectInfo
import RowMapper.Script.Reply
/-!
The state of a running script: what its names stand for, the code it has brought, and the log. A
thing is shown by the first of its names in their order.
-/

set_option autoImplicit false

namespace RowMapper.Script

/-- The pieces of a handler, which captures handles. -/
abbrev HandlerProgram := List (Piece Step Handle)

/-- A source of initial values, with the number of times it has been asked. -/
inductive InitialSource where
  | assign (a : Assignment)
  | counter (start : Int64) (asked : Nat)

/-- A callback with the name it had when it was made and the number of calls. -/
structure Callback where
  name : Name
  form : CallbackForm Step
  calls : Nat

structure Session where
  forest : Forest HandlerProgram := .empty
  callbacks : List Callback := []
  rules : List (List (Rule Step)) := []
  initials : List InitialSource := []
  declarations : Dict ClassId (ClassForm Step) := .empty
  limits : Dict ObjectId Int64 := .empty
  /-- The names that actors were made with. -/
  actorNames : List Name := []
  compilers : Dict Name Handle := .empty
  exprs : Dict Name Expr := .empty
  columns : Dict Name Column := .empty
  passes : Dict Name Pass := .empty
  owners : Dict Name ActorId := .empty
  buses : Dict Name BusId := .empty
  callbackNames : Dict Name CallbackId := .empty
  cells : Dict Name CellId := .empty
  objects : Dict Name ObjectId := .empty
  infos : Dict Name InfoId := .empty
  /-- The next mark for a node. -/
  nextMark : Nat := 0
  /-- The number for the next column. -/
  nextColumn : Nat := 0
  /-- The latest entry in front. -/
  log : List LogEntry := []

/-- The store with the state of the script. -/
abbrev Scene := World Session

/-- A computation in a script. -/
abbrev Play (α : Type) := Act Scene α

namespace Play

variable {α : Type}

def look (f : Session → α) : Play α := Act.read fun w => f w.user

def alter (f : Session → Session) : Play Unit := Act.change fun w => { w with user := f w.user }

/-- Changes the state of the script and yields what the change yields. -/
def alterGiving (f : Session → α × Session) : Play α :=
  Act.update fun w =>
    let changed := f w.user
    (changed.1, { w with user := changed.2 })

def plant (f : Forest HandlerProgram → Forest HandlerProgram) : Play Unit :=
  alter fun s => { s with forest := f s.forest }

def plantGiving (f : Forest HandlerProgram → α × Forest HandlerProgram) : Play α :=
  alterGiving fun s =>
    let changed := f s.forest
    (changed.1, { s with forest := changed.2 })

def record (entry : LogEntry) : Play Unit := alter fun s => { s with log := entry :: s.log }

def named (table : Session → Dict Name α) (name : Name) : Play α := do
  match (← look table).get? name with
  | some a => pure a
  | none => Act.fail (.invariant (.stated ("unknown name " ++ Text.quoted name)))

end Play

def firstName : Option Name → Name → Option Name
  | none, name => some name
  | some other, name => some (if name < other then name else other)

/-- The first name of the things with a property. -/
def nameOf? {α : Type} (d : Dict Name α) (p : α → Bool) : Option Name :=
  ((d.entries.filter fun entry => p entry.2).map Prod.fst).foldl firstName none

/-- What is shown of a thing without a name. -/
def nameless : Name := "?"

namespace Session

def infoName (s : Session) (id : InfoId) : Name := (nameOf? s.infos (· == id)).getD nameless

def objectName (s : Session) (id : ObjectId) : Name := (nameOf? s.objects (· == id)).getD nameless

def actorName (s : Session) (id : ActorId) : Name := (s.actorNames[id]?).getD nameless

def ownerName (s : Session) : Owner → Name
  | .actor id => s.actorName id
  | .info id => s.infoName id

def contextName (s : Session) : ContextRef → Name
  | .actor id => s.actorName id
  | .object id => s.objectName id

/-- Where a cell stands in a record. -/
def placeIn (store : Store) (info : InfoId) (cell : CellId) : Option Nat :=
  (store.infos[info]?).bind fun i => i.cells.findIdx? fun (_, other) => other == cell

def cellName (s : Session) (store : Store) (cell : CellId) : Name :=
  match nameOf? s.cells (· == cell) with
  | some name => name
  | none =>
    match nameOf? s.infos fun info => (placeIn store info cell).isSome with
    | none => nameless
    | some name =>
      match (s.infos.get? name).bind fun info => placeIn store info cell with
      | some place => name ++ "." ++ toString place
      | none => nameless

end Session

end RowMapper.Script
