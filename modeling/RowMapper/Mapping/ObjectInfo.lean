import RowMapper.Cell.Operations
/-!
Records of mapped objects: one cell for each column of the class, all on one bus of their own. An
object is given its record when it is first asked for, and keeps it; another record can be attached
instead.
-/

set_option autoImplicit false

namespace RowMapper.Info

variable {υ : Type}

/-- What is known of a class, found out when it is first asked for. What the declaration itself has
found out meanwhile stays. -/
def classInfo (foreign : Foreign υ) (id : ClassId) : Act (World υ) ClassInfo := do
  match ← World.read (fun s => s.classes.get? id) with
  | some known => pure known
  | none =>
    let d ← Act.update (foreign.declared id)
    match ClassInfo.build d.typeName d.table d.columns d.primary d.order with
    | .error fault => Act.fail (.classInfo fault)
    | .ok built =>
      World.update fun s => match s.classes.get? id with
        | some known => (known, s)
        | none => (built, { s with classes := s.classes.insert id built })

/-- Makes the cells of columns, up to the first that fails. -/
def makeCells (foreign : Foreign υ) (bus : BusId) (info : InfoId) :
    List Column → Act (World υ) (List (Column × CellId))
  | [] => pure []
  | column :: rest => do
    let cell ← Cell.ofColumn foreign column (some bus) (some (.objectOf info))
    let cells ← makeCells foreign bus info rest
    return (column, cell) :: cells

/-- Sets aside the numbers of a record without references and of its bus. -/
def reserve (classId : ClassId) (object : ObjectId) : Act (World υ) (InfoId × BusId) :=
  World.update fun s =>
    let info := s.infos.length
    let (bus, s) := s.addBus (.ofOwner (.info info))
    ((info, bus), { s with infos := s.infos ++ [⟨classId, [], [], object, false, bus, 0⟩] })

/-- Makes a record for an object, with one reference and not attached to it. -/
def create (foreign : Foreign υ) (object : ObjectId) : Act (World υ) (Option InfoId) := do
  match ← World.read (fun s => s.objects[object]?) with
  | none => pure none
  | some o =>
    let known ← classInfo foreign o.classId
    let (info, bus) ← reserve o.classId object
    let cells ← makeCells foreign bus info known.columns
    let keyCells := known.keyPositions.filterMap fun place => (cells[place]?).map Prod.snd
    World.change (·.adjustInfo info fun i => { i with cells, keyCells, references := 1 })
    return some info

/-- The record attached to an object, made and attached if there is none. It comes with a
reference. -/
def ofObject (foreign : Foreign υ) (object : ObjectId) : Act (World υ) (Option InfoId) := do
  match ← World.read (fun s => (s.objects[object]?).bind Obj.attached) with
  | some info =>
    World.change (·.retainInfo info)
    return some info
  | none =>
    match ← create foreign object with
    | none => pure none
    | some made =>
      match ← World.read (fun s => (s.objects[object]?).bind Obj.attached) with
      | some info =>
        World.change fun s => (s.releaseInfo made).retainInfo info
        return some info
      | none =>
        World.change fun s =>
          (s.adjustObject object fun o => { o with attached := some made }).retainInfo made
        return some made

/-- Attaches a record to an object. The one before is kept with it if it observes the object. -/
def attach (object : ObjectId) (info : InfoId) : Act (World υ) Unit :=
  World.change fun s =>
    match s.objects[object]? with
    | none => s
    | some o =>
      let s := (s.adjustObject object fun o => { o with attached := some info }).retainInfo info
      match o.attached with
      | none => s
      | some previous =>
        if s.observed? previous = some object ∧ previous ≠ info then
          s.adjustObject object fun o => { o with replaced := o.replaced ++ [previous] }
        else s.releaseInfo previous

/-- Lets a record observe an object, whose end is then to be announced anew. -/
def observe (info : InfoId) (object : ObjectId) : Act (World υ) Unit :=
  World.change (·.adjustInfo info fun i => { i with object, notified := false })

def setCheckpoint (info : InfoId) : Act (World υ) Unit := World.change fun s =>
  match s.infos[info]? with
  | none => s
  | some i => i.cells.foldl (fun s (_, cell) => s.adjustCell cell Cell.checkpoint) s

/-- The cell of a column, the last one if the column was declared twice. -/
def cellOf? (i : Info) (column : Column) : Option CellId :=
  (i.cells.reverse.find? fun (other, _) => other.same column).map Prod.snd

/-- Some cell has changed. -/
def hasChanged (s : Store) (i : Info) : Bool :=
  i.cells.any fun (_, cell) => match s.cells[cell]? with
    | some c => c.hasChanged
    | none => false

end RowMapper.Info
