import RowMapper.Mapping.ObjectInfo
import RowMapper.Script.Resolve
import RowMapper.Script.View
/-!
The steps on classes, objects and their records.
-/

set_option autoImplicit false

namespace RowMapper.Script

def showClass (foreign : Foreign Session) (id : ClassId) (names : List String) : Play Reply := do
  let _ ← Info.classInfo foreign id
  let info ← Info.classInfo foreign id
  return .classFacts info true (names.map fun name => info.columns.findIdx? fun c => c.name == name)

/-- Gives a name to a reference to an object. The reference that had the name is dropped. -/
def nameObject (foreign : Foreign Session) (id : Name) (object : ObjectId) : Play Reply := do
  let previous ← Play.look fun s => s.objects.get? id
  Play.alter fun s => { s with objects := s.objects.insert id object }
  match previous with
  | some previous => Obj.release foreign previous
  | none => pure ()
  return .done

def createObject (foreign : Foreign Session) (id : Name) (classId : ClassId)
    (limit : Option Int64) :
    Play Reply := do
  let object ← World.update (·.addObject classId)
  match limit with
  | some limit => Play.alter fun s => { s with limits := s.limits.insert object limit }
  | none => pure ()
  nameObject foreign id object

def cloneObject (foreign : Foreign Session) (id of : Name) : Play Reply := do
  let object ← Play.named (·.objects) of
  World.change (·.retainObject object)
  nameObject foreign id object

def dropObject (foreign : Foreign Session) (id : Name) : Play Reply := do
  let object ← Play.named (·.objects) id
  Play.alter fun s => { s with objects := s.objects.erase id }
  Obj.release foreign object
  return .done

/-- Names a record that is made or found for an object, and says by which name it was known. -/
def nameInfo (id object : Name) (make : ObjectId → Play (Option InfoId)) : Play Reply := do
  let object ← Play.named (·.objects) object
  match ← make object with
  | none => Act.fail (.invariant (.stated "no such object"))
  | some info =>
    let known ← Play.look (·.infoName info)
    let previous ← Play.look fun s => s.infos.get? id
    Play.alter fun s => { s with infos := s.infos.insert id info }
    match previous with
    | some previous => World.change (·.releaseInfo previous)
    | none => pure ()
    return .newInfo known (← viewOfInfo info)

def dropInfo (id : Name) : Play Reply := do
  let info ← Play.named (·.infos) id
  Play.alter fun s => { s with infos := s.infos.erase id }
  World.change (·.releaseInfo info)
  return .done

def showAttached (object : Name) : Play Reply := do
  let object ← Play.named (·.objects) object
  let info ← World.read fun s => (s.objects[object]?).bind Obj.attached
  let name ← Play.look fun s => info.map s.infoName
  return .attached name
    (Text.applied "ObjectInfoCell" [if info.isSome then "attached" else "empty"])

def attachStep (object info : Name) : Play Reply := do
  let object ← Play.named (·.objects) object
  let info ← Play.named (·.infos) info
  Info.attach object info
  return .done

def observeStep (info object : Name) : Play Reply := do
  let info ← Play.named (·.infos) info
  let object ← Play.named (·.objects) object
  Info.observe info object
  return .info (← viewOfInfo info)

def showInfo (name : Name) : Play Reply := do
  return .info (← viewOfInfo (← Play.named (·.infos) name))

def checkpointInfo (name : Name) : Play Reply := do
  let info ← Play.named (·.infos) name
  Info.setCheckpoint info
  return .info (← viewOfInfo info)

/-- Whether two names stand for the same record, and whether the records are of the same class. -/
def sameInfo (a b : Name) : Play Reply := do
  let first ← Play.named (·.infos) a
  let second ← Play.named (·.infos) b
  let classOf (s : Store) (id : InfoId) : Option ClassId := (s.infos[id]?).map Info.classId
  let same := first == second
  let sameClass ← World.read fun s => classOf s first == classOf s second
  return .sameInfo same same (if same then 1 else 2) sameClass

def showColumnCell (name : Name) (choice : ColumnChoice) : Play Reply := do
  let id ← Play.named (·.infos) name
  let info ← World.read fun s => s.infos[id]?
  let column ← match choice with
    | .declared column => do pure (some (← Play.named (·.columns) column))
    | .place index => pure (info.bind fun i => (i.cells[index]?).map Prod.fst)
  let cell := do Info.cellOf? (← info) (← column)
  return .name (← Act.read fun w => cell.map (w.user.cellName w.store))

def classOf (typeName : String) (form : ClassForm Step) : Except Error ClassInfo := do
  let table : Table := ⟨form.table⟩
  let scene : Scene := ⟨.empty, {}⟩
  let build (column : ColumnForm Step) : Play Column :=
    column.build (if column.loose then none else some table)
  let columns ← (form.columns.mapM build scene).1
  (ClassInfo.build typeName table columns form.primary form.order).mapError .classInfo

end RowMapper.Script
