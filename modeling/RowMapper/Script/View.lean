import RowMapper.Script.Session
/-!
What cells, records and parameters show.
-/

set_option autoImplicit false

namespace RowMapper.Script

/-- What a cell shows, given its store. -/
def viewCell (s : Store) (c : Cell) : CellView where
  slot := c.state.slot
  lazy := c.state.lazy.map (Lazy.diagnostic s.describeCell)
  defined := c.state.slot.isDefined
  changed := c.hasChanged

def viewOf (id : CellId) : Play CellView := do
  match ← World.read fun s => (s.cells[id]?).map (viewCell s) with
  | some view => pure view
  | none => Act.fail (.invariant (.stated "no such cell"))

def viewMember (s : Store) (i : Info) (column : Column) (cell : CellId) : MemberView :=
  match s.cells[cell]? with
  | none => ⟨column.qualifiedName, .undefined, false, false⟩
  | some c =>
    { column := column.qualifiedName, slot := c.state.slot, changed := c.hasChanged,
      bound := Info.cellOf? i column == some cell &&
        (c.column.any fun other => other.same column) }

def observesClass (s : Store) (info : InfoId) (classId : ClassId) : Bool :=
  ((s.observed? info).bind fun id => s.objects[id]?).any fun o => o.classId == classId

def viewInfo (w : Scene) (id : InfoId) (i : Info) : InfoView where
  members := i.cells.map fun (column, cell) => viewMember w.store i column cell
  keys := i.keyCells.map fun key => i.cells.findIdx? fun (_, cell) => cell == key
  changed := i.hasChanged w.store
  object := (w.store.observed? id).map w.user.objectName
  classes := (observesClass w.store id 0, observesClass w.store id 1)

def viewOfInfo (id : InfoId) : Play InfoView := do
  match ← Act.read fun (w : Scene) => (w.store.infos[id]?).map (viewInfo w id) with
  | some view => pure view
  | none => Act.fail (.invariant (.stated "no such record"))

def viewParameter (w : Scene) : Parameter → ParameterView
  | .value kind v => ⟨kind.name, .value v, none⟩
  | .cell id =>
    match w.store.cells[id]? with
    | some c => ⟨c.kind.name, c.state.slot, nameOf? w.user.cells (· == id)⟩
    | none => ⟨"", .undefined, none⟩

end RowMapper.Script
