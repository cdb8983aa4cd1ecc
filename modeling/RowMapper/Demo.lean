import RowMapper.Mapping.ObjectInfo
import RowMapper.Settings.Dialect
/-!
A demonstration: some expressions are compiled in the dialect of the settings, and an object is
mapped, changed and dropped.
-/

set_option autoImplicit false

namespace RowMapper.Demo

abbrev Lines := List String

abbrev Show (α : Type) := Act (World Lines) α

def say (line : String) : Show Unit := Act.change fun w => { w with user := w.user ++ [line] }

def person : Table := ⟨"person"⟩

def idColumn : Column where
  id := 0
  name := "id"
  table := some person
  position := 1
  factory := { kind := .int, allowNull := false }

def nameColumn : Column where
  id := 1
  name := "name"
  table := some person
  position := 0
  factory := { kind := .text }

def node (n : Node) : Expr := .node 0 n

def integer (n : Int64) : Expr := node (.value (.int n))

def samples : List Expr :=
  let idExpr := node (.column idColumn)
  let nameExpr := node (.column nameColumn)
  let binary (op : BinaryOp) (left right : Expr) : Expr := node (.binary op left right)
  [ node (.compound .and (.seq [
      binary .eq idExpr (integer 42),
      node (.compound .or (.seq [
        binary .like nameExpr (node (.value (.text "A%"))),
        binary .eq nameExpr (node .null)]))])),
    binary .sub (integer 1) (binary .sub (integer 2) (integer 3)),
    node (.prefixed .not (binary .ne idExpr (node .null))),
    .seq [node (.call "lower" (.seq [nameExpr])), node (.suffixed .desc idExpr)]]

def showSamples (settings : Settings) (tables : Tables Builtin) : List Expr → Show Unit
  | [] => pure ()
  | sample :: rest => do
    let (result, pass) := tables.compile settings.options sample {}
    let sql ← Act.lift result
    say (sql ++ "    -- " ++ toString pass.parameters.length ++ " parameter(s)")
    showSamples settings tables rest

def onChange : CallbackId := 0

def onDelete : CallbackId := 1

def columnText (s : Store) (cell : CellId) : String :=
  Text.optional (((s.cells[cell]?).bind Cell.column).map Column.diagnostic)

def call (callback : CallbackId) (_ : Owner) (args : List Arg) : Show Flow := do
  if callback = onChange then
    match args with
    | .cell cell :: .slot old :: _ =>
      let column ← World.read fun s => columnText s cell
      say (column ++ " changed, was " ++ old.diagnostic)
    | _ => pure ()
    return .keep
  else
    say "person deleted"
    return .unsubscribe

/-- The code of the demonstration. It has no rules and no sources of initial values. -/
def foreign : Foreign Lines where
  call := call
  validate _ _ _ v := pure v
  initial _ w := (.null, w)
  declared _ w := (⟨"squall::Person", person, [idColumn, nameColumn], none, []⟩, w)

def showObject : Show Unit := do
  let object ← World.update (·.addObject 0)
  match ← Info.ofObject foreign object with
  | none => pure ()
  | some id =>
    match ← World.read (fun s => s.infos[id]?) with
    | none => pure ()
    | some info =>
      World.change (·.adjustBus info.bus fun b =>
        (b.hook Cell.changedEvent ⟨onChange, []⟩).hook Obj.deletedEvent ⟨onDelete, []⟩)
      match Info.cellOf? info nameColumn with
      | none => pure ()
      | some cell =>
        Cell.set foreign cell (.value (.text "Alice")) .program
        Cell.set foreign cell (.value (.text "Alice")) .program
        Info.setCheckpoint id
        Cell.set foreign cell (.value (.text "Bob")) .program
        let changed ← World.read fun s => info.hasChanged s
        say ("has changed: " ++ Text.truth changed)
  Obj.release foreign object

def perform (settings : Settings) : Show Unit := do
  let (dialect, h) := settings.dialect (Hierarchy.standard (id : Builtin → Builtin)) 0
  showSamples settings (h.effective dialect) samples
  showObject

def run (document : Option String) (environment : List (String × String)) : Lines × Option Error :=
  match Settings.load document environment with
  | .error e => ([], some e)
  | .ok settings =>
    let (result, w) := perform settings ⟨.empty, []⟩
    match result with
    | .ok () => (w.user, none)
    | .error e => (w.user, some e)

end RowMapper.Demo
