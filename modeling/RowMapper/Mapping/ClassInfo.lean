import RowMapper.Dict
import RowMapper.Sql.Diagnostic
/-!
What is known of a mapped class: its table, its columns, its primary key and its default order. The
key is given by name, or made of the columns with a position, in the order of their positions.
-/

set_option autoImplicit false

namespace RowMapper

structure OrderItem where
  column : Column
  descending : Bool
  deriving Repr

def OrderItem.toExpr (item : OrderItem) : Expr :=
  let column := Expr.node 0 (.column item.column)
  if item.descending then .node 0 (.suffixed .desc column) else column

/-- What is known of a class. -/
structure ClassInfo where
  typeName : String
  table : Table
  columns : List Column
  key : List Column
  /-- Where each key column stands among the columns. -/
  keyPositions : List Nat
  order : List OrderItem
  deriving Repr

namespace ClassInfo

/-- The first column with a name. -/
def columnNamed? (columns : List Column) (name : String) : Option Column :=
  columns.find? fun c => c.name == name

def namedKey (typeName : String) (columns : List Column) :
    List String → Except ClassFault (List Column)
  | [] => .ok []
  | name :: rest =>
    match columnNamed? columns name with
    | none => .error (.unknownKeyColumn typeName name)
    | some c => (namedKey typeName columns rest).map (c :: ·)

/-- Checks that no column has the position of one before it. -/
def checkPositions (typeName : String) (seen : List Column) : List Column → Except ClassFault Unit
  | [] => .ok ()
  | c :: rest =>
    match seen.find? fun other => other.position == c.position with
    | some other => .error (.sharedKeyPosition typeName c.name other.name)
    | none => checkPositions typeName (c :: seen) rest

/-- The columns with a position, in the order of their positions. -/
def positionedKey (typeName : String) (columns : List Column) : Except ClassFault (List Column) :=
  let positioned := columns.filter fun c => c.position ≠ 0
  (checkPositions typeName [] positioned).map fun _ =>
    positioned.mergeSort fun a b => a.position ≤ b.position

/-- The name in an item of the order, and whether a dash stands in front of it. -/
def orderName (item : String) : String × Bool :=
  match item.toList with
  | '-' :: name => (String.ofList name, true)
  | _ => (item, false)

def namedOrder (typeName : String) (columns : List Column) :
    List String → Except ClassFault (List OrderItem)
  | [] => .ok []
  | item :: rest =>
    let (name, descending) := orderName item
    match columnNamed? columns name with
    | none => .error (.unknownOrderColumn typeName name)
    | some c => (namedOrder typeName columns rest).map (⟨c, descending⟩ :: ·)

def placeOf (columns : List Column) (c : Column) : Nat :=
  (columns.findIdx? fun other => other.same c).getD 0

/-- Puts a class together, or says why its parts make none. -/
def build (typeName : String) (table : Table) (columns : List Column)
    (primary : Option (List String)) (order : List String) : Except ClassFault ClassInfo := do
  if table.name = "" then throw (.noTableName typeName)
  let key ← match primary with
    | some names => namedKey typeName columns names
    | none => positionedKey typeName columns
  if key.isEmpty then throw (.noKey typeName)
  let order ← namedOrder typeName columns order
  return { typeName, table, columns, key, keyPositions := key.map (placeOf columns), order }

def diagnostic (info : ClassInfo) : String :=
  Text.record "ClassInfo"
    [("type", Text.quoted info.typeName), ("table", Text.quoted info.table.name),
      ("columns", Text.listed (info.columns.map Column.diagnostic)),
      ("primary_key", Text.listed (info.key.map Column.diagnostic))]

end ClassInfo

end RowMapper
