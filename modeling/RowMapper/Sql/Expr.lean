import RowMapper.Kind
/-!
Expressions: trees of nodes and sequences. Every node has a mark that tells it from other nodes with
the same contents. A node reports its lineage, the tags under which a handler may be registered for
it, from its own tag to the most general one.
-/

set_option autoImplicit false

namespace RowMapper

/-- The name of a class of nodes. -/
structure Tag where
  name : String
  deriving DecidableEq, Repr

/-- The number of a cell in the store. -/
abbrev CellId := Nat

/-- The number of a rule for validation. -/
abbrev RuleId := Nat

/-- The number of a source of initial values. -/
abbrev DefaultId := Nat

structure Table where
  name : String
  deriving DecidableEq, Repr

/-- How the cells of a column are made: their kind, whether null is allowed, the rule that validates
assignments with the name it reports, and the source of initial values. -/
structure CellFactory where
  kind : Kind := .any
  allowNull : Bool := true
  validator : Option (RuleId × String) := none
  initial : Option DefaultId := none
  deriving DecidableEq, Repr

/-- A declared column. Two declarations are the same column only if their numbers agree. The
position counts from one within the primary key and is zero outside it. -/
structure Column where
  id : Nat
  name : String
  table : Option Table
  position : Nat
  factory : CellFactory
  deriving Repr

namespace Column

/-- The two are the same declaration. -/
def same (a b : Column) : Bool := a.id == b.id

/-- The name with the table in front. -/
def qualifiedName (c : Column) : String :=
  match c.table with
  | some table => table.name ++ "." ++ c.name
  | none => c.name

end Column

/-- Operators with two operands. -/
inductive BinaryOp where
  | eq | ne | gt | ge | lt | le | like | isIn | shiftLeft | shiftRight | sub | div | mod
  deriving DecidableEq, Repr

/-- Associative operators with any number of operands. -/
inductive CompoundOp where
  | and | or | add | mul
  deriving DecidableEq, Repr

/-- Operators in front of their operand. -/
inductive PrefixOp where
  | not | ex | neg
  deriving DecidableEq, Repr

/-- Operators behind their operand. -/
inductive SuffixOp where
  | asc | desc
  deriving DecidableEq, Repr

mutual

/-- An expression: a node with its mark, or a sequence. -/
inductive Expr where
  | node (mark : Nat) (node : Node)
  | seq (items : List Expr)

/-- A node. A custom node brings its own lineage. -/
inductive Node where
  | value (v : Value)
  | null
  | variable (cell : CellId)
  | table (t : Table)
  | column (c : Column)
  | aliased (expr : Expr) (name : String)
  | binary (op : BinaryOp) (left right : Expr)
  | compound (op : CompoundOp) (operands : Expr)
  | call (name : String) (args : Expr)
  | countAll
  | count (expr : Expr) (distinct : Bool)
  | prefixed (op : PrefixOp) (expr : Expr)
  | suffixed (op : SuffixOp) (expr : Expr)
  | token (name : String)
  | raw (sql : String)
  | custom (lineage : List Tag) (name : String) (children : List Expr)

end

namespace Tag

def literal : Tag := ⟨"literal"⟩
def null : Tag := ⟨"null"⟩
def cell : Tag := ⟨"variable"⟩
def table : Tag := ⟨"table"⟩
def column : Tag := ⟨"column"⟩
def aliased : Tag := ⟨"alias"⟩
def binary : Tag := ⟨"binary-oper"⟩
def nonAssociative : Tag := ⟨"non-assoc-binary-oper"⟩
def compound : Tag := ⟨"compound-oper"⟩
def call : Tag := ⟨"func"⟩
def count : Tag := ⟨"count"⟩
def prefixed : Tag := ⟨"prefix-expr"⟩
def suffixed : Tag := ⟨"suffix-expr"⟩
def token : Tag := ⟨"sql-token"⟩
def raw : Tag := ⟨"sql-raw"⟩

/-- The own tag of a node without a lineage. -/
def unknown : Tag := ⟨"unknown"⟩

end Tag

def BinaryOp.tag : BinaryOp → Tag
  | .eq => ⟨"eq"⟩
  | .ne => ⟨"ne"⟩
  | .gt => ⟨"gt"⟩
  | .ge => ⟨"ge"⟩
  | .lt => ⟨"lt"⟩
  | .le => ⟨"le"⟩
  | .like => ⟨"like"⟩
  | .isIn => ⟨"in"⟩
  | .shiftLeft => ⟨"lshift"⟩
  | .shiftRight => ⟨"rshift"⟩
  | .sub => ⟨"sub"⟩
  | .div => ⟨"div"⟩
  | .mod => ⟨"mod"⟩

/-- A right operand of the same precedence must stand in parentheses. -/
def BinaryOp.isNonAssociative : BinaryOp → Bool
  | .sub | .div | .mod => true
  | _ => false

def BinaryOp.symbol : BinaryOp → String
  | .eq => " = "
  | .ne => " != "
  | .gt => " > "
  | .ge => " >= "
  | .lt => " < "
  | .le => " <= "
  | .like => " LIKE "
  | .isIn => " IN "
  | .shiftLeft => "<<"
  | .shiftRight => ">>"
  | .sub => "-"
  | .div => "/"
  | .mod => "%"

def CompoundOp.tag : CompoundOp → Tag
  | .and => ⟨"and"⟩
  | .or => ⟨"or"⟩
  | .add => ⟨"add"⟩
  | .mul => ⟨"mul"⟩

def CompoundOp.symbol : CompoundOp → String
  | .and => " AND "
  | .or => " OR "
  | .add => "+"
  | .mul => "*"

def PrefixOp.tag : PrefixOp → Tag
  | .not => ⟨"not"⟩
  | .ex => ⟨"exists"⟩
  | .neg => ⟨"neg"⟩

def PrefixOp.symbol : PrefixOp → String
  | .not => "NOT"
  | .ex => "EXISTS"
  | .neg => "-"

def SuffixOp.tag : SuffixOp → Tag
  | .asc => ⟨"asc"⟩
  | .desc => ⟨"desc"⟩

def SuffixOp.symbol : SuffixOp → String
  | .asc => "ASC"
  | .desc => "DESC"

namespace Node

/-- The tags of a node, its own first. -/
def lineage : Node → List Tag
  | .value v => [⟨v.typeName⟩, .literal]
  | .null => [.null]
  | .variable _ => [.cell]
  | .table _ => [.table]
  | .column _ => [.column]
  | .aliased .. => [.aliased]
  | .binary op _ _ =>
    if op.isNonAssociative then [op.tag, .nonAssociative, .binary] else [op.tag, .binary]
  | .compound op _ => [op.tag, .compound]
  | .call .. => [.call]
  | .countAll => [.count, .call]
  | .count .. => [.count, .call]
  | .prefixed op _ => [op.tag, .prefixed]
  | .suffixed op _ => [op.tag, .suffixed]
  | .token _ => [.token]
  | .raw _ => [.raw]
  | .custom lineage _ _ => lineage

def tag (n : Node) : Tag := n.lineage.head?.getD .unknown

end Node

namespace Expr

mutual

/-- The two are the same nodes in the same shape. -/
def same : Expr → Expr → Bool
  | .node a _, .node b _ => a == b
  | .seq as, .seq bs => sameAll as bs
  | _, _ => false

def sameAll : List Expr → List Expr → Bool
  | [], [] => true
  | a :: as, b :: bs => same a b && sameAll as bs
  | _, _ => false

end

mutual

/-- How many nodes deep an expression is. -/
def height : Expr → Nat
  | .node _ n => nodeHeight n
  | .seq items => heightAll items

def heightAll : List Expr → Nat
  | [] => 0
  | e :: rest => max (height e) (heightAll rest)

/-- How many nodes deep a node is. The name of a table, a column or an alias counts as a node below
it. -/
def nodeHeight : Node → Nat
  | .table _ | .column _ => 2
  | .aliased e _ => max (height e) 1 + 1
  | .binary _ left right => max (height left) (height right) + 1
  | .compound _ operands => height operands + 1
  | .call _ args => height args + 1
  | .count e _ => height e + 1
  | .prefixed _ e => height e + 1
  | .suffixed _ e => height e + 1
  | .custom _ _ children => heightAll children + 1
  | _ => 1

end

def plainText : Expr → Option String
  | .node _ (.value v) => v.asText
  | _ => none

/-- The text that is taken over as it stands: that of a raw node, and under the raw option that of a
literal text. -/
def passthrough (takeText : Bool) : Expr → Option String
  | .node _ (.raw sql) => some sql
  | e => if takeText then e.plainText else none

end Expr

end RowMapper
