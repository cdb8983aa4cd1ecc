import RowMapper.Compiler.Render
import RowMapper.Sql.Form
/-!
The handlers for the nodes of this library.
-/

set_option autoImplicit false

namespace RowMapper

/-- The handlers that a default compiler has. -/
inductive Builtin where
  | token
  | literal
  | null
  | cell
  | table
  | column
  | aliased
  | binary
  | nonAssociative
  | nullComparison
  | membership
  | compound
  | call
  | count
  | prefixed
  | suffixed
  deriving DecidableEq, Repr

namespace Builtin

/-- The text is a word of ASCII letters, digits and underscores that starts with a letter. -/
def isPlainWord (text : String) : Bool :=
  match text.toList with
  | [] => false
  | c :: rest => c.isAlpha && rest.all fun c => c.isAlphanum || c = '_'

/-- The name in double quotes, with every quote inside doubled. -/
def quotedName (name : String) : String :=
  String.ofList ('"' :: (name.toList.flatMap fun c => if c = '"' then ['"', '"'] else [c]) ++ ['"'])

variable {σ H : Type}

/-- The handler is for nodes of another form. -/
def unexpected (c : Compiler σ H) (expected : Form) (node : Node) : Act (Compiling σ) String :=
  fun s => (.error (.invariant (.unexpectedNode expected.typeName (c.describe s.outer node))), s)

def compileName (recur : Recur σ) (name : String) : Act (Compiling σ) String :=
  recur { token := true } (.node 0 (.value (.text name)))

/-- Compiles in a context, which is left again whatever the outcome. -/
def within (context : Context) (act : Act (Compiling σ) String) : Act (Compiling σ) String := do
  Compiling.change (·.pushContext context)
  act.ensure fun s => ⟨s.outer, s.pass.popContext⟩

/-- Compiles two operands with a symbol between. -/
def compileBinary (recur : Recur σ) (op : BinaryOp) (left right : Expr) :
    Act (Compiling σ) String := do
  let left ← recur {} left
  let right ← recur {} right
  return left ++ op.symbol ++ right

def run (c : Compiler σ H) (handler : Builtin) (recur : Recur σ) (node : Node) :
    Act (Compiling σ) String :=
  match handler, node with
  | .token, .token name => do
    let reserved ← Compiling.outside (Act.read fun s => (c.tables s).isReserved name)
    return if isPlainWord name && !reserved then name else quotedName name
  | .token, _ => unexpected c .token node
  | .literal, .value v => do
    let kind := Kind.ofValue v
    let kept ← Act.lift (kind.accept .program v)
    Compiling.change (·.bind (.value kind kept))
    return "?"
  | .literal, _ => unexpected c .literal node
  | .null, _ => pure "NULL"
  | .cell, .variable id => do
    Compiling.change (·.bind (.cell id))
    return "?"
  | .cell, _ => unexpected c .cell node
  | .table, .table t => compileName recur t.name
  | .table, _ => unexpected c .table node
  | .column, .column declared => do
    let context ← Compiling.read (·.context)
    match declared.table with
    | some t =>
      if context = some .columnName then compileName recur declared.name
      else
        let front ← within .columnPrefix (compileName recur t.name)
        let name ← compileName recur declared.name
        return front ++ "." ++ name
    | none => compileName recur declared.name
  | .column, _ => unexpected c .column node
  | .aliased, .aliased e name => do
    let e ← recur {} e
    let name ← compileName recur name
    return e ++ " AS " ++ name
  | .aliased, _ => unexpected c .aliased node
  | .binary, .binary op left right => compileBinary recur op left right
  | .binary, _ => unexpected c .binary node
  | .nonAssociative, .binary op left right => do
    let left ← recur {} left
    Compiling.change fun p => p.withPrecedence (p.precedence + 1)
    let right ← recur {} right
    return left ++ op.symbol ++ right
  | .nonAssociative, _ => unexpected c .binary node
  | .nullComparison, .binary op left (.node _ .null) => do
    let left ← recur {} left
    return left ++ (if op = .ne then " IS NOT NULL" else " IS NULL")
  | .nullComparison, .binary op left right => compileBinary recur op left right
  | .nullComparison, _ => unexpected c .binary node
  | .membership, .binary _ left right => do
    let left ← recur {} left
    Compiling.change (·.withPrecedence 0)
    let right ← recur {} right
    return left ++ " IN (" ++ right ++ ")"
  | .membership, _ => unexpected c .binary node
  | .compound, .compound op operands => recur { join := op.symbol } operands
  | .compound, _ => unexpected c .compound node
  | .call, .call name args => do
    Compiling.change fun p => (p.pushContext .expr).withPrecedence 0
    let args ← (recur {} args).ensure fun s => ⟨s.outer, s.pass.popContext⟩
    return name ++ "(" ++ args ++ ")"
  | .call, _ => unexpected c .call node
  | .count, .countAll => pure "COUNT(*)"
  | .count, .count e distinct => do
    let e ← within .expr (recur {} e)
    return (if distinct then "COUNT(DISTINCT " else "COUNT(") ++ e ++ ")"
  | .count, _ => unexpected c .count node
  | .prefixed, .prefixed op e => do
    let e ← recur {} e
    return op.symbol ++ " " ++ e
  | .prefixed, _ => unexpected c .prefixed node
  | .suffixed, .suffixed op e => do
    let e ← recur { raw := true } e
    return e ++ " " ++ op.symbol
  | .suffixed, _ => unexpected c .suffixed node

/-- The tags under which each handler is registered, in the order of registration. -/
def registrations : List (List Tag × Builtin) := [
  ([.token], .token), ([.literal], .literal), ([.null], .null), ([.cell], .cell),
  ([.table], .table), ([.column], .column), ([.aliased], .aliased), ([.binary], .binary),
  ([.nonAssociative], .nonAssociative), ([BinaryOp.eq.tag, BinaryOp.ne.tag], .nullComparison),
  ([BinaryOp.isIn.tag], .membership), ([.compound], .compound), ([.call], .call),
  ([.count], .count), ([.prefixed], .prefixed), ([.suffixed], .suffixed)]

def precedences : List (Int × List Tag) := [
  (30, [CompoundOp.or.tag]), (40, [CompoundOp.and.tag]),
  (50, [BinaryOp.eq, .ne, .gt, .ge, .lt, .le, .like, .isIn].map BinaryOp.tag),
  (60, [BinaryOp.shiftLeft, .shiftRight].map BinaryOp.tag),
  (70, [CompoundOp.add.tag, BinaryOp.sub.tag]),
  (80, [CompoundOp.mul.tag, BinaryOp.div.tag, BinaryOp.mod.tag])]

end Builtin

end RowMapper
