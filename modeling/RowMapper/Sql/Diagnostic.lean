import RowMapper.Sql.Expr
/-!
The diagnostic form of expressions. What a variable shows depends on its cell, so the form of cells
is a parameter.
-/

set_option autoImplicit false

namespace RowMapper

def BinaryOp.diagnostic : BinaryOp → String
  | .eq => "Eq"
  | .ne => "Ne"
  | .gt => "Gt"
  | .ge => "Ge"
  | .lt => "Lt"
  | .le => "Le"
  | .like => "Like"
  | .isIn => "In"
  | .shiftLeft => "LShift"
  | .shiftRight => "RShift"
  | .sub => "Sub"
  | .div => "Div"
  | .mod => "Mod"

def CompoundOp.diagnostic : CompoundOp → String
  | .and => "And"
  | .or => "Or"
  | .add => "Add"
  | .mul => "Mul"

def PrefixOp.diagnostic : PrefixOp → String
  | .not => "Not"
  | .ex => "Exists"
  | .neg => "Neg"

def SuffixOp.diagnostic : SuffixOp → String
  | .asc => "Asc"
  | .desc => "Desc"

def Column.diagnostic (c : Column) : String := Text.applied "Column" [c.qualifiedName]

def CellFactory.diagnostic (f : CellFactory) : String :=
  Text.record "VariableFactory"
    [("kind", Text.quoted f.kind.name), ("allow_none", Text.truth f.allowNull),
      ("validated", Text.truth f.validator.isSome)]

mutual

def Expr.diagnostic (cell : CellId → String) : Expr → String
  | .node _ n => Text.applied "Node" [n.diagnostic cell]
  | .seq items => Text.applied "Seq" [Text.listed (Expr.diagnostics cell items)]

def Expr.diagnostics (cell : CellId → String) : List Expr → List String
  | [] => []
  | e :: rest => e.diagnostic cell :: Expr.diagnostics cell rest

def Node.diagnostic (cell : CellId → String) : Node → String
  | .value v => v.diagnostic
  | .null => "Null"
  | .variable v => cell v
  | .table t => Text.record "Table" [("name", Text.quoted t.name)]
  | .column c => c.diagnostic
  | .aliased e name => Text.record "Alias" [("expr", e.diagnostic cell), ("name", Text.quoted name)]
  | .binary op left right =>
    Text.record "BinaryOper"
      [("op", op.diagnostic), ("left", left.diagnostic cell), ("right", right.diagnostic cell)]
  | .compound op operands =>
    Text.record "CompoundOper" [("op", op.diagnostic), ("exprs", operands.diagnostic cell)]
  | .call name args =>
    Text.record "Func" [("name", Text.quoted name), ("args", args.diagnostic cell)]
  | .countAll => Text.record "Count" [("column", "None"), ("distinct", "false")]
  | .count e distinct =>
    Text.record "Count"
      [("column", Text.applied "Some" [e.diagnostic cell]), ("distinct", Text.truth distinct)]
  | .prefixed op e => Text.record "Prefix" [("op", op.diagnostic), ("expr", e.diagnostic cell)]
  | .suffixed op e => Text.record "Suffix" [("op", op.diagnostic), ("expr", e.diagnostic cell)]
  | .token name => Text.applied "SqlToken" [Text.quoted name]
  | .raw sql => Text.applied "SqlRaw" [Text.quoted sql]
  | .custom _ name _ => Text.applied "Custom" [name]

end

end RowMapper
