import RowMapper.Sql.Expr
/-!
The forms of nodes: which of the types of this library a node is of, and the name that messages give
to it.
-/

set_option autoImplicit false

namespace RowMapper

/-- A type of nodes. -/
inductive Form where
  | literal | null | cell | table | column | aliased | binary | compound | call | count | prefixed
  | suffixed | token | raw
  deriving DecidableEq, Repr

/-- The form of a node; a custom node has none of them. -/
def Node.form? : Node → Option Form
  | .value _ => some .literal
  | .null => some .null
  | .variable _ => some .cell
  | .table _ => some .table
  | .column _ => some .column
  | .aliased .. => some .aliased
  | .binary .. => some .binary
  | .compound .. => some .compound
  | .call .. => some .call
  | .countAll | .count .. => some .count
  | .prefixed .. => some .prefixed
  | .suffixed .. => some .suffixed
  | .token _ => some .token
  | .raw _ => some .raw
  | .custom .. => none

def Form.typeName : Form → String
  | .literal => "squall::datatype::Value"
  | .null => "squall::expr::Null"
  | .cell => "squall::variable::Variable"
  | .table => "squall::expr::Table"
  | .column => "squall::expr::Column"
  | .aliased => "squall::expr::Alias"
  | .binary => "squall::expr::BinaryOper"
  | .compound => "squall::expr::CompoundOper"
  | .call => "squall::expr::Func"
  | .count => "squall::expr::Count"
  | .prefixed => "squall::expr::Prefix"
  | .suffixed => "squall::expr::Suffix"
  | .token => "squall::compile::SqlToken"
  | .raw => "squall::compile::SqlRaw"

end RowMapper
