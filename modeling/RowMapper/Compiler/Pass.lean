import RowMapper.Sql.Expr
/-!
The state of one compilation: the precedence in effect, the parameters bound so far, and the context
with those it has replaced.
-/

set_option autoImplicit false

namespace RowMapper

inductive Context where
  | table
  | expr
  | column
  | columnPrefix
  | columnName
  deriving DecidableEq, Repr

def Context.diagnostic : Context → String
  | .table => "Table"
  | .expr => "Expr"
  | .column => "Column"
  | .columnPrefix => "ColumnPrefix"
  | .columnName => "ColumnName"

/-- What a placeholder stands for: a cell of the program, or a value under the kind it is bound
as. -/
inductive Parameter where
  | cell (id : CellId)
  | value (kind : Kind) (v : Value)

/-- The state of a compilation. -/
structure Pass where
  precedence : Int := 0
  /-- In the order of the placeholders. -/
  parameters : List Parameter := []
  context : Option Context := none
  /-- The contexts that were replaced, the latest in front. -/
  saved : List (Option Context) := []

namespace Pass

def withPrecedence (p : Pass) (precedence : Int) : Pass := { p with precedence }

def bind (p : Pass) (parameter : Parameter) : Pass :=
  { p with parameters := p.parameters ++ [parameter] }

/-- Sets the context and saves the one before. -/
def pushContext (p : Pass) (context : Context) : Pass :=
  { p with context := some context, saved := p.context :: p.saved }

/-- Goes back to the context saved last, if there is one. -/
def popContext (p : Pass) : Pass :=
  match p.saved with
  | context :: saved => { p with context, saved }
  | [] => p

end Pass

/-- How an expression is compiled. -/
structure Options where
  /-- Placed between the elements of a sequence. -/
  join : String := ", "
  /-- Literal texts are taken over as they stand. -/
  raw : Bool := false
  /-- Literal texts are compiled as names. -/
  token : Bool := false
  deriving DecidableEq, Repr

end RowMapper
