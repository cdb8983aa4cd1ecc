import RowMapper.Compiler.Default
/-!
What a default compiler prints, without a state: the text of an expression is a function of the
precedence and the context around it and of the options, and the parameters that it binds are a
function of the options alone.
-/

set_option autoImplicit false

namespace RowMapper

/-- How tightly an operator binds. -/
def BinaryOp.rank : BinaryOp → Int
  | .eq | .ne | .gt | .ge | .lt | .le | .like | .isIn => 50
  | .shiftLeft | .shiftRight => 60
  | .sub => 70
  | .div | .mod => 80

def CompoundOp.rank : CompoundOp → Int
  | .or => 30
  | .and => 40
  | .add => 70
  | .mul => 80

/-- How tightly a node binds; what is no operator with operands on both sides binds the tightest. -/
def Node.rank : Node → Int
  | .binary op _ _ => op.rank
  | .compound op _ => op.rank
  | _ => 1000

def Expr.isNull : Expr → Bool
  | .node _ .null => true
  | _ => false

/-- The name that an expression stands for under the token option. -/
def Expr.name? (token : Bool) (e : Expr) : Option String := if token then e.plainText else none

/-- The word is reserved by the standard, in whatever case. -/
def isReservedWord (word : String) : Bool := Text.toLowerCase word ∈ reservedWords

/-- A name, in quotes unless it is a plain word that is not reserved. -/
def printName (name : String) : String :=
  if Builtin.isPlainWord name && !isReservedWord name then name else Builtin.quotedName name

/-- A text, in parentheses if what is around it binds more tightly. -/
def enclosed (rank outer : Int) (text : String) : String :=
  if rank < outer then "(" ++ text ++ ")" else text

mutual

def Expr.print (outer : Int) (context : Option Context) (options : Options) : Expr → String
  | .node mark node =>
    match (Expr.node mark node).passthrough options.raw with
    | some text => text
    | none =>
      match (Expr.node mark node).name? options.token with
      | some name => enclosed 1000 outer (printName name)
      | none => enclosed node.rank outer (node.print context)
  | .seq items => String.intercalate options.join (Expr.printAll outer context options items)

def Expr.printAll (outer : Int) (context : Option Context) (options : Options) :
    List Expr → List String
  | [] => []
  | e :: rest => e.print outer context options :: Expr.printAll outer context options rest

def Node.print (context : Option Context) : Node → String
  | .value _ | .variable _ => "?"
  | .null => "NULL"
  | .table t => printName t.name
  | .column c =>
    match c.table with
    | none => printName c.name
    | some t =>
      if context = some .columnName then printName c.name
      else printName t.name ++ "." ++ printName c.name
  | .aliased e name => e.print 1000 context {} ++ " AS " ++ printName name
  | .binary op left right =>
    left.print op.rank context {} ++
      match op with
      | .eq => if right.isNull then " IS NULL" else op.symbol ++ right.print op.rank context {}
      | .ne => if right.isNull then " IS NOT NULL" else op.symbol ++ right.print op.rank context {}
      | .isIn => " IN (" ++ right.print 0 context {} ++ ")"
      | .sub | .div | .mod => op.symbol ++ right.print (op.rank + 1) context {}
      | _ => op.symbol ++ right.print op.rank context {}
  | .compound op operands => operands.print op.rank context { join := op.symbol }
  | .call name args => name ++ "(" ++ args.print 0 (some .expr) {} ++ ")"
  | .countAll => "COUNT(*)"
  | .count e distinct =>
    (if distinct then "COUNT(DISTINCT " else "COUNT(") ++ e.print 1000 (some .expr) {} ++ ")"
  | .prefixed op e => op.symbol ++ " " ++ e.print 1000 context {}
  | .suffixed op e => e.print 1000 context { raw := true } ++ " " ++ op.symbol
  | .token name => printName name
  | .raw sql => sql
  | .custom .. => ""

end

mutual

def Expr.bound (options : Options) : Expr → List Parameter
  | .node mark node =>
    match (Expr.node mark node).passthrough options.raw with
    | some _ => []
    | none =>
      match (Expr.node mark node).name? options.token with
      | some _ => []
      | none => node.bound
  | .seq items => Expr.boundAll options items

def Expr.boundAll (options : Options) : List Expr → List Parameter
  | [] => []
  | e :: rest => e.bound options ++ Expr.boundAll options rest

def Node.bound : Node → List Parameter
  | .value v => [.value (.ofValue v) v]
  | .variable id => [.cell id]
  | .aliased e _ => e.bound {}
  | .binary _ left right => left.bound {} ++ right.bound {}
  | .compound op operands => operands.bound { join := op.symbol }
  | .call _ args => args.bound {}
  | .count e _ => e.bound {}
  | .prefixed _ e => e.bound {}
  | .suffixed _ e => e.bound { raw := true }
  | _ => []

end

mutual

/-- All nodes of an expression are of this library. -/
def Expr.isKnown : Expr → Bool
  | .node _ node => node.isKnown
  | .seq items => Expr.allKnown items

def Expr.allKnown : List Expr → Bool
  | [] => true
  | e :: rest => e.isKnown && Expr.allKnown rest

/-- A node and all below it are of this library. -/
def Node.isKnown : Node → Bool
  | .aliased e _ => e.isKnown
  | .binary _ left right => left.isKnown && right.isKnown
  | .compound _ operands => operands.isKnown
  | .call _ args => args.isKnown
  | .count e _ => e.isKnown
  | .prefixed _ e => e.isKnown
  | .suffixed _ e => e.isKnown
  | .custom .. => false
  | _ => true

end

end RowMapper
