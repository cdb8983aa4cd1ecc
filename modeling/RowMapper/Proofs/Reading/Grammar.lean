import Mathlib.Data.List.SplitBy
import RowMapper.Compiler.Builtin
import RowMapper.Text.LowerCase
/-!
Reading conditions as SQL does. OR binds the loosest, then AND, NOT, the comparisons, + and -, and
the tightest * with / and %; operators with two operands associate to the left, and parentheses
group.
-/

set_option autoImplicit false

namespace RowMapper.Reading

inductive Comparison where
  | eq | ne | gt | ge | lt | le
  deriving DecidableEq, Repr

inductive Operator where
  | or | and | compare (c : Comparison) | add | sub | mul | div | mod
  deriving DecidableEq, Repr

/-- How loosely a phrase binds. -/
inductive Level where
  | or | and | not | compare | sum | product | atom
  deriving DecidableEq, Repr

namespace Level

/-- How many levels are looser. -/
def depth : Level → Nat
  | .or => 0 | .and => 1 | .not => 2 | .compare => 3 | .sum => 4 | .product => 5 | .atom => 6

def tighter : Level → Level
  | .or => .and | .and => .not | .not => .compare | .compare => .sum | .sum => .product
  | .product | .atom => .atom

end Level

def Operator.level : Operator → Level
  | .or => .or
  | .and => .and
  | .compare _ => .compare
  | .add | .sub => .sum
  | .mul | .div | .mod => .product

/-! ## Lexemes -/

inductive Lexeme where
  | name (text : String)
  | operator (op : Operator)
  | not | opening | closing
  deriving DecidableEq, Repr

/-- A character of words. -/
def isWordChar (c : Char) : Bool := c.isAlphanum || c = '_'

/-- A character of comparisons. -/
def isComparisonChar (c : Char) : Bool := c ∈ ['=', '!', '<', '>']

/-- The two characters belong to one lexeme if they stand side by side. -/
def joined (a b : Char) : Bool :=
  isWordChar a && isWordChar b || isComparisonChar a && isComparisonChar b

def symbols : List (List Char × Lexeme) := [
  (['('], .opening), ([')'], .closing), (['+'], .operator .add), (['-'], .operator .sub),
  (['*'], .operator .mul), (['/'], .operator .div), (['%'], .operator .mod),
  (['='], .operator (.compare .eq)), (['!', '='], .operator (.compare .ne)),
  (['>'], .operator (.compare .gt)), (['>', '='], .operator (.compare .ge)),
  (['<'], .operator (.compare .lt)), (['<', '='], .operator (.compare .le))]

/-- The words that are no names, in lower case. -/
def keywords : List (String × Lexeme) :=
  [("or", .operator .or), ("and", .operator .and), ("not", .not)]

/-- The lexeme that characters without a blank make: a symbol, a keyword in whatever case, or a
name. -/
def lexeme? (chunk : List Char) : Option Lexeme :=
  match symbols.lookup chunk with
  | some lexeme => some lexeme
  | none =>
    match keywords.lookup (Text.toLowerCase (String.ofList chunk)) with
    | some lexeme => some lexeme
    | none =>
      if Builtin.isPlainWord (String.ofList chunk) then some (.name (String.ofList chunk)) else none

/-- The lexemes of a text, without the blanks between them. -/
def lexemes? (text : List Char) : Option (List Lexeme) :=
  ((text.splitBy joined).filter (· ≠ [' '])).mapM lexeme?

/-! ## Trees -/

/-- A tree as it is read, whatever its parts stand for. -/
inductive Tree where
  | name (text : String)
  | not (part : Tree)
  | operation (op : Operator) (left right : Tree)
  deriving DecidableEq, Repr

/-- The operator that a lexeme is at a level. -/
def Level.operator? (level : Level) : Lexeme → Option Operator
  | .operator op => if op.level = level then some op else none
  | _ => none

mutual

/-- Reads a phrase of a level from the front; yields also what is left. -/
def parse (level : Level) (input : List Lexeme) : Option (Tree × List Lexeme) :=
  if _ : level = .atom then
    match input with
    | .name text :: rest => some (.name text, rest)
    | .opening :: rest =>
      match parse .or rest with
      | some (tree, .closing :: rest) => some (tree, rest)
      | _ => none
    | _ => none
  else if _ : level = .not ∧ input.head? = some .not then
    match parse .not input.tail with
    | some (tree, rest) => some (.not tree, rest)
    | none => none
  else
    match parse level.tighter input with
    | some (first, rest) => if rest.length < input.length then extend level first rest else none
    | none => none
termination_by (input.length, 7 - level.depth)
decreasing_by
  · exact Prod.Lex.left _ _ (Nat.lt_succ_self _)
  · apply Prod.Lex.left
    cases input with
    | nil => simp_all
    | cons lexeme rest => exact Nat.lt_succ_self _
  · apply Prod.Lex.right
    cases level
    case atom => contradiction
    all_goals decide
  · exact Prod.Lex.left _ _ ‹_›

/-- Goes on with a phrase of a level, as long as its operators follow. -/
def extend (level : Level) (left : Tree) (input : List Lexeme) : Option (Tree × List Lexeme) :=
  match input with
  | [] => some (left, [])
  | lexeme :: rest =>
    match level.operator? lexeme with
    | none => some (left, lexeme :: rest)
    | some op =>
      match parse level.tighter rest with
      | some (right, others) =>
        if others.length < rest.length then extend level (.operation op left right) others else none
      | none => none
termination_by (input.length, 0)
decreasing_by
  · exact Prod.Lex.left _ _ (Nat.lt_succ_self _)
  · exact Prod.Lex.left _ _ (Nat.lt_succ_of_lt ‹_›)

end

def read (text : String) : Option Tree := do
  match parse .or (← lexemes? text.toList) with
  | some (tree, []) => some tree
  | _ => none

/-! ## Values -/

/-- What a tree evaluates to. -/
inductive Outcome where
  | number (n : Int)
  | truth (b : Bool)
  deriving DecidableEq, Repr

def Comparison.holds : Comparison → Int → Int → Bool
  | .eq, a, b => a = b
  | .ne, a, b => a ≠ b
  | .gt, a, b => a > b
  | .ge, a, b => a ≥ b
  | .lt, a, b => a < b
  | .le, a, b => a ≤ b

/-- The value of an operation; none if an operand is of another sort or the divisor is zero. -/
def Operator.apply : Operator → Outcome → Outcome → Option Outcome
  | .or, .truth a, .truth b => some (.truth (a || b))
  | .and, .truth a, .truth b => some (.truth (a && b))
  | .compare c, .number a, .number b => some (.truth (c.holds a b))
  | .add, .number a, .number b => some (.number (a + b))
  | .sub, .number a, .number b => some (.number (a - b))
  | .mul, .number a, .number b => some (.number (a * b))
  | .div, .number a, .number b => if b = 0 then none else some (.number (a.tdiv b))
  | .mod, .number a, .number b => if b = 0 then none else some (.number (a.tmod b))
  | _, _, _ => none

def Tree.eval (numbers : String → Int) : Tree → Option Outcome
  | .name text => some (.number (numbers text))
  | .not part =>
    match part.eval numbers with
    | some (.truth b) => some (.truth !b)
    | _ => none
  | .operation op left right => do op.apply (← left.eval numbers) (← right.eval numbers)

end RowMapper.Reading
