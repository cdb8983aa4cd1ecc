import RowMapper.Number.Binary64
import RowMapper.Number.Scaled
/-!
The shortest decimal of a binary number: the fewest significant digits that read back to it, and of
those the digits nearest to its exact value; of two equally near ones a rule for ties takes one. A
decimal reads back exactly when it lies in the interval of the reals that round to the number, whose
ends belong to it when the mantissa is even.
-/

set_option autoImplicit false

namespace RowMapper.Number

/-- Which of two equally near decimals is taken: the upper one, or the one with an even last
digit. -/
inductive Tie where
  | up
  | even
  deriving DecidableEq, Repr

/-- Four times the mantissa and four times the two ends of the interval that rounds to it. -/
structure RoundingInterval where
  low : Nat
  value : Nat
  high : Nat
  closed : Bool

/-- The interval of mantissa times two to the exponent. Below a power of two the neighbours stand
half as far apart. -/
def roundingInterval (mantissa : Nat) (exponent : Int) : RoundingInterval where
  low :=
    if mantissa = 4503599627370496 ∧ exponent ≠ -1074 then 4 * mantissa - 1 else 4 * mantissa - 2
  value := 4 * mantissa
  high := 4 * mantissa + 2
  closed := mantissa % 2 = 0

/-- The power of ten of the leading digit of a positive number. -/
def leadingExponent (mantissa : Nat) (exponent : Int) : Int :=
  let scaled := mantissa * Nat.pow 10 400 * Nat.pow 2 exponent.toNat / Nat.pow 2 (-exponent).toNat
  ((decimalDigits scaled).length : Int) - 401

/-- The decimal nearest to the number on the grid of ten to the given power, if one of the two
neighbours on the grid reads back. -/
def onGrid? (tie : Tie) (mantissa : Nat) (exponent : Int) (power : Int) : Option Nat :=
  let interval := roundingInterval mantissa exponent
  let factor := Nat.pow 2 (exponent - 2).toNat * Nat.pow 10 (-power).toNat
  let unit := Nat.pow 2 (2 - exponent).toNat * Nat.pow 10 power.toNat
  let inside (n : Nat) : Bool :=
    if interval.closed then interval.low * factor ≤ n * unit ∧ n * unit ≤ interval.high * factor
    else interval.low * factor < n * unit ∧ n * unit < interval.high * factor
  let below := interval.value * factor / unit
  let rest := interval.value * factor % unit
  match inside below, inside (below + 1) with
  | true, true =>
    let takesBelow := 2 * rest < unit ∨ (2 * rest = unit ∧ tie = .even ∧ below % 2 = 0)
    some (if takesBelow then below else below + 1)
  | true, false => some below
  | false, true => some (below + 1)
  | false, false => none

/-- Tries the grids of one digit, two digits and so on. -/
def shortestFrom (tie : Tie) (mantissa : Nat) (exponent leading : Int) : Nat → Nat → Scaled
  | 0, count => ⟨mantissa, count⟩
  | fuel + 1, count =>
    let power := leading - count
    match onGrid? tie mantissa exponent power with
    | some digits => Scaled.normal ⟨digits, power⟩
    | none => shortestFrom tie mantissa exponent leading fuel (count + 1)

/-- The shortest decimal of mantissa times two to the exponent. Seventeen digits always suffice. -/
def shortest (tie : Tie) (mantissa : Nat) (exponent : Int) : Scaled :=
  if mantissa = 0 then ⟨0, 0⟩
  else shortestFrom tie mantissa exponent (leadingExponent mantissa exponent) 17 0

end RowMapper.Number
