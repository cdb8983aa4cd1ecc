import RowMapper.Number.Literal
/-!
Binary floating point numbers as exact fractions: a finite number is a signed multiple of a power of
two, so truncation, floor and rounding to an integer are integer arithmetic.
-/

set_option autoImplicit false

namespace RowMapper.Number

/-- What a binary number of 64 bits stands for; a finite one is mantissa times two to the
exponent. -/
inductive Binary64 where
  | finite (negative : Bool) (mantissa : Nat) (exponent : Int)
  | infinite (negative : Bool)
  | notANumber
  deriving DecidableEq, Repr

/-- Reads the sign, exponent and fraction fields. -/
def Binary64.ofFloat (x : Float) : Binary64 :=
  let bits := x.toBits.toNat
  let negative := decide (bits / 9223372036854775808 = 1)
  let exponent : Nat := bits / 4503599627370496 % 2048
  let fraction : Nat := bits % 4503599627370496
  if exponent = 2047 then
    if fraction = 0 then .infinite negative else .notANumber
  else if exponent = 0 then .finite negative fraction (-1074)
  else .finite negative (4503599627370496 + fraction) ((exponent : Int) - 1075)

/-- How a fraction becomes an integer. -/
inductive Rounding where
  | towardZero
  | down
  | halfAway
  deriving DecidableEq, Repr

/-- The integer that n over d becomes, d being positive. -/
def Rounding.apply (mode : Rounding) (n : Int) (d : Nat) : Int :=
  match mode with
  | .towardZero => n.tdiv d
  | .down => n.fdiv d
  | .halfAway => if 0 ≤ n then (2 * n + d).fdiv (2 * d) else -((-2 * n + d).fdiv (2 * d))

/-- The integer that a finite number becomes. -/
def Binary64.toInt? (mode : Rounding) : Binary64 → Option Int
  | .finite negative mantissa exponent =>
    let signed : Int := if negative then -(mantissa : Int) else mantissa
    some <|
      if 0 ≤ exponent then signed * Nat.pow 2 exponent.toNat
      else mode.apply signed (Nat.pow 2 (-exponent).toNat)
  | _ => none

/-- The integer that a number becomes as a signed word of 64 bits: out of range gives the nearest
bound, and what is no number gives zero. -/
def toInt64Saturating (mode : Rounding) (x : Float) : Int :=
  match Binary64.ofFloat x with
  | .infinite negative => if negative then -9223372036854775808 else 9223372036854775807
  | .notANumber => 0
  | number => clampInt64 ((number.toInt? mode).getD 0)

/-- The floating point number of the value nearest to digits times ten to the exponent. -/
def nearestFloat (negative : Bool) (digits : Nat) (exponent : Int) : Float :=
  let size : Int := (toString digits).length + exponent
  let magnitude : Float :=
    if digits = 0 || size < -400 then 0
    else if 400 < size then 1 / 0
    else Float.ofScientific digits (exponent < 0) exponent.natAbs
  if negative then -magnitude else magnitude

end RowMapper.Number
