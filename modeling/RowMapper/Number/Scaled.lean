/-!
Numbers in base ten: digits times a power of ten, in normal form when the digits do not end in a
zero.
-/

set_option autoImplicit false

namespace RowMapper.Number

/-- A decimal: digits times ten to the exponent. -/
structure Scaled where
  digits : Nat
  exponent : Int
  deriving DecidableEq, Repr

/-- Moves up to so many trailing zeros from the digits into the exponent. -/
def Scaled.stripZeros : Nat → Scaled → Scaled
  | 0, d => d
  | count + 1, d =>
    if d.digits ≠ 0 ∧ d.digits % 10 = 0 then stripZeros count ⟨d.digits / 10, d.exponent + 1⟩ else d

/-- The digits of a number in base ten. -/
def decimalDigits (n : Nat) : List Char := Nat.toDigits 10 n

/-- The decimal without trailing zeros; zero has exponent zero. -/
def Scaled.normal (d : Scaled) : Scaled :=
  if d.digits = 0 then ⟨0, 0⟩ else d.stripZeros (decimalDigits d.digits).length

end RowMapper.Number
