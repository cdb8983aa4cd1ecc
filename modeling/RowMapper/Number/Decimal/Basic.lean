import RowMapper.Number.Binary64
import RowMapper.Number.Scaled
/-!
Decimal numbers of any size: an integer of digits and a scale, the number of places after the point.
Two decimals may be the same number with different scales.
-/

set_option autoImplicit false

namespace RowMapper.Number

/-- The number digits times ten to minus the scale. -/
structure Decimal where
  digits : Int
  scale : Int
  deriving DecidableEq, Repr

namespace Decimal

def ofInt (n : Int) : Decimal := ⟨n, 0⟩

/-- The magnitude without trailing zeros. -/
def normal (d : Decimal) : Scaled := Scaled.normal ⟨d.digits.natAbs, -d.scale⟩

def same (a b : Decimal) : Bool :=
  (decide (a.digits < 0) == decide (b.digits < 0)) && a.normal == b.normal

def isZero (d : Decimal) : Bool := d.digits = 0

/-- How many digits the integer of digits has. -/
def precision (d : Decimal) : Nat := (decimalDigits d.digits.natAbs).length

/-- The whole part as a signed word of 64 bits, if it fits one. -/
def toInt64? (d : Decimal) : Option Int :=
  if d.isZero then some 0
  else if (d.precision : Int) ≤ d.scale then some 0
  else if 20 < (d.precision : Int) - d.scale then none
  else
    let whole :=
      if 0 ≤ d.scale then d.digits.tdiv (Nat.pow 10 d.scale.toNat)
      else d.digits * Nat.pow 10 (-d.scale).toNat
    if FitsInt64 whole then some whole else none

/-- The nearest floating point number. -/
def toFloat (d : Decimal) : Float := nearestFloat (d.digits < 0) d.digits.natAbs (-d.scale)

end Decimal

end RowMapper.Number
