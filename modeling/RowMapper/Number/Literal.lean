/-!
Integer literals: an optional sign and ASCII digits, of any length and with any number of leading
zeros.
-/

set_option autoImplicit false

namespace RowMapper.Number

def digitsValue (digits : List Char) : Nat :=
  digits.foldl (fun n c => n * 10 + (c.toNat - '0'.toNat)) 0

/-- A non-empty run of digits. -/
def readDigits (text : List Char) : Option Nat :=
  if text.isEmpty || !text.all Char.isDigit then none else some (digitsValue text)

/-- Digits after an optional plus sign. -/
def readNatural : List Char → Option Nat
  | '+' :: digits => readDigits digits
  | digits => readDigits digits

/-- Digits after an optional sign. -/
def readInteger : List Char → Option Int
  | '-' :: digits => (readDigits digits).map fun n => -(n : Int)
  | text => (readNatural text).map Int.ofNat

def FitsInt32 (n : Int) : Prop := -2147483648 ≤ n ∧ n < 2147483648

def FitsInt64 (n : Int) : Prop := -9223372036854775808 ≤ n ∧ n < 9223372036854775808

def FitsUInt32 (n : Nat) : Prop := n < 4294967296

instance (n : Int) : Decidable (FitsInt32 n) := inferInstanceAs (Decidable (_ ∧ _))
instance (n : Int) : Decidable (FitsInt64 n) := inferInstanceAs (Decidable (_ ∧ _))
instance (n : Nat) : Decidable (FitsUInt32 n) := inferInstanceAs (Decidable (_ < _))

def readInt64 (text : List Char) : Option Int :=
  (readInteger text).filter fun n => FitsInt64 n

/-- The nearest signed word of 64 bits. -/
def clampInt64 (n : Int) : Int := max (-9223372036854775808) (min n 9223372036854775807)

end RowMapper.Number
