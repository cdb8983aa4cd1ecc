import RowMapper.Number.Decimal.Basic
import RowMapper.Text.Layout
import RowMapper.Text.Split
/-!
Decimals as text. They are written with all their places; more than five zeros after the point, or
more than fifteen zeros behind the digits, give way to an exponent. The reader takes an optional
exponent, an optional point and underscores between digits.
-/

set_option autoImplicit false

namespace RowMapper.Number.Decimal

/-- A number with its sign always written. -/
def signedText (n : Int) : List Char :=
  (if n < 0 then '-' else '+') :: decimalDigits n.natAbs

/-- The digits of the magnitude with the point, or with an exponent where there would be too many
zeros. -/
def magnitudeText (digits : List Char) (scale : Int) : List Char :=
  if 5 < scale - digits.length then
    let mantissa := match digits with
      | [] => []
      | [d] => [d]
      | d :: rest => d :: '.' :: rest
    mantissa ++ 'E' :: signedText (digits.length - 1 - scale)
  else if 15 < -scale then digits ++ 'e' :: signedText (-scale)
  else if scale ≤ 0 then digits ++ List.replicate (-scale).toNat '0'
  else
    let places := scale.toNat
    if digits.length ≤ places then
      '0' :: '.' :: List.replicate (places - digits.length) '0' ++ digits
    else digits.take (digits.length - places) ++ '.' :: digits.drop (digits.length - places)

def toChars (d : Decimal) : List Char :=
  if d.isZero then ['0']
  else
    let body := magnitudeText (decimalDigits d.digits.natAbs) d.scale
    if d.digits < 0 then '-' :: body else body

def text (d : Decimal) : String := String.ofList d.toChars

/-- The digits of a number in base two to the sixty-fourth, least significant first. -/
def words (n : Nat) : List Nat :=
  if h : n = 0 then [] else n % 18446744073709551616 :: words (n / 18446744073709551616)
termination_by n
decreasing_by exact Nat.div_lt_self (Nat.pos_of_ne_zero h) (by decide)

/-- The diagnostic form: sign, scale and words of the digits. -/
def diagnostic (d : Decimal) : String :=
  let sign := if d.digits = 0 then "NoSign" else if d.digits < 0 then "Minus" else "Plus"
  Text.applied "BigDecimal"
    ["sign=" ++ sign, "scale=" ++ toString d.scale,
      "digits=" ++ Text.listed ((words d.digits.natAbs).map toString)]

inductive ReadError where
  | emptyText
  | emptyInteger
  | invalidDigit
  | exponentTooLarge
  | exponentTooSmall
  | scaleOverflow (text : String)
  deriving DecidableEq, Repr

def ReadError.message : ReadError → String
  | .emptyText => "Failed to parse empty string"
  | .emptyInteger => "cannot parse integer from empty string"
  | .invalidDigit => "invalid digit found in string"
  | .exponentTooLarge => "number too large to fit in target type"
  | .exponentTooSmall => "number too small to fit in target type"
  | .scaleOverflow text => "Exponent overflow when parsing '" ++ text ++ "'"

/-- Reads the digits of an exponent, at most so large; the first fault from the left counts. -/
def readBounded (limit : Nat) (excess : ReadError) : Nat → List Char → Except ReadError Nat
  | n, [] => .ok n
  | n, c :: rest =>
    if !c.isDigit then .error .invalidDigit
    else
      let next := n * 10 + (c.toNat - '0'.toNat)
      if limit < next then .error excess else readBounded limit excess next rest

/-- Reads an exponent: a signed word of 128 bits. -/
def readExponent : List Char → Except ReadError Int
  | [] => .error .emptyInteger
  | ['+'] => .error .invalidDigit
  | ['-'] => .error .invalidDigit
  | '-' :: digits =>
    (readBounded (Nat.pow 2 127) .exponentTooSmall 0 digits).map fun n => -(n : Int)
  | '+' :: digits => (readBounded (Nat.pow 2 127 - 1) .exponentTooLarge 0 digits).map Int.ofNat
  | digits => (readBounded (Nat.pow 2 127 - 1) .exponentTooLarge 0 digits).map Int.ofNat

/-- Reads digits between which underscores may stand, but not in front. -/
def readMagnitude (digits : List Char) : Except ReadError Nat :=
  match digits with
  | [] => .error .emptyInteger
  | '_' :: _ => .error .invalidDigit
  | _ =>
    let kept := digits.filter (· ≠ '_')
    if kept.all Char.isDigit then .ok (digitsValue kept) else .error .invalidDigit

/-- Takes one sign off, unless a plus sign follows it. -/
def dropSign (sign : Char) : List Char → Option (List Char)
  | c :: rest => if c = sign ∧ rest.head? ≠ some '+' then some rest else none
  | [] => none

def readWhole (text : List Char) : Except ReadError Int :=
  match dropSign '-' text with
  | some rest => (readMagnitude ((dropSign '+' rest).getD rest)).map fun n => -(n : Int)
  | none => (readMagnitude ((dropSign '+' text).getD text)).map Int.ofNat

def splitExponent (text : List Char) : Except ReadError (List Char × Int) :=
  match text.span fun c => c ≠ 'e' && c ≠ 'E' with
  | (base, _ :: exponent) => (readExponent exponent).map (base, ·)
  | (base, []) => .ok (base, 0)

/-- The digits without the point and the count of places behind it. -/
def splitPoint (base : List Char) : List Char × Nat :=
  match Text.cut '.' base with
  | none => (base, 0)
  | some (lead, []) => (lead, 0)
  | some (lead, trail) => (lead ++ trail, (trail.filter (· ≠ '_')).length)

def read (text : String) : Except ReadError Decimal := do
  let (base, exponent) ← splitExponent text.toList
  if base.isEmpty then throw .emptyText
  let (digits, places) := splitPoint base
  let scale := (places : Int) - exponent
  if ¬FitsInt64 scale then throw (.scaleOverflow text)
  return ⟨← readWhole digits, scale⟩

end RowMapper.Number.Decimal
