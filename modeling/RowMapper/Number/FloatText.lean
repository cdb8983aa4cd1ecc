import RowMapper.Number.Shortest
import RowMapper.Text.Split
/-!
Floating point numbers as text. The digits are always the shortest that read back; a layout says
from where to where they are written positionally and how the exponent looks otherwise.
-/

set_option autoImplicit false

namespace RowMapper.Number

/-- The decisions of a float format. -/
structure FloatLayout where
  /-- Whether a number whose leading digit has this power of ten is written without exponent. -/
  positional : Int → Bool
  /-- Whether an integer is written with a point and a zero. -/
  pointZero : Bool
  /-- Whether a positive exponent has a plus sign. -/
  exponentPlus : Bool
  tie : Tie

/-- Display: always positional, integers without a point. -/
def plainLayout : FloatLayout where
  positional _ := true
  pointZero := false
  exponentPlus := false
  tie := .up

/-- Diagnostics: positional from 0.0001 up to sixteen places before the point. -/
def diagnosticLayout : FloatLayout where
  positional e := -4 ≤ e && e < 16
  pointZero := true
  exponentPlus := false
  tie := .up

/-- Documents: positional from 0.00001 up to sixteen places before the point, and a sign in every
exponent. -/
def documentLayout : FloatLayout where
  positional e := -5 ≤ e && e < 16
  pointZero := true
  exponentPlus := true
  tie := .even

/-- Digits with the point where the exponent puts it. -/
def positionalText (pointZero : Bool) (digits : List Char) (exponent : Int) : List Char :=
  let places := (-exponent).toNat
  if 0 ≤ exponent then
    digits ++ List.replicate exponent.toNat '0' ++ (if pointZero then ['.', '0'] else [])
  else if digits.length ≤ places then
    '0' :: '.' :: List.replicate (places - digits.length) '0' ++ digits
  else digits.take (digits.length - places) ++ '.' :: digits.drop (digits.length - places)

/-- One digit, the others after a point, and the exponent. -/
def exponentText (plus : Bool) (digits : List Char) (leading : Int) : List Char :=
  let mantissa := match digits with
    | [] => []
    | [d] => [d]
    | d :: rest => d :: '.' :: rest
  let sign := if leading < 0 then ['-'] else if plus then ['+'] else []
  mantissa ++ 'e' :: sign ++ decimalDigits leading.natAbs

def floatText (layout : FloatLayout) (x : Float) : String :=
  match Binary64.ofFloat x with
  | .notANumber => "NaN"
  | .infinite negative => if negative then "-inf" else "inf"
  | .finite negative mantissa exponent =>
    let d := shortest layout.tie mantissa exponent
    let digits := decimalDigits d.digits
    let leading := d.exponent + digits.length - 1
    let body :=
      if mantissa = 0 || layout.positional leading then
        positionalText layout.pointZero digits d.exponent
      else exponentText layout.exponentPlus digits leading
    String.ofList (if negative then '-' :: body else body)

/-- Digits with an optional point, at least one digit in all, as a whole number and a count of
places. -/
def readFixed (text : List Char) : Option (Nat × Nat) :=
  match Text.cut '.' text with
  | none => (readDigits text).map (·, 0)
  | some (whole, places) =>
    let digits := whole ++ places
    (readDigits digits).map (·, places.length)

/-- The magnitude that an unsigned text denotes: the words for infinity and for what is no number in
any case, or digits with an optional point and an optional exponent. -/
def readMagnitude (text : List Char) : Option Float :=
  let word := text.map Char.toLower
  if word = ['i', 'n', 'f'] || word = ['i', 'n', 'f', 'i', 'n', 'i', 't', 'y'] then some (1 / 0)
  else if word = ['n', 'a', 'n'] then some (0 / 0)
  else
    let (mantissa, exponent) : List Char × Option Int :=
      match Text.cut 'e' word with
      | none => (text, some 0)
      | some (mantissa, exponent) => (mantissa, readInteger exponent)
    match readFixed mantissa, exponent with
    | some (digits, places), some exponent => some (nearestFloat false digits (exponent - places))
    | _, _ => none

def splitSign : List Char → Bool × List Char
  | '-' :: rest => (true, rest)
  | '+' :: rest => (false, rest)
  | text => (false, text)

def readFloat (text : List Char) : Option Float :=
  let (negative, rest) := splitSign text
  (readMagnitude rest).map fun x => if negative then -x else x

end RowMapper.Number
