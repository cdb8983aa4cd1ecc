import RowMapper.Calendar.Date
import RowMapper.Json.Reader
import RowMapper.Number.FloatText
import RowMapper.Toml.Basic
/-!
Numbers, dates and times, and the two truth values: all that is written without quotes and brackets.
-/

set_option autoImplicit false

namespace RowMapper.Toml

/-- A character of a value without quotes and brackets. -/
def isScalarChar (c : Char) : Bool :=
  c.isAlphanum || c == '_' || c == '+' || c == '-' || c == '.' || c == ':'

/-- Digits in a base, with underscores allowed between two of them; the underscores are taken
out. -/
def digitsBetween (isDigit : Char → Bool) (text : List Char) : Option (List Char) :=
  let runs := Text.fields '_' text
  if runs.all fun run => !run.isEmpty && run.all isDigit then some runs.flatten else none

/-- Decimal digits without a zero in front of others. -/
def wholeDigits (text : List Char) : Option (List Char) := do
  let digits ← digitsBetween Char.isDigit text
  match digits with
  | '0' :: _ :: _ => none
  | _ => some digits

def numberInBase (base : Nat) (digits : List Char) : Option Nat :=
  (digits.mapM Json.hexValue?).map fun values => values.foldl (fun n digit => n * base + digit) 0

/-- A digit of a base up to sixteen. -/
def isDigitOf (base : Nat) (c : Char) : Bool := (Json.hexValue? c).any fun value => value < base

def baseInteger (base : Nat) (text : List Char) : Option Int := do
  let n ← numberInBase base (← digitsBetween (isDigitOf base) text)
  return n

def integer? (text : List Char) : Option Int :=
  let n := match text with
    | '0' :: 'x' :: digits => baseInteger 16 digits
    | '0' :: 'o' :: digits => baseInteger 8 digits
    | '0' :: 'b' :: digits => baseInteger 2 digits
    | _ => do
      let (negative, digits) := Number.splitSign text
      let n ← Number.readDigits (← wholeDigits digits)
      return if negative then -(n : Int) else n
  n.filter fun n => Number.FitsInt64 n

/-- The part of a number behind its whole part: places behind a point, an exponent, or both. -/
def fractionText (text : List Char) : Option (List Char) :=
  let (places, exponent) := match Text.cut 'e' (text.map Char.toLower) with
    | some (places, exponent) => (places, some exponent)
    | none => (text, none)
  let places? : Option (List Char) := match places with
    | [] => some []
    | '.' :: digits => (digitsBetween Char.isDigit digits).map ('.' :: ·)
    | _ => none
  let exponent? : Option (List Char) := match exponent with
    | none => some []
    | some written =>
      let (negative, digits) := Number.splitSign written
      (digitsBetween Char.isDigit digits).map fun digits =>
        'e' :: (if negative then '-' :: digits else digits)
  match places?, exponent? with
  | some places, some exponent =>
    if places.isEmpty && exponent.isEmpty then none else some (places ++ exponent)
  | _, _ => none

/-- A floating point number, which must be finite unless it is written as a word. -/
def float? (text : List Char) : Option Float :=
  let (negative, unsigned) := Number.splitSign text
  if unsigned = ['i', 'n', 'f'] || unsigned = ['n', 'a', 'n'] then Number.readFloat text
  else do
    let whole ← wholeDigits (unsigned.takeWhile fun c => c.isDigit || c == '_')
    let rest ← fractionText (unsigned.dropWhile fun c => c.isDigit || c == '_')
    let x ← Number.readFloat (whole ++ rest)
    if x.isInf then none else some (if negative then -x else x)

/-- The number that two digits write, if it does not exceed a limit. -/
def twoDigits? (limit : Nat) (a b : Char) : Option Nat :=
  (Number.readDigits [a, b]).filter (· ≤ limit)

/-- The normal text of a day that exists. -/
def dateText? (text : List Char) : Option String := do
  match text with
  | [a, b, c, d, '-', e, f, '-', g, h] =>
    let year ← Number.readDigits [a, b, c, d]
    let month ← Number.readDigits [e, f]
    let day ← Number.readDigits [g, h]
    let _ ← Calendar.Date.ofNumbers? year month day
    return String.ofList text
  | _ => none

/-- The places of a second in their normal text: nine at most, and no zero at the end. -/
def secondPlaces (digits : List Char) : List Char :=
  match ((digits.take 9).reverse.dropWhile (· == '0')).reverse with
  | [] => []
  | digits => '.' :: digits

/-- Reads a time of day, of which a leap second may be part; yields its normal text. -/
def timeText : Reader (List Char)
  | a :: b :: ':' :: c :: d :: ':' :: e :: f :: rest => do
    let _ ← twoDigits? 23 a b
    let _ ← twoDigits? 59 c d
    let _ ← twoDigits? 60 e f
    let clock := [a, b, ':', c, d, ':', e, f]
    match rest with
    | '.' :: digits =>
      let places := digits.takeWhile Char.isDigit
      if places.isEmpty then none
      else some (clock ++ secondPlaces places, digits.dropWhile Char.isDigit)
    | _ => some (clock, rest)
  | _ => none

/-- The normal text of the offset of a time. Without a difference it has a plus sign. -/
def offsetText? : List Char → Option (List Char)
  | [] => some []
  | ['Z'] => some ['Z']
  | ['z'] => some ['Z']
  | [sign, a, b, ':', c, d] => do
    if sign ≠ '+' ∧ sign ≠ '-' then none
    let hours ← twoDigits? 23 a b
    let minutes ← twoDigits? 59 c d
    return (if hours = 0 ∧ minutes = 0 then '+' else sign) :: [a, b, ':', c, d]
  | _ => none

def localTimeText? (text : List Char) : Option String :=
  match timeText text with
  | some (time, []) => some (String.ofList time)
  | _ => none

/-- The normal text of a date, a time or both, with a letter or a blank between. -/
def dateTimeText? (text : List Char) : Option String :=
  match text.drop 10 with
  | [] => if text.length = 10 then dateText? text else localTimeText? text
  | separator :: rest =>
    if separator == 'T' || separator == 't' || separator == ' ' then do
      let date ← dateText? (text.take 10)
      let (time, rest) ← timeText rest
      let offset ← offsetText? rest
      return date ++ String.ofList ('T' :: time ++ offset)
    else localTimeText? text

/-- The value that a text without quotes and brackets writes. -/
def scalar? (text : List Char) : Option Toml :=
  if text = ['t', 'r', 'u', 'e'] then some (.bool true)
  else if text = ['f', 'a', 'l', 's', 'e'] then some (.bool false)
  else
    match integer? text, float? text, dateTimeText? text with
    | some n, _, _ => some (.integer n)
    | none, some x, _ => some (.float x)
    | none, none, some written => some (.dateTime written)
    | none, none, none => none

/-- Takes a value without quotes and brackets. A date takes a time behind one blank with it. -/
def takeScalar (text : List Char) : List Char × List Char :=
  let first := text.takeWhile isScalarChar
  let rest := text.dropWhile isScalarChar
  match dateText? first, rest with
  | some _, ' ' :: a :: b :: ':' :: behind =>
    if a.isDigit && b.isDigit then
      let time := a :: b :: ':' :: behind
      (first ++ ' ' :: time.takeWhile isScalarChar, time.dropWhile isScalarChar)
    else (first, rest)
  | _, _ => (first, rest)

/-- Reads a value without quotes and brackets. -/
def scalar (text : List Char) : Option (Toml × List Char) :=
  let (taken, rest) := takeScalar text
  (scalar? taken).map (·, rest)

end RowMapper.Toml
