import RowMapper.Number.Literal
import RowMapper.Text.Layout
import RowMapper.Text.Split
/-!
Days of the proleptic Gregorian calendar, their text and their reader. A date is written year,
month, day with dashes between; the year has four digits, and a sign outside 0 to 9999.
-/

set_option autoImplicit false

namespace RowMapper.Calendar

/-- Every fourth year is a leap year, of the full centuries every fourth. -/
def isLeapYear (year : Int) : Bool := year % 4 = 0 && (year % 100 ≠ 0 || year % 400 = 0)

def daysInMonth (year : Int) (month : Nat) : Nat :=
  if month = 2 then (if isLeapYear year then 29 else 28)
  else if month = 4 ∨ month = 6 ∨ month = 9 ∨ month = 11 then 30
  else 31

/-- The day exists, in the span of years that dates cover. -/
def IsDay (year : Int) (month day : Nat) : Prop :=
  (-262143 ≤ year ∧ year ≤ 262142) ∧ (1 ≤ month ∧ month ≤ 12) ∧
    1 ≤ day ∧ day ≤ daysInMonth year month

instance (year : Int) (month day : Nat) : Decidable (IsDay year month day) :=
  inferInstanceAs (Decidable (_ ∧ _ ∧ _ ∧ _))

structure Date where
  year : Int
  month : Nat
  day : Nat
  isDay : IsDay year month day
  deriving DecidableEq, Repr

inductive DateFault where
  /-- It is not three integers with dashes between. -/
  | unknownFormat
  /-- There is no such day. -/
  | invalid
  deriving DecidableEq, Repr

namespace Date

/-- The day with these numbers, if it exists. -/
def ofNumbers? (year : Int) (month day : Nat) : Option Date :=
  if h : IsDay year month day then some ⟨year, month, day, h⟩ else none

/-- The day that lies so many days after the first of January 1970. Years are counted from March, so
that a leap day ends its year, and four centuries have 146097 days. -/
def ofDayNumber? (number : Int) : Option Date :=
  let shifted := number + 719468
  let era := shifted.fdiv 146097
  let dayOfEra := (shifted.fmod 146097).toNat
  let yearOfEra := (dayOfEra - dayOfEra / 1460 + dayOfEra / 36524 - dayOfEra / 146096) / 365
  let dayOfYear := dayOfEra - (365 * yearOfEra + yearOfEra / 4 - yearOfEra / 100)
  let monthFromMarch := (5 * dayOfYear + 2) / 153
  let day := dayOfYear - (153 * monthFromMarch + 2) / 5 + 1
  let month := if monthFromMarch < 10 then monthFromMarch + 3 else monthFromMarch - 9
  let year := (yearOfEra : Int) + era * 400 + (if month ≤ 2 then 1 else 0)
  ofNumbers? year month day

def yearText (year : Int) : String :=
  if 0 ≤ year ∧ year ≤ 9999 then Text.padded 4 year.toNat
  else (if year < 0 then "-" else "+") ++ Text.padded 4 year.natAbs

def text (d : Date) : String :=
  yearText d.year ++ "-" ++ Text.padded 2 d.month ++ "-" ++ Text.padded 2 d.day

/-- The three parts between the first two dashes. -/
def parts (text : List Char) : Option (List Char × List Char × List Char) := do
  let (year, rest) ← Text.cut '-' text
  let (month, day) ← Text.cut '-' rest
  return (year, month, day)

/-- Reads the three numbers of a date: the year as a signed word of 32 bits, the others unsigned. -/
def readNumbers (text : List Char) : Option (Int × Nat × Nat) := do
  let (year, month, day) ← parts text
  let year ← (Number.readInteger year).filter fun n => Number.FitsInt32 n
  let month ← (Number.readNatural month).filter fun n => Number.FitsUInt32 n
  let day ← (Number.readNatural day).filter fun n => Number.FitsUInt32 n
  return (year, month, day)

def parse (text : List Char) : Except DateFault Date :=
  match readNumbers text with
  | none => .error .unknownFormat
  | some (year, month, day) =>
    match ofNumbers? year month day with
    | none => .error .invalid
    | some date => .ok date

end Date

end RowMapper.Calendar
