import RowMapper.Number.Literal
import RowMapper.Text.Layout
import RowMapper.Text.Split
/-!
Times of day, their text and their reader. The last second of a minute may be a leap second, which
is kept as a fraction of more than a second. Fractions are written with three, six or nine digits
and read to six.
-/

set_option autoImplicit false

namespace RowMapper.Calendar

/-- The numbers are those of a time of day; only in the second 59 may the fraction exceed a
second. -/
def IsClock (hour minute second nano : Nat) : Prop :=
  (hour < 24 ∧ minute < 60 ∧ second < 60) ∧ nano < 2000000000 ∧ (nano < 1000000000 ∨ second = 59)

instance (hour minute second nano : Nat) : Decidable (IsClock hour minute second nano) :=
  inferInstanceAs (Decidable (_ ∧ _ ∧ _))

/-- A time of day, to the nanosecond. -/
structure Clock where
  hour : Nat
  minute : Nat
  second : Nat
  nano : Nat
  isClock : IsClock hour minute second nano
  deriving DecidableEq, Repr

inductive ClockFault where
  /-- It is not two or three integers with colons between. -/
  | unknownFormat
  /-- There is no such time of day. -/
  | invalid
  deriving DecidableEq, Repr

/-- The numbers of a time text: hours, minutes, seconds and microseconds, of any size and sign. -/
structure ClockNumbers where
  hour : Int
  minute : Int
  second : Int
  micro : Int
  deriving DecidableEq, Repr

namespace Clock

/-- The time with these numbers, if it exists. -/
def ofNumbers? (hour minute second nano : Nat) : Option Clock :=
  if h : IsClock hour minute second nano then some ⟨hour, minute, second, nano, h⟩ else none

/-- The fraction of a second in text: none, or three, six or nine digits after a point. -/
def fractionText (nano : Nat) : String :=
  if nano = 0 then ""
  else if nano % 1000000 = 0 then "." ++ Text.padded 3 (nano / 1000000)
  else if nano % 1000 = 0 then "." ++ Text.padded 6 (nano / 1000)
  else "." ++ Text.padded 9 nano

/-- The written form; a leap second is the second 60. -/
def text (t : Clock) : String :=
  let leap := 1000000000 ≤ t.nano
  let second := if leap then t.second + 1 else t.second
  let nano := if leap then t.nano - 1000000000 else t.nano
  Text.padded 2 t.hour ++ ":" ++ Text.padded 2 t.minute ++ ":" ++ Text.padded 2 second ++
    fractionText nano

/-- The seconds and the fraction of a text of seconds; of the fraction the first six characters
count. -/
def readSecond (text : List Char) : Option (List Char × Int) :=
  match Text.cut '.' text with
  | none => some (text, 0)
  | some (whole, fraction) =>
    let counted := fraction.take 6
    (Number.readInt64 counted).map fun micro => (whole, micro * Nat.pow 10 (6 - counted.length))

def readNumbers (text : List Char) : Option ClockNumbers := do
  let (hour, minute, second) ← match Text.fields ':' text with
    | [hour, minute] => some (hour, minute, ['0'])
    | [hour, minute, second] => some (hour, minute, second)
    | _ => none
  let (second, micro) ← readSecond second
  return {
    hour := ← Number.readInt64 hour
    minute := ← Number.readInt64 minute
    second := ← Number.readInt64 second
    micro }

/-- The low 32 bits of a number. -/
def lowWord (n : Int) : Nat := (n % 4294967296).toNat

/-- The time of day of the low words of the numbers. -/
def ofClockNumbers? (n : ClockNumbers) : Option Clock :=
  if lowWord n.micro * 1000 < 4294967296 then
    ofNumbers? (lowWord n.hour) (lowWord n.minute) (lowWord n.second) (lowWord n.micro * 1000)
  else none

def parse (text : List Char) : Except ClockFault Clock :=
  match readNumbers text with
  | none => .error .unknownFormat
  | some numbers =>
    match ofClockNumbers? numbers with
    | none => .error .invalid
    | some clock => .ok clock

end Clock

end RowMapper.Calendar
