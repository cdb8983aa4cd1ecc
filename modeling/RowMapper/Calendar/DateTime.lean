import RowMapper.Calendar.Clock
import RowMapper.Calendar.Date
import RowMapper.Number.Binary64
/-!
A day and a time of day, also as a count of seconds from the beginning of 1970.
-/

set_option autoImplicit false

namespace RowMapper.Calendar

/-- A day and a time of day. -/
structure DateTime where
  date : Date
  clock : Clock
  deriving DecidableEq, Repr

namespace DateTime

def text (d : DateTime) : String := d.date.text ++ " " ++ d.clock.text

def diagnostic (d : DateTime) : String := d.date.text ++ "T" ++ d.clock.text

/-- The moment so many whole seconds and nanoseconds after the beginning of 1970. -/
def ofUnix? (seconds : Int) (nano : Nat) : Option DateTime := do
  let date ← Date.ofDayNumber? (seconds.fdiv 86400)
  let second := (seconds.fmod 86400).toNat
  let clock ← Clock.ofNumbers? (second / 3600) (second / 60 % 60) (second % 60) nano
  return ⟨date, clock⟩

/-- The moment of a count of seconds: its floor and the rest, rounded to nanoseconds. -/
def ofTimestamp? (seconds : Float) : Option DateTime :=
  match (Number.Binary64.ofFloat seconds).toInt? .down with
  | some whole =>
    let rest := (seconds - Float.ofInt whole) * 1000000000
    ofUnix? (Number.clampInt64 whole) (Number.toInt64Saturating .halfAway rest).toNat
  | none => ofUnix? (Number.toInt64Saturating .down seconds) 0

end DateTime

end RowMapper.Calendar
