import RowMapper.Number.Scaled
import RowMapper.Text.Layout
/-!
Lengths of time to the nanosecond. A sum that exceeds the largest length is no length.
-/

set_option autoImplicit false

namespace RowMapper.Calendar

structure Duration where
  nanos : Int
  deriving DecidableEq, Repr

namespace Duration

/-- The greatest length, in nanoseconds: as many milliseconds as a signed word of 64 bits can
count. -/
def limit : Int := 9223372036854775807 * 1000000

def zero : Duration := ⟨0⟩

def micros (n : Int) : Duration := ⟨n * 1000⟩

def seconds (n : Int) : Duration := ⟨n * 1000000000⟩

/-- The sum, if it is within the limit. -/
def add? (a b : Duration) : Option Duration :=
  let sum := a.nanos + b.nanos
  if -limit ≤ sum ∧ sum ≤ limit then some ⟨sum⟩ else none

/-- A fraction of a second without trailing zeros. -/
def fractionText (nano : Nat) : String :=
  if nano = 0 then ""
  else
    let d := Number.Scaled.normal ⟨nano, -9⟩
    "." ++ Text.padded (-d.exponent).toNat d.digits

/-- The written form: a sign, the whole seconds and the fraction. -/
def text (d : Duration) : String :=
  if d.nanos = 0 then "P0D"
  else
    let size := d.nanos.natAbs
    (if d.nanos < 0 then "-" else "") ++ "PT" ++ toString (size / 1000000000) ++
      fractionText (size % 1000000000) ++ "S"

/-- The diagnostic form: the floor in seconds and the rest in nanoseconds. -/
def diagnostic (d : Duration) : String :=
  Text.record "TimeDelta"
    [("secs", toString (d.nanos.fdiv 1000000000)), ("nanos", toString (d.nanos.fmod 1000000000))]

end Duration

end RowMapper.Calendar
