import RowMapper.Calendar.DateTime
import RowMapper.Calendar.Duration
import RowMapper.Json.Basic
import RowMapper.Number.Decimal.Basic
/-!
Values: what a cell holds and a statement binds. Equality is that of the contents: a float that is
no number differs from itself, and decimals are compared as numbers.
-/

set_option autoImplicit false

namespace RowMapper

inductive Value where
  | bool (b : Bool)
  | int (n : Int64)
  | float (x : Float)
  | decimal (d : Number.Decimal)
  | text (s : String)
  | bytes (bs : List UInt8)
  | dateTime (d : Calendar.DateTime)
  | date (d : Calendar.Date)
  | clock (t : Calendar.Clock)
  | duration (d : Calendar.Duration)
  | json (j : Json)

namespace Value

def typeName : Value → String
  | .bool _ => "bool"
  | .int _ => "int"
  | .float _ => "float"
  | .decimal _ => "decimal"
  | .text _ => "text"
  | .bytes _ => "bytes"
  | .dateTime _ => "datetime"
  | .date _ => "date"
  | .clock _ => "time"
  | .duration _ => "timedelta"
  | .json _ => "json"

def asText : Value → Option String
  | .text s => some s
  | _ => none

def same : Value → Value → Bool
  | .bool a, .bool b => a == b
  | .int a, .int b => a == b
  | .float a, .float b => a == b
  | .decimal a, .decimal b => a.same b
  | .text a, .text b => a == b
  | .bytes a, .bytes b => a == b
  | .dateTime a, .dateTime b => a == b
  | .date a, .date b => a == b
  | .clock a, .clock b => a == b
  | .duration a, .duration b => a == b
  | .json a, .json b => a.same b
  | _, _ => false

end Value

end RowMapper
