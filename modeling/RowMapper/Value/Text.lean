import RowMapper.Number.Decimal.Text
import RowMapper.Text.Utf8
import RowMapper.Value.Basic
/-!
Values as text: the plain form for people and the diagnostic form, which names the type.
-/

set_option autoImplicit false

namespace RowMapper.Value

/-- The plain form. -/
def display : Value → String
  | .bool b => Text.truth b
  | .int n => toString n.toInt
  | .float x => Number.floatText Number.plainLayout x
  | .decimal d => d.text
  | .text s => s
  | .bytes bs => Text.decodeLossy bs
  | .dateTime d => d.text
  | .date d => d.text
  | .clock t => t.text
  | .duration d => d.text
  | .json j => j.write

def diagnostic : Value → String
  | .bool b => Text.applied "Bool" [Text.truth b]
  | .int n => Text.applied "Int" [toString n.toInt]
  | .float x => Text.applied "Float" [Number.floatText Number.diagnosticLayout x]
  | .decimal d => Text.applied "Decimal" [d.diagnostic]
  | .text s => Text.applied "Text" [Text.quoted s]
  | .bytes bs => Text.applied "Bytes" [Text.listed (bs.map fun b => toString b.toNat)]
  | .dateTime d => Text.applied "DateTime" [d.diagnostic]
  | .date d => Text.applied "Date" [d.text]
  | .clock t => Text.applied "Time" [t.text]
  | .duration d => Text.applied "TimeDelta" [d.diagnostic]
  | .json j => Text.applied "Json" [j.diagnostic]

end RowMapper.Value
