import RowMapper.Calendar.Interval
import RowMapper.Json.Reader
import RowMapper.Value.Text
/-!
What can go wrong, as causes. The words are in one function for each kind of cause.
-/

set_option autoImplicit false

namespace RowMapper

inductive ValueFault where
  /-- The whole part of a decimal exceeds 64 bits. -/
  | decimalTooLarge (d : Number.Decimal)
  | notADecimal (text : String) (cause : Number.Decimal.ReadError)
  /-- No blank separates a date from a time. -/
  | dateTimeFormat (text : String)
  | notADate (text : String) (cause : Calendar.DateFault)
  | notAClock (text : String) (cause : Calendar.ClockFault)
  | notAnAmount (token text : String)
  | unknownUnit (token text : String)
  | timestampOutOfRange (seconds : Float)
  | notAMember (value : Value)
  | notAJson (text : String) (cause : Json.ReadError)
  | stated (text : String)

inductive TypeFault where
  | mismatch (expected : String) (found : Value)
  | stated (text : String)

inductive ClassFault where
  | noTableName (type : String)
  | unknownKeyColumn (type column : String)
  | sharedKeyPosition (type column earlier : String)
  | noKey (type : String)
  | unknownOrderColumn (type column : String)
  | stated (text : String)

inductive InvariantFault where
  /-- A handler met a node of another form than it is for. -/
  | unexpectedNode (expected found : String)
  | sequenceAsNode
  | stated (text : String)

inductive Error where
  | validation (text : String)
  | nullNotAllowed (column : Option String)
  /-- No tag of a node has a handler. -/
  | noHandler (tag shown : String)
  | classInfo (fault : ClassFault)
  | type (fault : TypeFault)
  | value (fault : ValueFault)
  | config (text : String)
  | invariant (fault : InvariantFault)
  /-- A sum of lengths of time exceeds the longest; nothing recovers from it. -/
  | durationOverflow
  /-- Foreign code is nested too deeply; nothing recovers from it. -/
  | nestedTooDeeply

def ValueFault.message : ValueFault → String
  | .decimalTooLarge d => "Decimal " ++ d.text ++ " does not fit an int"
  | .notADecimal text cause => "Invalid decimal " ++ Text.quoted text ++ ": " ++ cause.message
  | .dateTimeFormat text => "Unknown date/time format: " ++ Text.quoted text
  | .notADate text .unknownFormat => "Unknown date format: " ++ Text.quoted text
  | .notADate text .invalid => "Invalid date: " ++ Text.quoted text
  | .notAClock text .unknownFormat => "Unknown time format: " ++ Text.quoted text
  | .notAClock text .invalid => "Invalid time: " ++ Text.quoted text
  | .notAnAmount token text =>
    "Expected an interval value rather than " ++ Text.quoted token ++ " in interval " ++
      Text.quoted text
  | .unknownUnit token text =>
    "Unsupported interval unit " ++ Text.quoted token ++ " in interval " ++ Text.quoted text
  | .timestampOutOfRange seconds =>
    "Timestamp out of range: " ++ Number.floatText Number.plainLayout seconds
  | .notAMember value => "Invalid enum value: " ++ value.diagnostic
  | .notAJson text cause => "Invalid JSON " ++ Text.quoted text ++ ": " ++ cause.message
  | .stated text => text

def TypeFault.message : TypeFault → String
  | .mismatch expected found =>
    "Expected " ++ expected ++ ", found " ++ found.typeName ++ ": " ++ found.diagnostic
  | .stated text => text

def ClassFault.message : ClassFault → String
  | .noTableName type => type ++ " has no table name"
  | .unknownKeyColumn type column => type ++ " has no column named " ++ column
  | .sharedKeyPosition type column earlier =>
    type ++ " has two columns with the same primary id: " ++ column ++ " and " ++ earlier
  | .noKey type => type ++ " has no primary key information"
  | .unknownOrderColumn type column => type ++ " can't be ordered by unknown column " ++ column
  | .stated text => text

def InvariantFault.message : InvariantFault → String
  | .unexpectedNode expected found => "expected " ++ expected ++ ", got " ++ found
  | .sequenceAsNode => "sequence compiled as a single node"
  | .stated text => text

def Error.message : Error → String
  | .validation text => "Validation error: " ++ text
  | .nullNotAllowed none => "None isn't acceptable as a value"
  | .nullNotAllowed (some column) => "None isn't acceptable as a value for " ++ column
  | .noHandler tag shown => "Don't know how to compile type " ++ tag ++ " of " ++ shown
  | .classInfo fault => "Class info error: " ++ fault.message
  | .type fault => "Type error: " ++ fault.message
  | .value fault => "Value error: " ++ fault.message
  | .config text => "Config error: " ++ text
  | .invariant fault => "Internal invariant violated: " ++ fault.message
  | .durationOverflow => "\x60TimeDelta + TimeDelta\x60 overflowed"
  | .nestedTooDeeply => "foreign code is nested too deeply"

/-- Nothing recovers from the error: it ends all that is going on. -/
def Error.isFatal : Error → Bool
  | .durationOverflow => true
  | .nestedTooDeeply => true
  | _ => false

end RowMapper
