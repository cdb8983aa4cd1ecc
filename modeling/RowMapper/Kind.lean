import RowMapper.Error
/-!
Kinds: how a value passes between its external form, which programs and databases exchange, and the
internal form that a cell keeps. A kind accepts a value from one of the two sides and presents it to
one of them. Texts are read only when they come from the database.
-/

set_option autoImplicit false

namespace RowMapper

/-- Where a value comes from or goes to. -/
inductive Side where
  | program
  | database
  deriving DecidableEq, Repr

/-- The kind of a cell. These thirteen are all that the library brings; a kind of a program's own
has no place here. An enumeration maps names to the integers that the database keeps; where a name
or an integer stands twice, the last one counts. -/
inductive Kind where
  | any
  | bool
  | int
  | float
  | decimal
  | text
  | bytes
  | dateTime
  | date
  | clock
  | duration
  | enumeration (members : List (String × Int64))
  | json
  deriving DecidableEq, Repr

namespace Kind

def name : Kind → String
  | .any => "any"
  | .bool => "bool"
  | .int => "int"
  | .float => "float"
  | .decimal => "decimal"
  | .text => "text"
  | .bytes => "bytes"
  | .dateTime => "datetime"
  | .date => "date"
  | .clock => "time"
  | .duration => "timedelta"
  | .enumeration _ => "enum"
  | .json => "json"

/-- The kind under which a value is bound when it stands in a statement. -/
def ofValue : Value → Kind
  | .bool _ => .bool
  | .int _ => .int
  | .float _ => .float
  | .decimal _ => .decimal
  | .text _ => .text
  | .bytes _ => .bytes
  | .dateTime _ => .dateTime
  | .date _ => .date
  | .clock _ => .clock
  | .duration _ => .duration
  | .json _ => .json

def readDate (text : String) : Except Error Calendar.Date :=
  (Calendar.Date.parse text.toList).mapError fun cause => .value (.notADate text cause)

def readClock (text : String) : Except Error Calendar.Clock :=
  (Calendar.Clock.parse text.toList).mapError fun cause => .value (.notAClock text cause)

def readInterval (text : String) : Except Error Calendar.Duration :=
  (Calendar.Interval.parse text.toList).mapError fun
    | .notAClock token => .value (.notAClock (String.ofList token) .unknownFormat)
    | .notANumber token => .value (.notAnAmount (String.ofList token) text)
    | .unknownUnit token => .value (.unknownUnit (String.ofList token) text)
    | .overflow => .durationOverflow

def readDateTime (text : String) : Except Error Calendar.DateTime :=
  match Text.cut ' ' text.toList with
  | none => .error (.value (.dateTimeFormat text))
  | some (before, after) => do
    let day ← readDate (String.ofList before)
    let time ← readClock (String.ofList after)
    return ⟨day, time⟩

/-- What stands before the first blank, or the whole text. -/
def datePart (text : String) : String :=
  match Text.cut ' ' text.toList with
  | some (before, _) => String.ofList before
  | none => text

/-- What stands behind the first blank, or the whole text. -/
def clockPart (text : String) : String :=
  match Text.cut ' ' text.toList with
  | some (_, after) => String.ofList after
  | none => text

/-- The moment of a count of seconds. -/
def ofTimestamp (seconds : Float) : Except Error Value :=
  match Calendar.DateTime.ofTimestamp? seconds with
  | some d => .ok (.dateTime d)
  | none => .error (.value (.timestampOutOfRange seconds))

/-- The integer of a name: the last member with that name. -/
def memberValue? (members : List (String × Int64)) (name : String) : Option Int64 :=
  (members.reverse.find? fun member => member.1 == name).map Prod.snd

/-- The name of an integer: the last member with that integer. -/
def memberName? (members : List (String × Int64)) (n : Int64) : Option String :=
  (members.reverse.find? fun member => member.2 == n).map Prod.fst

section

variable {members : List (String × Int64)}

/-- Where a member fits, the last one that fits is found. -/
theorem findLast_of_mem {p : String × Int64 → Bool} {member : String × Int64}
    (isMember : member ∈ members) (fits : p member) :
    ∃ last ∈ members, members.reverse.find? p = some last ∧ p last := by
  have found : (members.reverse.find? p).isSome :=
    List.find?_isSome.mpr ⟨member, List.mem_reverse.mpr isMember, fits⟩
  obtain ⟨last, isLast⟩ := Option.isSome_iff_exists.mp found
  exact ⟨last, List.mem_reverse.mp (List.mem_of_find?_eq_some isLast), isLast,
    List.find?_some isLast⟩

theorem mem_of_memberValue? {name : String} {n : Int64}
    (found : memberValue? members name = some n) :
    n ∈ members.map Prod.snd := by
  obtain ⟨member, isLast, rfl⟩ := Option.map_eq_some_iff.mp found
  exact List.mem_map_of_mem (List.mem_reverse.mp (List.mem_of_find?_eq_some isLast))

/-- The integer of a member has the name of a member with that integer. -/
theorem memberName?_of_mem {n : Int64} (isMember : n ∈ members.map Prod.snd) :
    ∃ name, memberName? members n = some name ∧ (name, n) ∈ members := by
  obtain ⟨member, inside, rfl⟩ := List.mem_map.mp isMember
  obtain ⟨last, isLast, found, fits⟩ :=
    findLast_of_mem (p := fun other => other.2 == member.2) inside (beq_self_eq_true _)
  have same : last.2 = member.2 := eq_of_beq fits
  refine ⟨last.1, by rw [memberName?, found]; rfl, ?_⟩
  rwa [← same]

end

/-- The value is of no type that the kind takes. -/
def mismatch {α : Type} (kind : Kind) (v : Value) : Except Error α :=
  .error (.type (.mismatch kind.name v))

/-- The internal form of a value from one side. -/
def accept (kind : Kind) (source : Side) (v : Value) : Except Error Value :=
  match kind, v with
  | .any, v => .ok v
  | .bool, .bool b => .ok (.bool b)
  | .bool, .int n => .ok (.bool (n != 0))
  | .bool, .float x => .ok (.bool (x != 0))
  | .bool, .decimal d => .ok (.bool !d.isZero)
  | .int, .bool b => .ok (.int (if b then 1 else 0))
  | .int, .int n => .ok (.int n)
  | .int, .float x => .ok (.int (.ofInt (Number.toInt64Saturating .towardZero x)))
  | .int, .decimal d => match d.toInt64? with
    | some n => .ok (.int (.ofInt n))
    | none => .error (.value (.decimalTooLarge d))
  | .float, .bool b => .ok (.float (if b then 1 else 0))
  | .float, .int n => .ok (.float (Float.ofInt n.toInt))
  | .float, .float x => .ok (.float x)
  | .float, .decimal d => .ok (.float d.toFloat)
  | .decimal, .int n => .ok (.decimal (.ofInt n.toInt))
  | .decimal, .decimal d => .ok (.decimal d)
  | .decimal, .text s =>
    if source = .database then
      match Number.Decimal.read s with
      | .ok d => .ok (.decimal d)
      | .error cause => .error (.value (.notADecimal s cause))
    else mismatch kind v
  | .text, .text s => .ok (.text s)
  | .bytes, .bytes bs => .ok (.bytes bs)
  | .bytes, .text s =>
    if source = .database then .ok (.bytes (Text.encodeUtf8 s)) else mismatch kind v
  | .dateTime, .dateTime d => .ok (.dateTime d)
  | .dateTime, .text s =>
    if source = .database then (readDateTime s).map .dateTime else mismatch kind v
  | .dateTime, .int n =>
    if source = .program then ofTimestamp (Float.ofInt n.toInt) else mismatch kind v
  | .dateTime, .float x => if source = .program then ofTimestamp x else mismatch kind v
  | .date, .date d => .ok (.date d)
  | .date, .dateTime d => if source = .program then .ok (.date d.date) else mismatch kind v
  | .date, .text s =>
    if source = .database then (readDate (datePart s)).map .date else mismatch kind v
  | .clock, .clock t => .ok (.clock t)
  | .clock, .dateTime d => if source = .program then .ok (.clock d.clock) else mismatch kind v
  | .clock, .text s =>
    if source = .database then (readClock (clockPart s)).map .clock else mismatch kind v
  | .duration, .duration d => .ok (.duration d)
  | .duration, .text s =>
    if source = .database then (readInterval s).map .duration else mismatch kind v
  | .enumeration members, v =>
    if source = .database then .ok v
    else match v.asText.bind (memberValue? members) with
      | some n => .ok (.int n)
      | none => .error (.value (.notAMember v))
  | .json, .json j => .ok (.json j)
  | .json, .text s =>
    if source = .database then
      match Json.read s with
      | .ok j => .ok (.json j)
      | .error cause => .error (.value (.notAJson s cause))
    else mismatch kind v
  | kind, v => mismatch kind v

/-- The external form, for one side, of a value that a cell keeps. -/
def present (kind : Kind) (target : Side) (v : Value) : Except Error Value :=
  match kind, v with
  | .decimal, .decimal d => .ok (if target = .database then .text d.text else v)
  | .json, .json j => .ok (if target = .database then .text j.write else v)
  | .enumeration members, v =>
    if target = .database then .ok v
    else match v with
      | .int n => match memberName? members n with
        | some name => .ok (.text name)
        | none => .error (.value (.notAMember v))
      | _ => .error (.value (.notAMember v))
  | _, v => .ok v

/-- The kind of a value takes the value as it is. -/
theorem accept_ofValue (v : Value) : (ofValue v).accept .program v = .ok v := by
  cases v <;> rfl

end Kind

end RowMapper
