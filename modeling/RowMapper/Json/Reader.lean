import RowMapper.Json.Basic
import RowMapper.Text.Utf8
/-!
The reader of documents. It refuses nesting deeper than 127 levels, and tells where it stopped by
line and column, the column counted in bytes. Of members with one key the last counts. A number with
a point or an exponent, or beyond 64 bits, is a floating point number: its first digits, as many as
fit 64 bits, scaled by a power of ten.
-/

set_option autoImplicit false

namespace RowMapper.Json

inductive Fault where
  | endInValue
  | endInList
  | endInObject
  | endInText
  | expectedValue
  | expectedWord
  | expectedColon
  | expectedCommaOrBracket
  | expectedCommaOrBrace
  | keyNotText
  | trailingComma
  | trailingCharacters
  | invalidNumber
  | numberOutOfRange
  | invalidEscape
  | incompleteSurrogates
  | loneSurrogate
  | controlCharacter
  | tooDeep
  deriving DecidableEq, Repr

def Fault.message : Fault → String
  | .endInValue => "EOF while parsing a value"
  | .endInList => "EOF while parsing a list"
  | .endInObject => "EOF while parsing an object"
  | .endInText => "EOF while parsing a string"
  | .expectedValue => "expected value"
  | .expectedWord => "expected ident"
  | .expectedColon => "expected \x60:\x60"
  | .expectedCommaOrBracket => "expected \x60,\x60 or \x60]\x60"
  | .expectedCommaOrBrace => "expected \x60,\x60 or \x60\x7d\x60"
  | .keyNotText => "key must be a string"
  | .trailingComma => "trailing comma"
  | .trailingCharacters => "trailing characters"
  | .invalidNumber => "invalid number"
  | .numberOutOfRange => "number out of range"
  | .invalidEscape => "invalid escape"
  | .incompleteSurrogates => "unexpected end of hex escape"
  | .loneSurrogate => "lone leading surrogate in hex escape"
  | .controlCharacter => "control character (\\u0000-\\u001F) found while parsing a string"
  | .tooDeep => "recursion limit exceeded"

/-- Where the reader stopped: so many bytes behind the start of the rest of the text. -/
structure Stop where
  fault : Fault
  rest : List Char
  bytes : Nat

/-- Stops in front of the rest. -/
def stopHere {α : Type} (fault : Fault) (rest : List Char) : Except Stop α :=
  .error ⟨fault, rest, 0⟩

/-- Stops at the next character, which counts as read. -/
def stopAt {α : Type} (fault : Fault) (rest : List Char) : Except Stop α := .error ⟨fault, rest, 1⟩

/-- Blanks between tokens. -/
def isGap (c : Char) : Bool := c == ' ' || c == '\n' || c == '\t' || c == '\r'

def skipGap (text : List Char) : List Char := text.dropWhile isGap

def readWord (value : Json) : List Char → List Char → Except Stop (Json × List Char)
  | [], rest => .ok (value, rest)
  | _ :: _, [] => stopHere .endInValue []
  | expected :: word, c :: rest =>
    if c = expected then readWord value word rest else stopAt .expectedWord (c :: rest)

/-- The value of a digit in base sixteen. -/
def hexValue? (c : Char) : Option Nat :=
  if '0' ≤ c ∧ c ≤ '9' then some (c.toNat - '0'.toNat)
  else if 'a' ≤ c ∧ c ≤ 'f' then some (c.toNat - 'a'.toNat + 10)
  else if 'A' ≤ c ∧ c ≤ 'F' then some (c.toNat - 'A'.toNat + 10)
  else none

/-- Reads four digits in base sixteen. -/
def readFour (text : List Char) : Except Stop (Nat × List Char) :=
  if (Text.encodeUtf8 (String.ofList (text.take 4))).length < 4 then stopHere .endInText []
  else match text with
    | a :: b :: c :: d :: rest =>
      match hexValue? a, hexValue? b, hexValue? c, hexValue? d with
      | some a, some b, some c, some d => .ok (((a * 16 + b) * 16 + c) * 16 + d, rest)
      | _, _, _, _ => .error ⟨.invalidEscape, text, 4⟩
    | _ => .error ⟨.invalidEscape, text, 4⟩

def expectChar (expected : Char) : List Char → Except Stop (List Char)
  | [] => stopHere .endInText []
  | c :: rest => if c = expected then .ok rest else stopAt .incompleteSurrogates (c :: rest)

/-- Reads what follows the letter of a numbered escape: one unit of 16 bits, or two that make one
character. -/
def readUnits (text : List Char) : Except Stop (Char × List Char) := do
  let (first, rest) ← readFour text
  if 0xdc00 ≤ first ∧ first ≤ 0xdfff then stopHere .loneSurrogate rest
  else if first < 0xd800 ∨ 0xdbff < first then return (Char.ofNat first, rest)
  else
    let rest ← expectChar '\\' rest
    let rest ← expectChar 'u' rest
    let (second, rest) ← readFour rest
    if second < 0xdc00 ∨ 0xdfff < second then stopHere .loneSurrogate rest
    else return (Char.ofNat ((first - 0xd800) * 1024 + (second - 0xdc00) + 0x10000), rest)

/-- Reads an escape after its backslash. -/
def readEscape : List Char → Except Stop (Char × List Char)
  | [] => stopHere .endInText []
  | c :: rest =>
    match c with
    | '"' => .ok ('"', rest)
    | '\\' => .ok ('\\', rest)
    | '/' => .ok ('/', rest)
    | 'b' => .ok ('\x08', rest)
    | 'f' => .ok ('\x0c', rest)
    | 'n' => .ok ('\n', rest)
    | 'r' => .ok ('\r', rest)
    | 't' => .ok ('\t', rest)
    | 'u' => readUnits rest
    | _ => stopAt .invalidEscape (c :: rest)

/-- Reads a text after its opening quote. Each round takes at least one character, so the length of
the text is fuel enough. -/
def readText : Nat → List Char → List Char → Except Stop (String × List Char)
  | 0, _, rest => stopHere .endInText rest
  | _, _, [] => stopHere .endInText []
  | fuel + 1, done, c :: rest =>
    if c = '"' then .ok (String.ofList done.reverse, rest)
    else if c = '\\' then do
      let (escaped, rest) ← readEscape rest
      readText fuel (escaped :: done) rest
    else if c.toNat < 32 then stopAt .controlCharacter (c :: rest)
    else readText fuel (c :: done) rest

/-- Scales by a power of ten, dividing in steps of at most 308 places. -/
def scaleByTen : Nat → Float → Int → Option Float
  | 0, x, _ => some x
  | fuel + 1, x, exponent =>
    if exponent.natAbs ≤ 308 then
      let power := Float.ofScientific 1 false exponent.natAbs
      if 0 ≤ exponent then
        let scaled := x * power
        if scaled == 1 / 0 then none else some scaled
      else some (x / power)
    else if x == 0 then some x
    else if 0 ≤ exponent then none
    else scaleByTen fuel (x / Float.ofScientific 1 false 308) (exponent + 308)

def finishReal (negative : Bool) (significand : Nat) (exponent : Int) (rest : List Char) :
    Except Stop (Json × List Char) :=
  match scaleByTen 5 (Float.ofNat significand) exponent with
  | none => stopHere .numberOutOfRange rest
  | some x => .ok (.real (if negative then -x else x), rest)

/-- Adds digits to a significand as long as it fits 64 bits: the significand, how many were added,
and the rest of the text. -/
def takeDigits (significand count : Nat) : List Char → Nat × Nat × List Char
  | [] => (significand, count, [])
  | c :: rest =>
    if c.isDigit then
      let next := significand * 10 + (c.toNat - '0'.toNat)
      if next < 18446744073709551616 then takeDigits next (count + 1) rest
      else (significand, count, c :: rest)
    else (significand, count, c :: rest)

/-- Reads the digits of an exponent after its first one; none once it exceeds 31 bits, with the rest
of the text behind the digit that made it so. -/
def exponentDigits (value : Nat) : List Char → Option Nat × List Char
  | [] => (some value, [])
  | c :: rest =>
    if c.isDigit then
      let next := value * 10 + (c.toNat - '0'.toNat)
      if next < 2147483648 then exponentDigits next rest else (none, rest)
    else (some value, c :: rest)

def readExponent (negative : Bool) (significand : Nat) (places : Int) (text : List Char) :
    Except Stop (Json × List Char) :=
  let (down, text) : Bool × List Char := match text with
    | '+' :: rest => (false, rest)
    | '-' :: rest => (true, rest)
    | _ => (false, text)
  match text with
  | [] => stopHere .endInValue []
  | c :: rest =>
    if !c.isDigit then stopAt .invalidNumber (c :: rest)
    else match exponentDigits (c.toNat - '0'.toNat) rest with
      | (some exponent, rest) =>
        finishReal negative significand (if down then places - exponent else places + exponent) rest
      | (none, rest) =>
        if significand ≠ 0 && !down then stopHere .numberOutOfRange rest
        else .ok (.real (if negative then -0.0 else 0.0), rest.dropWhile Char.isDigit)

/-- Reads an exponent if there is one, and otherwise ends the number. -/
def readScale (negative : Bool) (significand : Nat) (places : Int) (text : List Char) :
    Except Stop (Json × List Char) :=
  match text with
  | 'e' :: rest => readExponent negative significand places rest
  | 'E' :: rest => readExponent negative significand places rest
  | _ => finishReal negative significand places text

def readPlaces (negative : Bool) (significand : Nat) (exponent : Int) (text : List Char) :
    Except Stop (Json × List Char) :=
  let (digits, count, rest) := takeDigits significand 0 text
  match rest with
  | c :: _ =>
    if c.isDigit then readScale negative digits (exponent - count) (rest.dropWhile Char.isDigit)
    else if count = 0 then stopAt .invalidNumber rest
    else readScale negative digits (exponent - count) rest
  | [] =>
    if count = 0 then stopHere .endInValue [] else finishReal negative digits (exponent - count) []

/-- Ends an integer, or goes on with a point or an exponent. -/
def readIntegerEnd (negative : Bool) (significand : Nat) (text : List Char) :
    Except Stop (Json × List Char) :=
  match text with
  | '.' :: rest => readPlaces negative significand 0 rest
  | 'e' :: rest => readExponent negative significand 0 rest
  | 'E' :: rest => readExponent negative significand 0 rest
  | _ =>
    if !negative then .ok (.int significand, text)
    else if significand = 0 ∨ 9223372036854775808 < significand then
      .ok (.real (-(Float.ofNat significand)), text)
    else .ok (.int (-(significand : Int)), text)

/-- Goes on with a number whose digits exceed 64 bits; the further ones only count. -/
def readLong (negative : Bool) (significand : Nat) (text : List Char) :
    Except Stop (Json × List Char) :=
  let exponent := (text.takeWhile Char.isDigit).length
  match text.dropWhile Char.isDigit with
  | '.' :: rest => readPlaces negative significand exponent rest
  | rest => readScale negative significand exponent rest

def readNumber (negative : Bool) : List Char → Except Stop (Json × List Char)
  | [] => stopHere .endInValue []
  | '0' :: rest =>
    match rest with
    | c :: _ => if c.isDigit then stopAt .invalidNumber rest else readIntegerEnd negative 0 rest
    | [] => readIntegerEnd negative 0 rest
  | c :: rest =>
    if !c.isDigit then stopAt .invalidNumber (c :: rest)
    else
      let (significand, _, rest) := takeDigits 0 0 (c :: rest)
      match rest with
      | d :: _ =>
        if d.isDigit then readLong negative significand rest
        else readIntegerEnd negative significand rest
      | [] => readIntegerEnd negative significand []

/-- What comes before the next item of a list: nothing if the list ends, or the text of the item. -/
def nextItem (first : Bool) (text : List Char) : Except Stop (Option (List Char)) :=
  match skipGap text with
  | [] => stopAt .endInList []
  | ']' :: _ => .ok none
  | c :: rest =>
    if first then .ok (some (c :: rest))
    else if c ≠ ',' then stopAt .expectedCommaOrBracket (c :: rest)
    else match skipGap rest with
      | [] => stopAt .endInValue []
      | ']' :: rest => stopAt .trailingComma (']' :: rest)
      | rest => .ok (some rest)

/-- What comes before the next member of an object: nothing if the object ends, or the text behind
the quote of its key. -/
def nextMember (first : Bool) (text : List Char) : Except Stop (Option (List Char)) :=
  let key : List Char → Except Stop (Option (List Char))
    | [] => stopAt .endInValue []
    | '"' :: rest => .ok (some rest)
    | '}' :: rest => stopAt .trailingComma ('}' :: rest)
    | rest => stopAt .keyNotText rest
  match skipGap text with
  | [] => stopAt .endInObject []
  | '}' :: _ => .ok none
  | c :: rest =>
    if first then key (c :: rest)
    else if c ≠ ',' then stopAt .expectedCommaOrBrace (c :: rest)
    else key (skipGap rest)

/-- The text behind the colon of a member. -/
def afterColon (text : List Char) : Except Stop (List Char) :=
  match skipGap text with
  | [] => stopAt .endInObject []
  | ':' :: rest => .ok rest
  | rest => stopAt .expectedColon rest

mutual

/-- Reads a value, with so many levels of nesting to spare. Every round takes a character, so the
length of the text bounds the fuel. -/
def readValue : Nat → Nat → List Char → Except Stop (Json × List Char)
  | 0, _, rest => stopHere .endInValue rest
  | fuel + 1, levels, source =>
    match skipGap source with
    | [] => stopAt .endInValue []
    | 'n' :: rest => readWord .null ['u', 'l', 'l'] rest
    | 't' :: rest => readWord (.bool true) ['r', 'u', 'e'] rest
    | 'f' :: rest => readWord (.bool false) ['a', 'l', 's', 'e'] rest
    | '-' :: rest => readNumber true rest
    | '"' :: rest => do
      let (s, rest) ← readText (rest.length + 1) [] rest
      return (.text s, rest)
    | '[' :: rest =>
      if levels ≤ 1 then stopAt .tooDeep ('[' :: rest)
      else do
        let (items, rest) ← readItems fuel (levels - 1) true rest
        return (.array items, rest)
    | '{' :: rest =>
      if levels ≤ 1 then stopAt .tooDeep ('{' :: rest)
      else do
        let (members, rest) ← readMembers fuel (levels - 1) true [] rest
        return (.object members, rest)
    | c :: rest =>
      if c.isDigit then readNumber false (c :: rest) else stopAt .expectedValue (c :: rest)

def readItems : Nat → Nat → Bool → List Char → Except Stop (List Json × List Char)
  | 0, _, _, rest => stopHere .endInList rest
  | fuel + 1, levels, first, source => do
    match ← nextItem first source with
    | none => return ([], (skipGap source).drop 1)
    | some body =>
      let (item, rest) ← readValue fuel levels body
      let (items, rest) ← readItems fuel levels false rest
      return (item :: items, rest)

def readMembers : Nat → Nat → Bool → List (String × Json) → List Char →
    Except Stop (List (String × Json) × List Char)
  | 0, _, _, _, rest => stopHere .endInObject rest
  | fuel + 1, levels, first, done, source => do
    match ← nextMember first source with
    | none => return (done, (skipGap source).drop 1)
    | some body =>
      let (key, rest) ← readText (body.length + 1) [] body
      let rest ← afterColon rest
      let (value, rest) ← readValue fuel levels rest
      readMembers fuel levels false (insertMember key value done) rest

end

def readDocument (text : List Char) : Except Stop Json := do
  let (value, rest) ← readValue (2 * text.length + 2) 128 text
  match skipGap rest with
  | [] => return value
  | rest => stopAt .trailingCharacters rest

/-- Why a text is no document, and the place: a line, and a column in bytes. -/
structure ReadError where
  fault : Fault
  line : Nat
  column : Nat
  deriving DecidableEq, Repr

def ReadError.message (e : ReadError) : String :=
  e.fault.message ++ " at line " ++ toString e.line ++ " column " ++ toString e.column

/-- The place so many bytes into a text. -/
def Stop.locate (stop : Stop) (text : String) : ReadError :=
  let bytes := Text.encodeUtf8 text
  let remaining := (Text.encodeUtf8 (String.ofList stop.rest)).length
  let before := bytes.take (bytes.length - remaining + stop.bytes)
  ⟨stop.fault, before.count 10 + 1, (before.reverse.takeWhile (· ≠ 10)).length⟩

def read (text : String) : Except ReadError Json :=
  match readDocument text.toList with
  | .ok value => .ok value
  | .error stop => .error (stop.locate text)

end RowMapper.Json
