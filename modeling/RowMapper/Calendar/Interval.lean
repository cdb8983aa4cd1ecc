import RowMapper.Calendar.Clock
import RowMapper.Calendar.Duration
import RowMapper.Number.FloatText
import RowMapper.Text.Classes
/-!
Intervals as databases write them: amounts with units, and clocks with an optional number of days in
front. A text is first cut into tokens (clocks, numbers and words); characters that start no token
separate them. A number waits for the token after it: a unit scales it, a clock makes it days, and
at the end it counts seconds.
-/

set_option autoImplicit false

namespace RowMapper.Calendar.Interval

open Text (isBlank isDecimalDigit)

/-- A token and the text after it. -/
abbrev Lexed := Option (List Char × List Char)

/-- The sign at the start of a text, if any, and the text after it. -/
def sign : List Char → List Char × List Char
  | '-' :: rest => (['-'], rest)
  | '+' :: rest => (['+'], rest)
  | text => ([], text)

/-- One digit or two. -/
def digitPair : List Char → Lexed
  | a :: b :: rest =>
    if !isDecimalDigit a then none
    else if isDecimalDigit b then some ([a, b], rest) else some ([a], b :: rest)
  | [a] => if isDecimalDigit a then some ([a], []) else none
  | [] => none

/-- A colon and one digit or two. -/
def colonPair : List Char → Lexed
  | ':' :: rest => (digitPair rest).map fun (digits, rest) => (':' :: digits, rest)
  | _ => none

/-- Digits, at least one. -/
def digitRun (text : List Char) : Lexed :=
  match text.span isDecimalDigit with
  | ([], _) => none
  | found => some found

/-- A point and digits. -/
def fraction : List Char → Lexed
  | '.' :: rest => (digitRun rest).map fun (digits, rest) => ('.' :: digits, rest)
  | _ => none

/-- The part, or nothing of the text. -/
def orEmpty (part : List Char → Lexed) (text : List Char) : List Char × List Char :=
  (part text).getD ([], text)

/-- A clock: hours and minutes, perhaps seconds, perhaps a fraction, perhaps a sign. -/
def clockToken (text : List Char) : Lexed := do
  let (sign, rest) := sign text
  let (hour, rest) ← digitPair rest
  let (minute, rest) ← colonPair rest
  let (second, rest) := orEmpty colonPair rest
  let (places, rest) := orEmpty fraction rest
  return (sign ++ hour ++ minute ++ second ++ places, rest)

/-- A number: digits, perhaps a fraction, perhaps a sign. -/
def numberToken (text : List Char) : Lexed := do
  let (sign, rest) := sign text
  let (whole, rest) ← digitRun rest
  let (places, rest) := orEmpty fraction rest
  return (sign ++ whole ++ places, rest)

/-- The character may stand inside a word. -/
def inWord (c : Char) : Bool := !isBlank c && c ≠ ',' && !isDecimalDigit c

/-- A word: it does not start with a sign. -/
def wordToken : List Char → Lexed
  | [] => none
  | c :: rest =>
    if inWord c && c ≠ '+' && c ≠ '-' then
      let (more, rest) := rest.span inWord
      some (c :: more, rest)
    else none

/-- The token at the start of a text. -/
def firstToken (text : List Char) : Lexed :=
  clockToken text <|> numberToken text <|> wordToken text

/-- The tokens of a text. A character that starts no token is passed over. -/
def tokens : List Char → List (List Char)
  | [] => []
  | c :: text =>
    match firstToken (c :: text) with
    | some (token, rest) =>
      if rest.length < text.length + 1 then token :: tokens rest else tokens text
    | none => tokens text
termination_by text => text.length

/-- An amount: a sign and a magnitude. -/
structure Amount where
  negative : Bool
  magnitude : Float

/-- Reads an amount; the words for infinity and for what is no number are amounts. -/
def readAmount (token : List Char) : Option Amount :=
  let (negative, rest) := Number.splitSign token
  (Number.readMagnitude rest).map (⟨negative, ·⟩)

/-- The integer nearest to a magnitude, a half going up; infinity gives the bound of 64 bits. -/
def nearestNat (x : Float) : Nat :=
  match Number.Binary64.ofFloat x with
  | .infinite _ => 9223372036854775808
  | .notANumber => 0
  | number => ((number.toInt? .halfAway).getD 0).natAbs

/-- The length of an amount of units, each of so many microseconds, to the nearest microsecond and
within 64 bits. -/
def Amount.toDuration (amount : Amount) (unit : Float) : Duration :=
  let size : Int := nearestNat (amount.magnitude * unit)
  .micros (Number.clampInt64 (if amount.negative then -size else size))

def day : Float := 86400000000

def second : Float := 1000000

/-- The microseconds of a unit. -/
def unit? (word : String) : Option Float :=
  if word ∈ ["d", "day", "days"] then some day
  else if word ∈ ["h", "hour", "hours"] then some 3600000000
  else if word ∈ ["m", "min", "minute", "minutes"] then some 60000000
  else if word ∈ ["s", "sec", "second", "seconds"] then some second
  else if word ∈ ["ms", "millisecond", "milliseconds"] then some 1000
  else if word ∈ ["microsecond", "microseconds"] then some 1
  else none

inductive Fault where
  /-- A token with a colon is no clock. -/
  | notAClock (token : List Char)
  /-- A number was expected. -/
  | notANumber (token : List Char)
  /-- A unit was expected. -/
  | unknownUnit (token : List Char)
  /-- The sum exceeds the longest length of time. -/
  | overflow
  deriving DecidableEq, Repr

/-- What has been read: the sum so far and the number that waits for the token after it. -/
structure Progress where
  sum : Duration
  waiting : Option Amount

def sumUp (sum : Duration) : List Duration → Except Fault Duration
  | [] => .ok sum
  | d :: rest => match sum.add? d with
    | none => .error .overflow
    | some sum => sumUp sum rest

/-- The lengths that a clock adds. -/
def clockLengths (n : ClockNumbers) : List Duration :=
  [.seconds (n.hour * 3600), .seconds (n.minute * 60), .seconds n.second, .micros n.micro]

def step (p : Progress) (token : List Char) : Except Fault Progress :=
  if ':' ∈ token then do
    let days := (p.waiting.map fun amount => amount.toDuration day).toList
    let sum ← sumUp p.sum days
    match Clock.readNumbers token with
    | none => .error (.notAClock token)
    | some numbers => return ⟨← sumUp sum (clockLengths numbers), none⟩
  else match p.waiting with
    | none => match readAmount token with
      | none => .error (.notANumber token)
      | some amount => .ok ⟨p.sum, some amount⟩
    | some amount => match unit? (String.ofList token) with
      | none => .error (.unknownUnit token)
      | some unit => return ⟨← sumUp p.sum [amount.toDuration unit], none⟩

def run (p : Progress) : List (List Char) → Except Fault Progress
  | [] => .ok p
  | token :: rest => do run (← step p token) rest

/-- A number that still waits counts seconds. -/
def Progress.finish (p : Progress) : Except Fault Duration :=
  sumUp p.sum (p.waiting.map fun amount => amount.toDuration second).toList

def parse (text : List Char) : Except Fault Duration := do
  (← run ⟨.zero, none⟩ (tokens text)).finish

end RowMapper.Calendar.Interval
