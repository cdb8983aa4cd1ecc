import RowMapper.Toml.Quoted
import RowMapper.Toml.Scalar
import RowMapper.Toml.Table
/-!
The reader of documents: lines with entries, under headers that name tables. What is no document is
refused without a reason. Values nest at most eighty deep.
-/

set_option autoImplicit false

namespace RowMapper.Toml

/-- A character of a key without quotes. -/
def isKeyChar (c : Char) : Bool := c.isAlphanum || c == '_' || c == '-'

def keyPart (input : List Char) : Option (String × List Char) :=
  match input with
  | '"' :: _ | '\'' :: _ => lineText input
  | _ =>
    let word := input.takeWhile isKeyChar
    if word.isEmpty then none else some (String.ofList word, input.dropWhile isKeyChar)

/-- Reads a key of at most so many parts with points between. -/
def keyUpTo : Nat → Reader (List String)
  | 0, _ => none
  | bound + 1, input => do
    let (part, rest) ← keyPart input
    match skipBlanks rest with
    | '.' :: rest =>
      let (parts, rest) ← keyUpTo bound (skipBlanks rest)
      return (part :: parts, rest)
    | rest => return ([part], rest)

/-- Reads a key. Blanks around it and around its points do not count. -/
def key (input : List Char) : Option (List String × List Char) :=
  keyUpTo (input.length + 1) (skipBlanks input)

/-- Reads a key, the sign of equality and a value. -/
def entry (value : Reader Toml) (input : List Char) :
    Option ((List String × Toml) × List Char) := do
  let (path, rest) ← key input
  match rest with
  | '=' :: rest =>
    let (v, rest) ← value (skipBlanks rest)
    return ((path, v), rest)
  | _ => none

/-- Reads the items of an array up to its end, at most so many. A comma may stand behind the
last. -/
def arrayUpTo (value : Reader Toml) : Nat → Reader (List Toml)
  | 0, _ => none
  | bound + 1, input =>
    match skipGap input with
    | ']' :: rest => some ([], rest)
    | input => do
      let (v, rest) ← value input
      match skipGap rest with
      | ']' :: rest => return ([v], rest)
      | ',' :: rest =>
        let (vs, rest) ← arrayUpTo value bound rest
        return (v :: vs, rest)
      | _ => none

/-- Reads the entries of a table in braces up to its end, at most so many. -/
def inlineUpTo (value : Reader Toml) : Nat → Entries → Reader Entries
  | 0, _, _ => none
  | bound + 1, entries, input => do
    let ((path, v), rest) ← entry value input
    let entries ← addEntry entries path v
    match skipBlanks rest with
    | '}' :: rest => return (entries, rest)
    | ',' :: rest => inlineUpTo value bound entries rest
    | _ => none

/-- Reads a value that nests at most so deep. -/
def valueUpTo : Nat → Reader Toml
  | 0, _ => none
  | depth + 1, input =>
    match input with
    | '[' :: rest =>
      (arrayUpTo (valueUpTo depth) (rest.length + 1) rest).map fun (items, rest) =>
        (.array items, rest)
    | '{' :: rest =>
      match skipBlanks rest with
      | '}' :: rest => some (.table [], rest)
      | rest =>
        (inlineUpTo (valueUpTo depth) (rest.length + 1) [] rest).map fun (entries, rest) =>
          (.table (closeEntries entries), rest)
    | '"' :: _ | '\'' :: _ => (quotedText input).map fun (s, rest) => (.string s, rest)
    | _ => scalar input

def value : Reader Toml := valueUpTo 81

/-- Reads the rest of a header up to its brackets and to the end of its line. -/
def headerEnd (brackets : List Char) (input : List Char) : Option (List String × List Char) := do
  let (path, rest) ← key input
  if brackets.isPrefixOf rest then
    let rest ← lineEnd? (rest.drop brackets.length)
    return (path, rest)
  else none

/-- Reads lines into the entries so far, where a header has named the table at a path; at most so
many lines. -/
def readLines : Nat → Entries → List String → List Char → Option Entries
  | 0, _, _, _ => none
  | bound + 1, entries, here, input =>
    match skipGap input with
    | [] => some entries
    | '[' :: '[' :: rest => do
      let (path, rest) ← headerEnd [']', ']'] rest
      let entries ← declareListed entries path
      readLines bound entries path rest
    | '[' :: rest => do
      let (path, rest) ← headerEnd [']'] rest
      let entries ← declareTable entries path
      readLines bound entries path rest
    | input => do
      let ((path, v), rest) ← entry value input
      let entries ← within false (fun _ entries => addEntry entries path v) .declared here entries
      let rest ← lineEnd? rest
      readLines bound entries here rest

/-- Reads a document. A mark of the byte order in front does not count. -/
def read (document : String) : Option (List (String × Toml)) :=
  let input := document.toList.dropWhile (· == '\ufeff')
  (readLines (input.length + 1) [] [] input).map closeEntries

end RowMapper.Toml
