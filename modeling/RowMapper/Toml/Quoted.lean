import RowMapper.Json.Reader
import RowMapper.Toml.Basic
/-!
Quoted texts, in double quotes with escapes or in single quotes as they stand, on one line or, in
triple quotes, on many. A line end directly behind triple quotes does not count, nor do a backslash
at the end of a line and the blanks and line ends behind it.
-/

set_option autoImplicit false

namespace RowMapper.Toml

/-- What a backslash with a letter stands for. -/
def escapedChar? : Char → Option Char
  | 'b' => some '\x08'
  | 't' => some '\t'
  | 'n' => some '\n'
  | 'f' => some '\x0c'
  | 'r' => some '\r'
  | '"' => some '"'
  | '\\' => some '\\'
  | _ => none

/-- The character whose number hexadecimal digits write. -/
def numberedChar? (digits : List Char) : Option Char := do
  let values ← digits.mapM Json.hexValue?
  let n := values.foldl (fun n digit => n * 16 + digit) 0
  if n.isValidChar then some (Char.ofNat n) else none

/-- Reads the rest of an escape, behind the backslash. -/
def escape : Reader Char
  | 'u' :: a :: b :: c :: d :: rest => (numberedChar? [a, b, c, d]).map (·, rest)
  | 'U' :: a :: b :: c :: d :: e :: f :: g :: h :: rest =>
    (numberedChar? [a, b, c, d, e, f, g, h]).map (·, rest)
  | c :: rest => (escapedChar? c).map (·, rest)
  | [] => none

/-- Reads up to the double quote that ends a line's text, at most so many characters. -/
def basicUpTo : Nat → Reader (List Char)
  | 0, _ => none
  | _, [] => none
  | _, '"' :: rest => some ([], rest)
  | bound + 1, '\\' :: rest => do
    let (c, rest) ← escape rest
    let (cs, rest) ← basicUpTo bound rest
    return (c :: cs, rest)
  | bound + 1, c :: rest =>
    if isVisible c then do
      let (cs, rest) ← basicUpTo bound rest
      return (c :: cs, rest)
    else none

/-- Reads up to the single quote that ends a line's text. -/
def literal : Reader (List Char)
  | [] => none
  | '\'' :: rest => some ([], rest)
  | c :: rest =>
    if isVisible c then do
      let (cs, rest) ← literal rest
      return (c :: cs, rest)
    else none

/-- Takes off three quotes or more: the third from the end closes the text, and up to two before it
belong to the text. -/
def closing? (quote : Char) (text : List Char) : Option (List Char × List Char) :=
  let quotes := text.takeWhile (· == quote)
  if quotes.length < 3 then none
  else
    let inside := min (quotes.length - 3) 2
    some (quotes.take inside, text.drop (inside + 3))

/-- The text after blanks and the end of the line, and all blanks and line ends behind it, if the
line ends here. -/
def skipLineEnd? (text : List Char) : Option (List Char) :=
  (newline? (skipBlanks text)).map fun rest =>
    rest.dropWhile fun c => isBlank c || c == '\n' || c == '\r'

/-- Reads up to the triple quotes that end a text, with or without escapes, at most so many
characters. -/
def linesUpTo (quote : Char) (escapes : Bool) : Nat → Reader (List Char)
  | 0, _ => none
  | bound + 1, text =>
    match closing? quote text with
    | some done => some done
    | none =>
      match text with
      | [] => none
      | '\r' :: '\n' :: rest => do
        let (cs, rest) ← linesUpTo quote escapes bound rest
        return ('\r' :: '\n' :: cs, rest)
      | c :: rest =>
        if escapes && c == '\\' then
          match skipLineEnd? rest with
          | some rest => linesUpTo quote escapes bound rest
          | none => do
            let (c, rest) ← escape rest
            let (cs, rest) ← linesUpTo quote escapes bound rest
            return (c :: cs, rest)
        else if isVisible c || c == '\n' then do
          let (cs, rest) ← linesUpTo quote escapes bound rest
          return (c :: cs, rest)
        else none

/-- Reads the rest of a text in triple quotes. -/
def lines (quote : Char) (escapes : Bool) (text : List Char) : Option (List Char × List Char) :=
  let text := (newline? text).getD text
  linesUpTo quote escapes (text.length + 1) text

/-- Reads a text in quotes on one line. -/
def lineText : Reader String
  | '"' :: rest => (basicUpTo (rest.length + 1) rest).map fun (cs, rest) => (String.ofList cs, rest)
  | '\'' :: rest => (literal rest).map fun (cs, rest) => (String.ofList cs, rest)
  | _ => none

def quotedText : Reader String
  | '"' :: '"' :: '"' :: rest =>
      (lines '"' true rest).map fun (cs, rest) => (String.ofList cs, rest)
  | '\'' :: '\'' :: '\'' :: rest =>
    (lines '\'' false rest).map fun (cs, rest) => (String.ofList cs, rest)
  | text => lineText text

end RowMapper.Toml
