/-!
Documents of settings: their values, and what the readers of their parts share. A reader takes a
part off the front of a text and yields the rest.
-/

set_option autoImplicit false

namespace RowMapper

/-- A value of a document. Dates and times are kept as their normal text. -/
inductive Toml where
  | string (s : String)
  | integer (n : Int)
  | float (x : Float)
  | bool (b : Bool)
  | dateTime (text : String)
  | array (items : List Toml)
  | table (entries : List (String × Toml))

namespace Toml

/-- A reader of a part of a text. -/
abbrev Reader (α : Type) := List Char → Option (α × List Char)

/-- A blank within a line. -/
def isBlank (c : Char) : Bool := c == ' ' || c == '\t'

def skipBlanks (text : List Char) : List Char := text.dropWhile isBlank

/-- The text after the end of a line, if the line ends here. -/
def newline? : List Char → Option (List Char)
  | '\n' :: rest => some rest
  | '\r' :: '\n' :: rest => some rest
  | _ => none

/-- A character that may stand in comments and quoted texts: no control character but the tab. -/
def isVisible (c : Char) : Bool := c == '\t' || (' ' ≤ c && c ≠ '\x7f')

def skipComment : List Char → List Char
  | '#' :: rest => rest.dropWhile isVisible
  | text => text

/-- The text after the end of a line, which may hold blanks and a comment before it ends. -/
def lineEnd? (text : List Char) : Option (List Char) :=
  match skipComment (skipBlanks text) with
  | [] => some []
  | rest => newline? rest

/-- The text after blanks, comments and ends of lines, at most so many. -/
def skipGapUpTo : Nat → List Char → List Char
  | 0, text => text
  | bound + 1, text =>
    let rest := skipComment (skipBlanks text)
    match newline? rest with
    | some rest => skipGapUpTo bound rest
    | none => rest

def skipGap (text : List Char) : List Char := skipGapUpTo text.length text

end Toml

end RowMapper
