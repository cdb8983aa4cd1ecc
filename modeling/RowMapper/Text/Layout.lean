import RowMapper.Text.Escaped
/-!
The layout of diagnostics. A text stands in double quotes, with backslash escapes for the quote, the
backslash and four controls, and with the code point in braces for every character without a form of
its own. Any other value is shown by the name of its form followed by its parts, named parts in
braces and unnamed ones in parentheses; lists stand in brackets.
-/

set_option autoImplicit false

namespace RowMapper.Text

/-- The digits of a number in base sixteen, in small letters and without leading zeros. -/
def hexadecimal (n : Nat) : String := String.ofList (Nat.toDigits 16 n)

def quotedChar (c : Char) : String :=
  match c with
  | '\x00' => "\\0"
  | '\t' => "\\t"
  | '\r' => "\\r"
  | '\n' => "\\n"
  | '"' => "\\\""
  | '\\' => "\\\\"
  | _ => if isEscaped c then "\\u\x7b" ++ hexadecimal c.toNat ++ "\x7d" else c.toString

/-- The text between quotes, with its escapes. -/
def quoted (text : String) : String :=
  "\"" ++ String.join (text.toList.map quotedChar) ++ "\""

/-- A form with named parts. -/
def record (form : String) (fields : List (String × String)) : String :=
  form ++ " \x7b " ++ String.intercalate ", " (fields.map fun (name, text) => name ++ ": " ++ text)
    ++ " \x7d"

/-- A form with unnamed parts. -/
def applied (form : String) (parts : List String) : String :=
  form ++ "(" ++ String.intercalate ", " parts ++ ")"

def listed (parts : List String) : String := "[" ++ String.intercalate ", " parts ++ "]"

def optional : Option String → String
  | none => "None"
  | some text => applied "Some" [text]

def truth (b : Bool) : String := if b then "true" else "false"

/-- A number with zeros in front up to the given width. -/
def padded (width : Nat) (n : Nat) : String :=
  let digits := toString n
  String.ofList (List.replicate (width - digits.length) '0') ++ digits

end RowMapper.Text
