import RowMapper.Number.FloatText
import RowMapper.Text.Layout
/-!
Documents: null, truth values, numbers, texts, arrays, and objects whose members are sorted by key
and have distinct keys. A number is an integer of at most 64 bits or a floating point number, and
the two are never equal. Documents are written without blanks.
-/

set_option autoImplicit false

namespace RowMapper

inductive Json where
  | null
  | bool (b : Bool)
  | int (n : Int)
  | real (x : Float)
  | text (s : String)
  | array (items : List Json)
  | object (members : List (String × Json))

namespace Json

/-- Puts a member where its key belongs; an older member with that key gives way. -/
def insertMember (key : String) (value : Json) : List (String × Json) → List (String × Json)
  | [] => [(key, value)]
  | (other, old) :: rest =>
    if key = other then (key, value) :: rest
    else if key < other then (key, value) :: (other, old) :: rest
    else (other, old) :: insertMember key value rest

mutual

/-- The two documents are equal. A number that is no number differs from itself. -/
def same : Json → Json → Bool
  | .null, .null => true
  | .bool a, .bool b => a == b
  | .int a, .int b => a == b
  | .real a, .real b => a == b
  | .text a, .text b => a == b
  | .array a, .array b => sameItems a b
  | .object a, .object b => sameMembers a b
  | _, _ => false

def sameItems : List Json → List Json → Bool
  | [], [] => true
  | a :: as, b :: bs => same a b && sameItems as bs
  | _, _ => false

def sameMembers : List (String × Json) → List (String × Json) → Bool
  | [], [] => true
  | (j, a) :: as, (k, b) :: bs => j == k && same a b && sameMembers as bs
  | _, _ => false

end

/-- One character inside a written text. -/
def textChar (c : Char) : List Char :=
  match c with
  | '"' => ['\\', '"']
  | '\\' => ['\\', '\\']
  | '\x08' => ['\\', 'b']
  | '\x0c' => ['\\', 'f']
  | '\n' => ['\\', 'n']
  | '\r' => ['\\', 'r']
  | '\t' => ['\\', 't']
  | _ =>
    if c.toNat < 32 then
      '\\' :: 'u' :: '0' :: '0' :: Nat.digitChar (c.toNat / 16) :: [Nat.digitChar (c.toNat % 16)]
    else [c]

/-- A text between quotes, with its escapes. -/
def textChars (s : String) : List Char := '"' :: s.toList.flatMap textChar ++ ['"']

/-- A floating point number; what is not finite has no written form but null. -/
def realChars (x : Float) : List Char :=
  match Number.Binary64.ofFloat x with
  | .finite .. => (Number.floatText Number.documentLayout x).toList
  | _ => ['n', 'u', 'l', 'l']

def intChars (n : Int) : List Char :=
  if n < 0 then '-' :: Number.decimalDigits n.natAbs else Number.decimalDigits n.natAbs

mutual

def toChars : Json → List Char
  | .null => ['n', 'u', 'l', 'l']
  | .bool true => ['t', 'r', 'u', 'e']
  | .bool false => ['f', 'a', 'l', 's', 'e']
  | .int n => intChars n
  | .real x => realChars x
  | .text s => textChars s
  | .array items => '[' :: itemChars items ++ [']']
  | .object members => '{' :: memberChars members ++ ['}']

def itemChars : List Json → List Char
  | [] => []
  | [item] => toChars item
  | item :: rest => toChars item ++ ',' :: itemChars rest

def memberChars : List (String × Json) → List Char
  | [] => []
  | [(key, value)] => textChars key ++ ':' :: toChars value
  | (key, value) :: rest => textChars key ++ ':' :: toChars value ++ ',' :: memberChars rest

end

def write (j : Json) : String := String.ofList j.toChars

mutual

def diagnostic : Json → String
  | .null => "Null"
  | .bool b => Text.applied "Bool" [Text.truth b]
  | .int n => Text.applied "Number" [toString n]
  | .real x => Text.applied "Number" [String.ofList (realChars x)]
  | .text s => Text.applied "String" [Text.quoted s]
  | .array items => "Array " ++ Text.listed (itemDiagnostics items)
  | .object members =>
    "Object \x7b" ++ String.intercalate ", " (memberDiagnostics members) ++ "\x7d"

def itemDiagnostics : List Json → List String
  | [] => []
  | item :: rest => diagnostic item :: itemDiagnostics rest

def memberDiagnostics : List (String × Json) → List String
  | [] => []
  | (key, value) :: rest => (Text.quoted key ++ ": " ++ diagnostic value) :: memberDiagnostics rest

end

end Json

end RowMapper
