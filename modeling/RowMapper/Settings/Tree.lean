import RowMapper.Dict
import RowMapper.Number.FloatText
import RowMapper.Number.Literal
import RowMapper.Text.Layout
import RowMapper.Toml.Basic
/-!
Settings from several sources as one tree. A source names a place by a path of keys and positions.
What it puts there takes the place of what was there, but of two tables the entries are merged.
-/

set_option autoImplicit false

namespace RowMapper

/-- A tree of settings. Every value that is no list and no table is its text. -/
inductive SettingTree where
  | absent
  | text (s : String)
  | items (trees : List SettingTree)
  | table (entries : List (String × SettingTree))

/-- A step of a path: to the entry of a key, or to the item at a position, counted from the end if
it is negative. -/
inductive PathStep where
  | key (name : String)
  | position (index : Int)
  deriving DecidableEq, Repr

namespace SettingTree

mutual

def ofToml : Toml → SettingTree
  | .string s => .text s
  | .integer n => .text (toString n)
  | .float x => .text (Number.floatText Number.plainLayout x)
  | .bool b => .text (Text.truth b)
  | .dateTime s => .text s
  | .array values => .items (ofTomlItems values)
  | .table entries => .table (ofTomlEntries entries)

def ofTomlItems : List Toml → List SettingTree
  | [] => []
  | v :: rest => ofToml v :: ofTomlItems rest

def ofTomlEntries : List (String × Toml) → List (String × SettingTree)
  | [] => []
  | (key, v) :: rest => (key, ofToml v) :: ofTomlEntries rest

end

def entries : SettingTree → List (String × SettingTree)
  | .table entries => entries
  | _ => []

def listed : SettingTree → List SettingTree
  | .items trees => trees
  | _ => []

mutual

/-- Puts a tree over another. -/
def laidOver (below : SettingTree) : SettingTree → SettingTree
  | .table entries => .table (entriesOver below.entries entries)
  | tree => tree

/-- Puts entries over others. -/
def entriesOver (below : List (String × SettingTree)) :
    List (String × SettingTree) → List (String × SettingTree)
  | [] => below
  | (key, tree) :: rest =>
    entriesOver (Dict.put below key (laidOver ((Dict.lookup below key).getD .absent) tree)) rest

end

/-- Changes the item at a position. Items that are missing on the way are absent ones; a position
before the first makes a new first. -/
def adjustItem (f : SettingTree → SettingTree) (index : Int) (trees : List SettingTree) :
    List SettingTree :=
  let place := if index < 0 then trees.length + index else index
  if place < 0 then f .absent :: trees
  else
    let n := place.toNat
    let padded := trees ++ List.replicate (n + 1 - trees.length) .absent
    padded.modify n f

/-- Changes what is at the end of a path. Lists and tables are made on the way where others
stand. -/
def adjustAt (f : SettingTree → SettingTree) : List PathStep → SettingTree → SettingTree
  | [], tree => f tree
  | .key name :: path, tree =>
    let here := (Dict.lookup tree.entries name).getD .absent
    .table (Dict.put tree.entries name (adjustAt f path here))
  | .position index :: path, tree => .items (adjustItem (adjustAt f path) index tree.listed)

end SettingTree

namespace PathStep

/-- A character of a key in a path. -/
def isKeyChar (c : Char) : Bool := c.isAlphanum || c == '_' || c == '-'

/-- Reads a position, around which blanks do not count. -/
def readPosition (input : List Char) : Option Int :=
  let blank (c : Char) : Bool := c == ' ' || c == '\t'
  let digits := ((input.dropWhile blank).reverse.dropWhile blank).reverse
  match digits with
  | '+' :: _ => none
  | _ => Number.readInt64 digits

/-- Reads the steps of a path behind its first key, at most so many. -/
def readSteps : Nat → List Char → Option (List PathStep)
  | 0, _ => none
  | _, [] => some []
  | bound + 1, '.' :: rest =>
    let name := rest.takeWhile isKeyChar
    if name.isEmpty then none
    else (readSteps bound (rest.dropWhile isKeyChar)).map (.key (String.ofList name) :: ·)
  | bound + 1, '[' :: rest => do
    let index ← readPosition (rest.takeWhile (· ≠ ']'))
    match rest.dropWhile (· ≠ ']') with
    | ']' :: rest => (readSteps bound rest).map (.position index :: ·)
    | _ => none
  | _, _ => none

/-- The path that a key writes: keys with points between and positions in brackets. Any other key
stands for itself. -/
def ofKey (written : String) : List PathStep :=
  let input := written.toList
  let first := input.takeWhile isKeyChar
  let steps :=
    if first.isEmpty then none else readSteps (input.length + 1) (input.dropWhile isKeyChar)
  match steps with
  | some steps => .key (String.ofList first) :: steps
  | none => [.key written]

end PathStep

/-- Puts the entries of a source over a tree, each at the path that its key writes. -/
def SettingTree.layer (tree : SettingTree) (source : List (String × SettingTree)) : SettingTree :=
  source.foldl (fun tree (key, setting) => tree.adjustAt (·.laidOver setting)
    (PathStep.ofKey key)) tree

end RowMapper
