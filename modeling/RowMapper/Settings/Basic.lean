import RowMapper.Compiler.Pass
import RowMapper.Error
import RowMapper.Settings.Tree
import RowMapper.Text.LowerCase
import RowMapper.Toml.Reader
/-!
The settings of a program. They are read from a document and from the environment, whose variables
win.
-/

set_option autoImplicit false

namespace RowMapper

/-- Settings for compiling: what stands between the elements of a sequence, and the words that a
dialect reserves and does not reserve. -/
structure CompileSettings where
  join : String := ", "
  reserved : List String := []
  unreserved : List String := []
  deriving DecidableEq, Repr

structure Settings where
  logFilter : String := "info"
  compile : CompileSettings := {}
  deriving DecidableEq, Repr

namespace Settings

def textOf : SettingTree → Option String
  | .text s => some s
  | _ => none

def textsOf : SettingTree → Option (List String)
  | .items trees => trees.mapM textOf
  | _ => none

/-- What a setting says, or the default if it is not there. -/
def orDefault {α : Type} (read : SettingTree → Option α) (default : α) :
    Option SettingTree → Option α
  | none => some default
  | some tree => read tree

/-- The settings for compiling, given what says each. -/
def compileOf (join reserved unreserved : Option SettingTree) : Option CompileSettings := do
  let fallback : CompileSettings := {}
  let join ← orDefault textOf fallback.join join
  let reserved ← orDefault textsOf fallback.reserved reserved
  let unreserved ← orDefault textsOf fallback.unreserved unreserved
  return { join, reserved, unreserved }

def readCompile : SettingTree → Option CompileSettings
  | .table entries =>
    compileOf (Dict.lookup entries "join") (Dict.lookup entries "reserved_words")
      (Dict.lookup entries "unreserved_words")
  | .items trees => compileOf trees[0]? trees[1]? trees[2]?
  | _ => none

/-- The settings in a tree. Entries of other names do not count. -/
def ofTree (tree : SettingTree) : Option Settings := do
  let fallback : Settings := {}
  let logFilter ← orDefault textOf fallback.logFilter (Dict.lookup tree.entries "log_filter")
  let compile ← orDefault readCompile fallback.compile (Dict.lookup tree.entries "compile")
  return { logFilter, compile }

/-- What stands in front of the names of variables that are settings, in whatever case. -/
def variableMark : List Char := ['s', 'q', 'u', 'a', 'l', 'l', '_']

/-- Every two underscores in a row become a point. -/
def pointed : List Char → List Char
  | '_' :: '_' :: rest => '.' :: pointed rest
  | c :: rest => c :: pointed rest
  | [] => []

/-- The key that the name of an environment variable stands for. -/
def variableKey? (name : String) : Option String :=
  let lower := (Text.toLowerCase name).toList
  if variableMark.isPrefixOf lower then
    some (String.ofList (pointed (lower.drop variableMark.length)))
  else none

/-- The settings in an environment; of two variables for one key the later counts. -/
def ofEnvironment (environment : List (String × String)) : List (String × SettingTree) :=
  (environment.foldl (fun (d : Dict String SettingTree) (name, value) =>
    match variableKey? name with
    | some key => d.insert key (.text value)
    | none => d) .empty).entries

/-- Reads the settings from a document, if there is one, and from the environment. -/
def load (document : Option String) (environment : List (String × String)) :
    Except Error Settings :=
  let entries := match document with
    | none => some []
    | some document => (Toml.read document).map SettingTree.ofTomlEntries
  let settings := entries.bind fun entries =>
    ofTree (((SettingTree.table []).layer entries).layer (ofEnvironment environment))
  match settings with
  | some settings => .ok settings
  | none => .error (.config "invalid settings")

def options (s : Settings) : Options := { join := s.compile.join }

end Settings

end RowMapper
