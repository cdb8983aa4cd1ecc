import RowMapper.Dict
import RowMapper.Toml.Basic
/-!
Tables while a document is read. A table is declared by a header of its own, implied by the header
of a table inside it, or dotted: made by the dotted keys of entries. Headers may go on inside tables
of every kind and declare an implied one. Dotted keys may go on only in dotted tables, and no entry
is written twice.
-/

set_option autoImplicit false

namespace RowMapper.Toml

/-- How a table has come about. -/
inductive Origin where
  | declared
  | implied
  | dotted
  deriving DecidableEq, Repr

/-- What stands under a key. A value is closed. -/
inductive Item where
  | value (v : Toml)
  | table (origin : Origin) (entries : List (String × Item))
  /-- A list of tables that headers declare one after the other. -/
  | tables (earlier : List (List (String × Item))) (last : List (String × Item))

abbrev Entries := List (String × Item)

mutual

def Item.close : Item → Toml
  | .value v => v
  | .table _ entries => .table (closeEntries entries)
  | .tables earlier last => .array (closeTables earlier ++ [.table (closeEntries last)])

def closeEntries : List (String × Item) → List (String × Toml)
  | [] => []
  | (key, item) :: rest => (key, item.close) :: closeEntries rest

def closeTables : List (List (String × Item)) → List Toml
  | [] => []
  | entries :: rest => .table (closeEntries entries) :: closeTables rest

end

/-- Changes the table at the end of a path, which is given how the table has come about. Tables that
are missing on the way are made. -/
def within (dotted : Bool) (change : Origin → Entries → Option Entries) (here : Origin) :
    List String → Entries → Option Entries
  | [], entries => change here entries
  | key :: path, entries =>
    match Dict.lookup entries key with
    | none => do
      let origin := if dotted then Origin.dotted else .implied
      let inner ← within dotted change origin path []
      return Dict.put entries key (.table origin inner)
    | some (.value _) => none
    | some (.tables earlier last) => do
      let last ← within dotted change .declared path last
      return Dict.put entries key (.tables earlier last)
    | some (.table origin inner) =>
      if dotted && origin = .declared then none
      else do
        let inner ← within dotted change origin path inner
        return Dict.put entries key (.table origin inner)

/-- Adds an entry under a dotted key. -/
def addEntry (entries : Entries) (path : List String) (v : Toml) : Option Entries :=
  match path.getLast? with
  | none => none
  | some key =>
    let front := path.dropLast
    let add (origin : Origin) (entries : Entries) : Option Entries :=
      if (front.isEmpty || origin = .dotted) && (Dict.lookup entries key).isNone then
        some (Dict.put entries key (.value v))
      else none
    within true add .declared front entries

def declareTable (entries : Entries) (path : List String) : Option Entries :=
  match path.getLast? with
  | none => none
  | some key =>
    let declare (entries : Entries) : Option Entries :=
      match Dict.lookup entries key with
      | none => some (Dict.put entries key (.table .declared []))
      | some (.table .implied inner) => some (Dict.put entries key (.table .declared inner))
      | _ => none
    within false (fun _ => declare) .declared path.dropLast entries

def declareListed (entries : Entries) (path : List String) : Option Entries :=
  match path.getLast? with
  | none => none
  | some key =>
    let append (entries : Entries) : Option Entries :=
      match Dict.lookup entries key with
      | none => some (Dict.put entries key (.tables [] []))
      | some (.tables earlier last) => some (Dict.put entries key (.tables (earlier ++ [last]) []))
      | _ => none
    within false (fun _ => append) .declared path.dropLast entries

end RowMapper.Toml
