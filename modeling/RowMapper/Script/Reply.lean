import RowMapper.Mapping.ClassInfo
import RowMapper.Script.Step
/-!
What steps answer, and what is logged while they run.
-/

set_option autoImplicit false

namespace RowMapper.Script

structure CellView where
  slot : Slot
  lazy : Option String
  defined : Bool
  changed : Bool

/-- What one cell of a record shows: its column, its content, whether it has changed, and whether
the column leads to it and it to the column. -/
structure MemberView where
  column : String
  slot : Slot
  changed : Bool
  bound : Bool

structure InfoView where
  members : List MemberView
  /-- Where the key cells stand among the cells. -/
  keys : List (Option Nat)
  changed : Bool
  object : Option Name
  /-- Whether the object is of the first class, and of the second. -/
  classes : Bool × Bool

/-- What a parameter shows: its kind, its content and its name if it is a named cell. -/
structure ParameterView where
  kind : String
  slot : Slot
  name : Option Name

inductive ArgView where
  | cell (name : Name)
  | slot (s : Slot)
  | lazy (text : String)
  | flag (b : Bool)
  | text (s : String)
  | int (n : Int64)

inductive Reply where
  | done
  | flag (b : Bool)
  | count (n : Nat)
  | text (t : String)
  | name (n : Option Name)
  | flags (bs : List Bool)
  | precedences (ns : List Int)
  | node (shown : String) (tag : Option String) (lineage : Option (List String))
  | column (qualifiedName : String) (position : Nat) (shown factory kind : String)
  | tree (children size : Nat) (shown : String)
  | compiled (sql : Except Error String) (parameters : List ParameterView) (precedence : Int)
      (context : Option Context)
  | cell (view : CellView) (failure : Option Error)
  | got (result : Except Error (Option Value)) (view : CellView)
  | copied (view : CellView) (same sameState : Bool)
  | cellFacts (kind : String) (column : Option String) (allowNull onBus : Bool)
      (lazy : Option String) (shown : String)
  | classFacts (info : ClassInfo) (memoized : Bool) (found : List (Option Nat))
  | info (view : InfoView)
  | newInfo (known : Name) (view : InfoView)
  | attached (info : Option Name) (shown : String)
  | sameInfo (equal identical : Bool) (distinct : Nat) (sameClass : Bool)
  | failed (e : Error)

inductive LogEntry where
  | called (callback owner : Name) (args : List ArgView)
  | validated (subject : String) (v : Option Value) (context : Option Name)
  | declared (classId : Nat)
  | nested (verb : String) (reply : Reply)

/-- The answer to a step of a script with what was logged meanwhile. -/
structure Answer where
  reply : Reply
  log : List LogEntry

end RowMapper.Script
