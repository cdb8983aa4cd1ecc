import RowMapper.Cell.Basic
import RowMapper.Compiler.Pass
import RowMapper.Sql.Form
/-!
A language of steps that drive the library. Steps name what they make, and name it again to use it.
Callbacks, rules and handlers are written in the same language.
-/

set_option autoImplicit false

namespace RowMapper.Script

/-- The name that a script gives to a thing. -/
abbrev Name := String

inductive ExprForm where
  | value (v : Value)
  | null
  | raw (sql : String)
  | token (name : String)
  | table (name : String)
  /-- A column declared on the spot. -/
  | newColumn (name : String) (table : Option String)
  /-- A declared column, in a new node. -/
  | column (id : Name)
  /-- A stored expression, the same node. -/
  | stored (id : Name)
  | cell (id : Name)
  | seq (items : List ExprForm)
  | aliased (expr : ExprForm) (name : String)
  | binary (op : BinaryOp) (left right : ExprForm)
  | compound (op : CompoundOp) (operands : ExprForm)
  | call (name : String) (args : ExprForm)
  | countAll
  | count (expr : ExprForm) (distinct : Bool)
  | prefixed (op : PrefixOp) (expr : ExprForm)
  | suffixed (op : SuffixOp) (expr : ExprForm)
  | custom (lineage : List String) (name : String) (children : List ExprForm)

inductive LazyForm where
  | reload
  | expr (e : ExprForm)

inductive AssignmentForm where
  | lazy (l : LazyForm)
  | null
  | value (v : Value)

inductive ArgForm where
  | cell (id : Name)
  | slot (s : Slot)
  | lazy (l : LazyForm)
  | flag (b : Bool)
  | text (s : String)
  | int (n : Int64)

/-- A rule of a validator, with steps of type S. -/
inductive Rule (S : Type) where
  | log
  /-- An integer must not be below a bound. -/
  | atLeast (bound : Int64) (complaint : String)
  | double
  | replace (old new : Option Value)
  /-- An integer must not exceed the limit of the object that is the context. -/
  | withinLimit
  | run (steps : List S)
  | fail (e : Error)

structure ValidatorForm (S : Type) where
  subject : String
  rules : List (Rule S)
  context : Option Name

/-- How the first value of the cells of a column is written. -/
inductive InitialForm where
  | assign (a : AssignmentForm)
  /-- Counts up from the integer behind a start. -/
  | counter (start : Int64)

/-- How a column is declared. A loose column does not belong to the table of its class. -/
structure ColumnForm (S : Type) where
  name : String
  position : Nat
  kind : Kind
  allowNull : Bool
  initial : Option InitialForm
  validator : Option (ValidatorForm S)
  loose : Bool

structure CallbackForm (S : Type) where
  unsubscribe : Bool
  /-- The number of calls in which it does something. -/
  active : Option Nat
  quiet : Bool
  /-- What it assigns to the cell that is its first argument. -/
  resolve : Option (AssignmentForm × Side)
  steps : List S
  failure : Option Error

/-- A piece of a handler, with captured handles of type C. -/
inductive Piece (S C : Type) where
  | text (t : String)
  | name
  | tag
  /-- The child of a custom node. -/
  | child (options : Options)
  | setPrecedence (precedence : Int)
  | raisePrecedence (amount : Int)
  | showPrecedence
  | push (context : Context)
  | pop
  | showContext
  | reserved (word : String)
  /-- Whether a word is reserved on a handle that the handler owns. -/
  | captured (compiler : C) (word : String)
  | parameter (v : Value)
  | fail (e : Error)
  | expect (form : Form)
  | run (steps : List S)

/-- How a cell is made: with the given options, or without any. -/
structure CellForm (S : Type) where
  kind : Kind
  allowNull : Bool
  column : Option Name
  bus : Option Name
  validator : Option (ValidatorForm S)
  initial : Option AssignmentForm
  source : Side

structure ClassForm (S : Type) where
  table : String
  columns : List (ColumnForm S)
  primary : Option (List String)
  order : List String

/-- How an expression is compiled by a step: what is done to the state before, and with which
options. -/
structure CompileForm where
  state : Option Name
  precedence : Option Int
  pushed : List Context
  popped : Nat
  options : Options

inductive ColumnChoice where
  | place (index : Nat)
  | declared (id : Name)

inductive Step where
  | storeExpr (id : Name) (e : ExprForm)
  | describeNode (e : ExprForm)
  | sameExpr (a b : ExprForm)
  | declareColumn (id : Name) (table : Option String) (form : ColumnForm Step)
  | createCompiler (id : Name) (standard : Bool)
  | createChild (id of : Name)
  | cloneCompiler (id of : Name)
  | dropCompiler (id : Name)
  | register (compiler : Name) (tags : List String) (pieces : List (Piece Step Name))
  | setPrecedence (compiler : Name) (precedence : Int) (tags : List String)
  | showPrecedences (compiler : Name) (tags : List String)
  | reserve (compiler : Name) (words : List String)
  | unreserve (compiler : Name) (words : List String)
  | showReserved (compiler : Name) (words : List String)
  | showTree (compiler : Name)
  | sameCompiler (a b : Name)
  | render (compiler : Name) (e : ExprForm)
  | compile (compiler : Name) (e : ExprForm) (form : CompileForm)
  | createOwner (id : Name)
  | dropOwner (id : Name)
  | createCallback (id : Name) (form : CallbackForm Step)
  | hook (on event callback : Name) (extra : List ArgForm)
  | unhook (on event callback : Name) (extra : List ArgForm)
  | emit (on event : Name) (args : List ArgForm)
  | showBus (on : Name)
  | createCell (id : Name) (form : CellForm Step)
  | createColumnCell (id column : Name) (bus context : Option Name)
  | set (cell : Name) (a : AssignmentForm) (source : Side)
  | delete (cell : Name)
  | get (cell : Name) (default : Option Value) (target : Side)
  | checkpoint (cell : Name)
  | setState (cell : Name) (slot : Slot) (lazy : Option LazyForm)
  | copy (id cell : Name)
  | showCell (cell : Name)
  | declareClass (id : Nat) (form : ClassForm Step)
  | showClass (id : Nat) (names : List String)
  | createObject (id : Name) (classId : Nat) (limit : Option Int64)
  | cloneObject (id of : Name)
  | dropObject (id : Name)
  | infoOf (id object : Name)
  | createInfo (id object : Name)
  | dropInfo (id : Name)
  | showAttached (object : Name)
  | attach (object info : Name)
  | observe (info object : Name)
  | showInfo (info : Name)
  | checkpointInfo (info : Name)
  | describeInfo (info : Name)
  | emitDeleted (info : Name)
  | sameInfo (a b : Name)
  | showColumnCell (info : Name) (choice : ColumnChoice)

/-- The word that a log gives to a step. -/
def Step.verb : Step → String
  | .storeExpr .. => "expr"
  | .describeNode .. => "node"
  | .sameExpr .. => "same"
  | .declareColumn .. => "column"
  | .createCompiler .. => "compiler"
  | .createChild .. => "child"
  | .cloneCompiler .. => "clone"
  | .dropCompiler .. => "drop_compiler"
  | .register .. => "when"
  | .setPrecedence .. => "set_precedence"
  | .showPrecedences .. => "precedence"
  | .reserve .. => "reserve"
  | .unreserve .. => "unreserve"
  | .showReserved .. => "reserved"
  | .showTree .. => "tree"
  | .sameCompiler .. => "same_compiler"
  | .render .. => "render"
  | .compile .. => "compile"
  | .createOwner .. => "owner"
  | .dropOwner .. => "drop_owner"
  | .createCallback .. => "callback"
  | .hook .. => "hook"
  | .unhook .. => "unhook"
  | .emit .. => "emit"
  | .showBus .. => "event"
  | .createCell .. => "var"
  | .createColumnCell .. => "factory_var"
  | .set .. => "set"
  | .delete .. => "delete"
  | .get .. => "get"
  | .checkpoint .. => "checkpoint"
  | .setState .. => "set_state"
  | .copy .. => "copy"
  | .showCell .. => "var_info"
  | .declareClass .. => "class"
  | .showClass .. => "class_info"
  | .createObject .. => "obj"
  | .cloneObject .. => "clone_obj"
  | .dropObject .. => "drop_obj"
  | .infoOf .. => "info"
  | .createInfo .. => "new_info"
  | .dropInfo .. => "drop_info"
  | .showAttached .. => "attached"
  | .attach .. => "set_obj_info"
  | .observe .. => "set_obj"
  | .showInfo .. => "info_state"
  | .checkpointInfo .. => "checkpoint_info"
  | .describeInfo .. => "info_debug"
  | .emitDeleted .. => "emit_deleted"
  | .sameInfo .. => "same_info"
  | .showColumnCell .. => "info_column"

end RowMapper.Script
