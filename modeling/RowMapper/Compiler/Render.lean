import RowMapper.Act
import RowMapper.Compiler.Pass
import RowMapper.Compiler.Tables
/-!
Compiling expressions to text. A node is given to the handler of the first tag of its lineage that
has one, with the precedence of its own tag in effect; its text stands in parentheses if that
precedence is below the one in effect around it. A handler compiles the parts of its node through
the compiler that it was called on. Handlers are foreign code, so the depth of their nesting is
bounded by a number that is counted down.
-/

set_option autoImplicit false

namespace RowMapper

/-- The state of a compilation beside a state of the outside. -/
structure Compiling (σ : Type) where
  outer : σ
  pass : Pass

namespace Compiling

variable {σ α : Type}

def read (f : Pass → α) : Act (Compiling σ) α := fun s => (.ok (f s.pass), s)

def change (f : Pass → Pass) : Act (Compiling σ) Unit := fun s => (.ok (), ⟨s.outer, f s.pass⟩)

/-- Does something outside the compilation. -/
def outside (act : Act σ α) : Act (Compiling σ) α := fun s =>
  let done := act s.outer
  (done.1, ⟨done.2, s.pass⟩)

/-- Runs a compilation from a state on; yields its outcome, failure included, and its last state. -/
def start (act : Act (Compiling σ) α) (pass : Pass) : Act σ (Except Error α × Pass) := fun s =>
  let done := act ⟨s, pass⟩
  (.ok (done.1, done.2.pass), done.2.outer)

end Compiling

/-- What a handler is given to compile the parts of its node with. -/
abbrev Recur (σ : Type) := Options → Expr → Act (Compiling σ) String

/-- A compiler as handlers see it: its tables and the diagnostic form of nodes, as they are now. -/
structure Compiler (σ H : Type) where
  tables : σ → Tables H
  describe : σ → Node → String

namespace Compiler

variable {σ H : Type}

/-- The handler of a node and the precedence of its own tag. -/
def lookup (c : Compiler σ H) (node : Node) : Act (Compiling σ) (H × Int) := fun s =>
  let tables := c.tables s.outer
  match tables.handler? node.lineage with
  | some handler => (.ok (handler, tables.precedence node.tag), s)
  | none => (.error (.noHandler node.tag.name (c.describe s.outer node)), s)

/-- Compiles a node where the given precedence is in effect. -/
def compileNode (c : Compiler σ H) (run : H → Node → Act (Compiling σ) String) (outer : Int)
    (node : Node) : Act (Compiling σ) String := do
  let (handler, inner) ← c.lookup node
  Compiling.change (·.withPrecedence inner)
  let text ← run handler node
  return if inner < outer then "(" ++ text ++ ")" else text

/-- Compiling a node on a compiler whose tables give it a handler: the handler runs with the
precedence of the node's own tag in effect. -/
theorem compileNode_of_handler (c : Compiler σ H)
    (run : H → Node → Act (Compiling σ) String) (outer : Int) (node : Node) (s : Compiling σ)
    {handler : H} (found : (c.tables s.outer).handler? node.lineage = some handler) :
    c.compileNode run outer node s =
      (do let text ← run handler node
          return if (c.tables s.outer).precedence node.tag < outer then
          "(" ++ text ++ ")" else text :
        Act (Compiling σ) String)
        ⟨s.outer, s.pass.withPrecedence ((c.tables s.outer).precedence node.tag)⟩ := by
  have looked : c.lookup node s = (.ok (handler, (c.tables s.outer).precedence node.tag), s) := by
    simp only [Compiler.lookup, found]
  rw [Compiler.compileNode, Act.bind_of_ok _ _ _ _ _ looked]
  rfl

theorem lookup_of_none (c : Compiler σ H) (node : Node) (s : Compiling σ)
    (absent : (c.tables s.outer).handler? node.lineage = none) :
    c.lookup node s = (.error (.noHandler node.tag.name (c.describe s.outer node)), s) := by
  simp only [Compiler.lookup, absent]

theorem lookup_error_iff (c : Compiler σ H) (node : Node) (s : Compiling σ) :
    (∃ e, (c.lookup node s).1 = .error e) ↔ (c.tables s.outer).handler? node.lineage = none := by
  cases found : (c.tables s.outer).handler? node.lineage with
  | none => simp [c.lookup_of_none node s found]
  | some handler => simp [Compiler.lookup, found]

/-- A node as it is compiled: under the token option a literal text is a name. -/
def asToken (token : Bool) (mark : Nat) (node : Node) : Node :=
  match token, (Expr.node mark node).plainText with
  | true, some name => .token name
  | _, _ => node

mutual

/-- Compiles an expression, given how a node is compiled where a precedence is in effect. The
precedence is as before afterwards. -/
def compileExpr (single : Int → Node → Act (Compiling σ) String) (options : Options) :
    Expr → Act (Compiling σ) String
  | .node mark node =>
    match (Expr.node mark node).passthrough options.raw with
    | some text => pure text
    | none => do
      let outer ← Compiling.read (·.precedence)
      let text ← single outer (asToken options.token mark node)
      Compiling.change (·.withPrecedence outer)
      return text
  | .seq items => do
    let outer ← Compiling.read (·.precedence)
    let texts ← compileItems single options outer items
    Compiling.change (·.withPrecedence outer)
    return String.intercalate options.join texts

/-- Compiles the items of a sequence, each where the given precedence is in effect. -/
def compileItems (single : Int → Node → Act (Compiling σ) String) (options : Options)
    (outer : Int) :
    List Expr → Act (Compiling σ) (List String)
  | [] => pure []
  | .node mark node :: rest => do
    let text ← match (Expr.node mark node).passthrough options.raw with
      | some text => pure text
      | none => single outer (asToken options.token mark node)
    let texts ← compileItems single options outer rest
    return text :: texts
  | .seq items :: rest => do
    Compiling.change (·.withPrecedence outer)
    let text ← compileExpr single options (.seq items)
    let texts ← compileItems single options outer rest
    return text :: texts

end

/-- Compiles with handlers nested at most so deeply. -/
def compile (c : Compiler σ H) (run : H → Recur σ → Node → Act (Compiling σ) String) :
    Nat → Recur σ
  | 0 => fun _ _ => Act.fail .nestedTooDeeply
  | depth + 1 => fun options expr =>
    compileExpr (c.compileNode fun handler => run handler (c.compile run depth)) options expr

end Compiler

end RowMapper
