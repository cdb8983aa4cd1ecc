import RowMapper.Script.Resolve
/-!
Compiling in a script: the compiler of a handle, and the handlers whose pieces a script has written.
-/

set_option autoImplicit false

namespace RowMapper.Script

def compilerOf (h : Handle) : Compiler Scene Handler where
  tables w := w.user.forest.effective h
  describe w node := node.diagnostic w.store.describeCell

/-- The bound on how deeply handlers are nested. -/
def handlerDepth : Nat := 1000000

/-- The name of a node: that of a custom node, else its own tag. -/
def nodeName : Node → String
  | .custom _ name _ => name
  | node => node.tag.name

def contextText : Option Context → String
  | none => "None"
  | some context => Text.applied "Some" [context.diagnostic]

def reservedText (h : Handle) (word : String) : Act (Compiling Scene) String :=
  Compiling.outside do
    return Text.truth (((← Play.look (·.forest)).effective h).isReserved word)

section

variable (nested : List Step → Play Unit) (h : Handle) (recur : Recur Scene) (node : Node)

/-- Runs a piece of a handler; what it yields is part of the text. -/
def runPiece : Piece Step Handle → Act (Compiling Scene) String
  | .text t => pure t
  | .name => pure (nodeName node)
  | .tag => pure node.tag.name
  | .child options =>
    match node with
    | .custom _ _ (child :: _) => recur options child
    | _ => pure ""
  | .setPrecedence n => do
    Compiling.change (·.withPrecedence n)
    return ""
  | .raisePrecedence n => do
    Compiling.change fun p => p.withPrecedence (p.precedence + n)
    return ""
  | .showPrecedence => do return toString (← Compiling.read (·.precedence))
  | .push context => do
    Compiling.change (·.pushContext context)
    return ""
  | .pop => do
    Compiling.change (·.popContext)
    return ""
  | .showContext => do return contextText (← Compiling.read (·.context))
  | .reserved word => reservedText h word
  | .captured other word => reservedText other word
  | .parameter v => do
    Compiling.change (·.bind (.value (.ofValue v) v))
    return ""
  | .fail e => Act.fail e
  | .expect form =>
    if node.form? = some form then pure "" else Builtin.unexpected (compilerOf h) form node
  | .run steps => do
    Compiling.outside (nested steps)
    return ""

def runPieces : List (Piece Step Handle) → Act (Compiling Scene) String
  | [] => pure ""
  | piece :: rest => do
    let text ← runPiece nested h recur node piece
    let texts ← runPieces rest
    return text ++ texts

end

/-- Runs a handler. One of the script stays in use while it runs. -/
def runHandler (nested : List Step → Play Unit) (h : Handle) :
    Handler → Recur Scene → Node → Act (Compiling Scene) String
  | .builtin b, recur, node => b.run (compilerOf h) recur node
  | .custom id, recur, node => do
    let program ← Compiling.outside (Play.look fun s => (s.forest.handlers[id]?).map (·.program))
    Compiling.outside (Play.plant (·.retainHandler id 1))
    (runPieces nested h recur node (program.getD [])).ensure fun s =>
      ⟨(Play.plant (·.drop [.handler id]) s.outer).2, s.pass⟩

/-- Compiles an expression on a handle, which stays in use meanwhile; yields the outcome and the
last state of the compilation. -/
def compileOn (nested : List Step → Play Unit) (h : Handle) (e : Expr) (options : Options)
    (pass : Pass) :
    Play (Except Error String × Pass) := do
  Play.plant (·.addHandle h)
  let (result, pass) ←
    Compiling.start ((compilerOf h).compile (runHandler nested h) handlerDepth options e) pass
  Play.plant (·.release h)
  match result with
  | .error e => if e.isFatal then Act.fail e else pure (result, pass)
  | .ok _ => pure (result, pass)

end RowMapper.Script
