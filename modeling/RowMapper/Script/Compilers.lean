import RowMapper.Script.Handlers
import RowMapper.Script.View
/-!
The steps on expressions and compilers.
-/

set_option autoImplicit false

namespace RowMapper.Script

/-- Gives a name to a handle. The handle that had the name is dropped. -/
def nameCompiler (id : Name) (h : Handle) : Play Unit := do
  let previous ← Play.look fun s => s.compilers.get? id
  Play.alter fun s => { s with compilers := s.compilers.insert id h }
  match previous with
  | some previous => Play.plant (·.release previous)
  | none => pure ()

def tablesOf (id : Name) : Play (Tables Handler) := do
  let h ← Play.named (·.compilers) id
  Play.look (·.forest.effective h)

def describeHandle (h : Handle) :
    Play Reply := do return .text (← Play.look (·.forest.diagnostic h))

def describeNode (e : ExprForm) : Play Reply := do
  let e ← e.build
  let shown ← World.read fun s => e.diagnostic s.describeCell
  match e with
  | .node _ n => return .node shown (some n.tag.name) (some (n.lineage.map Tag.name))
  | .seq _ => return .node shown none none

def declareColumn (id : Name) (table : Option String) (form : ColumnForm Step) : Play Reply := do
  let c ← form.build (table.map Table.mk)
  Play.alter fun s => { s with columns := s.columns.insert id c }
  return .column c.qualifiedName c.position c.diagnostic c.factory.diagnostic c.factory.kind.name

def registerPieces (compiler : Name) (tags : List String) (pieces : List (Piece Step Name)) :
    Play Reply := do
  let h ← Play.named (·.compilers) compiler
  let compilers ← Play.look (·.compilers)
  match pieces.mapM (Piece.build compilers) with
  | none => Act.fail (.invariant (.stated "unknown handle"))
  | some program =>
    Play.plant (·.register h (tags.map Tag.mk) program (program.filterMap Piece.captured?))
    describeHandle h

def dropCompiler (id : Name) : Play Reply := do
  let h ← Play.named (·.compilers) id
  Play.alter fun s => { s with compilers := s.compilers.erase id }
  Play.plant (·.release h)
  return .done

def compileStep (nested : List Step → Play Unit) (compiler : Name) (e : ExprForm)
    (form : CompileForm) :
    Play Reply := do
  let h ← Play.named (·.compilers) compiler
  let e ← e.build
  let stored ← Play.look fun s => form.state.bind s.passes.get?
  match form.state with
  | some id => Play.alter fun s => { s with passes := s.passes.erase id }
  | none => pure ()
  let pass := stored.getD {}
  let pass := match form.precedence with
    | some n => pass.withPrecedence n
    | none => pass
  let pass := form.pushed.foldl Pass.pushContext pass
  let pass := form.popped.repeat Pass.popContext pass
  let (result, pass) ← compileOn nested h e form.options pass
  match form.state with
  | some id => Play.alter fun s => { s with passes := s.passes.insert id pass }
  | none => pure ()
  let parameters ← Act.read fun w => pass.parameters.map (viewParameter w)
  return .compiled result parameters pass.precedence pass.context

def renderStep (nested : List Step → Play Unit) (compiler : Name) (e : ExprForm) : Play Reply := do
  let h ← Play.named (·.compilers) compiler
  let e ← e.build
  let (result, _) ← compileOn nested h e {} {}
  return .text (← Act.lift result)

/-- The number of children of a named compiler, that of all compilers of its hierarchy, and what the
handle shows. -/
def showTree (compiler : Name) : Play Reply := do
  let h ← Play.named (·.compilers) compiler
  let forest ← Play.look (·.forest)
  let hierarchy := forest.hierarchy h.hierarchy
  return .tree (hierarchy.childCount h.slot) hierarchy.size (forest.diagnostic h)

end RowMapper.Script
