import RowMapper.Script.Cells
import RowMapper.Script.Compilers
import RowMapper.Script.Foreign
import RowMapper.Script.Objects
/-!
Running a script. Steps run foreign code, which runs nested steps, so the code of a script is built
in levels: what a level does in its turn meets the level below. The number of levels is bounded.
-/

set_option autoImplicit false

namespace RowMapper.Script

/-- What a step meets: the code of the script, and how nested steps are performed. -/
structure Machine where
  foreign : Foreign Session
  nested : List Step → Play Unit

def Step.perform (m : Machine) : Step → Play Reply
  | .storeExpr id e => do
    let e ← e.build
    Play.alter fun s => { s with exprs := s.exprs.insert id e }
    return .done
  | .describeNode e => Script.describeNode e
  | .sameExpr a b => do
    let a ← a.build
    let b ← b.build
    return .flag (a.same b)
  | .declareColumn id table form => Script.declareColumn id table form
  | .createCompiler id standard => do
    let hierarchy := if standard then .standard .builtin else .root
    nameCompiler id (← Play.plantGiving (·.create hierarchy))
    return .done
  | .createChild id of => do
    let parent ← Play.named (·.compilers) of
    let h ← Play.plantGiving (·.createChild parent)
    let shown ← describeHandle h
    nameCompiler id h
    return shown
  | .cloneCompiler id of => do
    let h ← Play.named (·.compilers) of
    Play.plant (·.addHandle h)
    let shown ← describeHandle h
    nameCompiler id h
    return shown
  | .dropCompiler id => Script.dropCompiler id
  | .register compiler tags pieces => registerPieces compiler tags pieces
  | .setPrecedence compiler precedence tags => do
    let h ← Play.named (·.compilers) compiler
    Play.plant (·.setPrecedence h precedence (tags.map Tag.mk))
    return .done
  | .showPrecedences compiler tags => do
    let tables ← tablesOf compiler
    return .precedences (tags.map fun tag => tables.precedence ⟨tag⟩)
  | .reserve compiler words => do
    let h ← Play.named (·.compilers) compiler
    Play.plant (·.markWords h true words)
    return .done
  | .unreserve compiler words => do
    let h ← Play.named (·.compilers) compiler
    Play.plant (·.markWords h false words)
    return .done
  | .showReserved compiler words => do
    let tables ← tablesOf compiler
    return .flags (words.map tables.isReserved)
  | .showTree compiler => Script.showTree compiler
  | .sameCompiler a b => do
    let a ← Play.named (·.compilers) a
    let b ← Play.named (·.compilers) b
    return .flag (a == b)
  | .render compiler e => renderStep m.nested compiler e
  | .compile compiler e form => compileStep m.nested compiler e form
  | .createOwner id => Script.createOwner id
  | .dropOwner id => Script.dropOwner id
  | .createCallback id form => Script.createCallback id form
  | .hook on event callback extra => changeHooks Bus.hook on event callback extra
  | .unhook on event callback extra => changeHooks Bus.unhook on event callback extra
  | .emit on event args => emitStep m.foreign on event args
  | .showBus on => Script.showBus on
  | .createCell id form => Script.createCell id form
  | .createColumnCell id column bus context =>
    Script.createColumnCell m.foreign id column bus context
  | .set cell a source => do
    let a ← a.build
    cellStep cell fun id => Cell.set m.foreign id a source
  | .delete cell => cellStep cell (Cell.delete m.foreign)
  | .get cell default target => getStep m.foreign cell default target
  | .checkpoint cell => cellStep cell Cell.setCheckpoint
  | .setState cell slot lazy => setStateStep cell slot lazy
  | .copy id cell => copyStep id cell
  | .showCell cell => Script.showCell cell
  | .declareClass id form => do
    Play.alter fun s => { s with declarations := s.declarations.insert id form }
    return .done
  | .showClass id names => Script.showClass m.foreign id names
  | .createObject id classId limit => Script.createObject m.foreign id classId limit
  | .cloneObject id of => Script.cloneObject m.foreign id of
  | .dropObject id => Script.dropObject m.foreign id
  | .infoOf id object => nameInfo id object (Info.ofObject m.foreign)
  | .createInfo id object => nameInfo id object (Info.create m.foreign)
  | .dropInfo id => Script.dropInfo id
  | .showAttached object => Script.showAttached object
  | .attach object info => attachStep object info
  | .observe info object => observeStep info object
  | .showInfo info => Script.showInfo info
  | .checkpointInfo info => Script.checkpointInfo info
  | .describeInfo info => do
    let id ← Play.named (·.infos) info
    return .text (← World.read fun s => s.describeInfo id)
  | .emitDeleted info => do
    Obj.emitDeleted m.foreign (← Play.named (·.infos) info)
    return .done
  | .sameInfo a b => Script.sameInfo a b
  | .showColumnCell info choice => Script.showColumnCell info choice

/-- The machine of a level. At the lowest one, foreign code is nested too deeply. -/
def Machine.ofLevel : Nat → Machine
  | 0 =>
    { foreign :=
        { call _ _ _ := Act.fail .nestedTooDeeply
          validate _ _ _ _ := Act.fail .nestedTooDeeply
          initial := askInitial
          declared := declaration }
      nested _ := Act.fail .nestedTooDeeply }
  | level + 1 =>
    let nested (steps : List Step) := performNested (fun step => step.perform (ofLevel level)) steps
    { foreign :=
        { call id owner args := callBack (ofLevel level).foreign nested id owner args
          validate := validateBy nested
          initial := askInitial
          declared := declaration }
      nested }

def levels : Nat := 100000

/-- Answers a step: what it replies, and what was logged since the answer before. -/
def answerStep (step : Step) (w : Scene) : Answer × Option Scene :=
  let (result, w) := step.perform (Machine.ofLevel levels) w
  let log := w.user.log.reverse
  let next : Scene := { w with user := { w.user with log := [] } }
  match result with
  | .ok reply => (⟨reply, log⟩, some next)
  | .error e => (⟨.failed e, log⟩, if e.isFatal then none else some next)

/-- Answers steps one after the other. Nothing is answered after a fatal failure. -/
def answerSteps : List Step → Scene → List Answer
  | [], _ => []
  | step :: rest, w =>
    let (answer, next) := answerStep step w
    match next with
    | some w => answer :: answerSteps rest w
    | none => [answer]

/-- Runs a script from an empty store. -/
def run (steps : List Step) : List Answer := answerSteps steps ⟨.empty, {}⟩

end RowMapper.Script
