import RowMapper.Script.Session
import RowMapper.Text.Classes
import RowMapper.Number.Literal
/-!
What the forms of a script stand for. Every expression that is written makes new nodes; only a
stored one is the same again.
-/

set_option autoImplicit false

namespace RowMapper.Script

/-- A mark that no node has. -/
def freshMark : Play Nat :=
  Play.alterGiving fun s => (s.nextMark, { s with nextMark := s.nextMark + 1 })

/-- A number that no column has. -/
def freshColumn : Play Nat :=
  Play.alterGiving fun s => (s.nextColumn, { s with nextColumn := s.nextColumn + 1 })

def newNode (n : Node) : Play Expr := do return .node (← freshMark) n

def splitAtLastPoint (text : String) : Option (String × String) :=
  match Text.cut '.' text.toList.reverse with
  | some (behind, before) => some (String.ofList before.reverse, String.ofList behind.reverse)
  | none => none

/-- The cell that a name stands for: its own name, or that of a record with a place. -/
def cellNamed (name : Name) : Play CellId := do
  match (← Play.look (·.cells)).get? name with
  | some cell => pure cell
  | none =>
    let found : Option CellId ← match splitAtLastPoint name with
      | none => pure none
      | some (front, place) => do
        let info ← Play.named (·.infos) front
        let index := (Number.readInteger place.toList).getD 0
        World.read fun s => (s.infos[info]?).bind fun i => (i.cells[index.toNat]?).map Prod.snd
    match found with
    | some cell => pure cell
    | none => Act.fail (.invariant (.stated ("unknown cell " ++ Text.quoted name)))

def busNamed (name : Name) : Play BusId := do
  match (← Play.look (·.buses)).get? name with
  | some bus => pure bus
  | none =>
    let info ← Play.named (·.infos) name
    match ← World.read fun s => (s.infos[info]?).map Info.bus with
    | some bus => pure bus
    | none => Act.fail (.invariant (.stated ("unknown bus " ++ Text.quoted name)))

mutual

def ExprForm.build : ExprForm → Play Expr
  | .value v => newNode (.value v)
  | .null => newNode .null
  | .raw sql => newNode (.raw sql)
  | .token name => newNode (.token name)
  | .table name => newNode (.table ⟨name⟩)
  | .newColumn written of => do
    let id ← freshColumn
    newNode
      (.column { id, name := written, table := of.map Table.mk, position := 0, factory := {} })
  | .column id => do newNode (.column (← Play.named (·.columns) id))
  | .stored id => Play.named (·.exprs) id
  | .cell id => do newNode (.variable (← cellNamed id))
  | .seq items => do return .seq (← ExprForm.buildAll items)
  | .aliased e name => do
    let e ← e.build
    newNode (.aliased e name)
  | .binary op left right => do
    let left ← left.build
    let right ← right.build
    newNode (.binary op left right)
  | .compound op operands => do
    let operands ← operands.build
    newNode (.compound op operands)
  | .call name args => do
    let args ← args.build
    newNode (.call name args)
  | .countAll => newNode .countAll
  | .count e distinct => do
    let e ← e.build
    newNode (.count e distinct)
  | .prefixed op e => do
    let e ← e.build
    newNode (.prefixed op e)
  | .suffixed op e => do
    let e ← e.build
    newNode (.suffixed op e)
  | .custom lineage name children => do
    let children ← ExprForm.buildAll children
    newNode (.custom (lineage.map Tag.mk) name children)

def ExprForm.buildAll : List ExprForm → Play (List Expr)
  | [] => pure []
  | e :: rest => do
    let e ← e.build
    let rest ← ExprForm.buildAll rest
    return e :: rest

end

def LazyForm.build : LazyForm → Play Lazy
  | .reload => pure .reload
  | .expr e => do return .expr (← e.build)

def AssignmentForm.build : AssignmentForm → Play Assignment
  | .lazy l => do return .lazy (← l.build)
  | .null => pure .null
  | .value v => pure (.value v)

def ArgForm.build : ArgForm → Play Arg
  | .cell id => do return .cell (← cellNamed id)
  | .slot s => pure (.slot s)
  | .lazy l => do return .lazy (← l.build)
  | .flag b => pure (.flag b)
  | .text s => pure (.text s)
  | .int n => pure (.int n)

def bringRule (rules : List (Rule Step)) : Play RuleId :=
  Play.alterGiving fun s => (s.rules.length, { s with rules := s.rules ++ [rules] })

def bringInitial (source : InitialSource) : Play DefaultId :=
  Play.alterGiving fun s => (s.initials.length, { s with initials := s.initials ++ [source] })

def InitialForm.build : InitialForm → Play DefaultId
  | .assign a => do bringInitial (.assign (← a.build))
  | .counter start => bringInitial (.counter start 0)

def ColumnForm.build (form : ColumnForm Step) (table : Option Table) : Play Column := do
  let validator ← form.validator.mapM fun v => do return (← bringRule v.rules, v.subject)
  let initial ← form.initial.mapM InitialForm.build
  let id ← freshColumn
  return { id, name := form.name, table, position := form.position,
           factory := { kind := form.kind, allowNull := form.allowNull, validator, initial } }

/-- The context of a validator, which does not keep its actor alive. -/
def contextNamed (name : Option Name) : Play (Option ContextSource) :=
  name.mapM fun name => do return .actor (← Play.named (·.owners) name)

def ValidatorForm.build (form : ValidatorForm Step) : Play Validator := do
  let context ← contextNamed form.context
  let rule ← bringRule form.rules
  return ⟨rule, form.subject, context⟩

def Piece.build (compilers : Dict Name Handle) : Piece Step Name → Option (Piece Step Handle)
  | .text t => some (.text t)
  | .name => some .name
  | .tag => some .tag
  | .child options => some (.child options)
  | .setPrecedence n => some (.setPrecedence n)
  | .raisePrecedence n => some (.raisePrecedence n)
  | .showPrecedence => some .showPrecedence
  | .push context => some (.push context)
  | .pop => some .pop
  | .showContext => some .showContext
  | .reserved word => some (.reserved word)
  | .captured compiler word => (compilers.get? compiler).map fun handle => .captured handle word
  | .parameter v => some (.parameter v)
  | .fail e => some (.fail e)
  | .expect form => some (.expect form)
  | .run steps => some (.run steps)

def Piece.captured? : Piece Step Handle → Option Handle
  | .captured handle _ => some handle
  | _ => none

end RowMapper.Script
