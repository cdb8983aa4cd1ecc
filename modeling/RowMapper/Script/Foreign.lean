import RowMapper.Script.Resolve
/-!
The code that a script brings: callbacks, rules, sources of initial values and declarations of
classes. What they do beside their own work is written in steps, so how steps are performed is a
parameter.
-/

set_option autoImplicit false

namespace RowMapper.Script

def viewArg (w : Scene) : Arg → ArgView
  | .cell id => .cell (w.user.cellName w.store id)
  | .slot s => .slot s
  | .lazy l => .lazy (l.diagnostic w.store.describeCell)
  | .flag b => .flag b
  | .text s => .text s
  | .int n => .int n

/-- Performs steps and logs what each answers when it ends. Their failures go no further. -/
def performNested (perform : Step → Play Reply) : List Step → Play Unit
  | [] => pure ()
  | step :: rest => do
    match ← (perform step).attempt with
    | .ok reply => Play.record (.nested step.verb reply)
    | .error e => Play.record (.nested step.verb (.failed e))
    performNested perform rest

section

variable (nested : List Step → Play Unit)

def applyRule (context : Option ContextRef) (subject : String) (v : Option Value) :
    Rule Step → Play (Option Value)
  | .log => do
    let name ← Play.look fun s => context.map s.contextName
    Play.record (.validated subject v name)
    return v
  | .atLeast bound complaint =>
    match v with
    | some (.int n) =>
      if n < bound then Act.fail (.validation (subject ++ " " ++ complaint)) else pure v
    | _ => pure v
  | .double =>
    match v with
    | some (.int n) => pure (some (.int (n + n)))
    | _ => pure v
  | .replace old new =>
    match v, old with
    | none, none => pure new
    | some v, some old => pure (if v.same old then new else some v)
    | _, _ => pure v
  | .withinLimit => do
    match context with
    | some (.object id) =>
      let limit ← Play.look fun s => s.limits.get? id
      match v, limit with
      | some (.int n), some limit =>
        if limit < n then Act.fail (.validation (subject ++ " over " ++ toString limit.toInt))
        else pure v
      | _, _ => pure v
    | _ => Act.fail (.validation "object is gone")
  | .run steps => do
    nested steps
    return v
  | .fail e => Act.fail e

/-- The value under rules, one after the other. -/
def applyRules (context : Option ContextRef) (subject : String) :
    List (Rule Step) → Option Value → Play (Option Value)
  | [], v => pure v
  | rule :: rest, v => do
    let v ← applyRule nested context subject v rule
    applyRules context subject rest v

end

def askInitial (id : DefaultId) (w : Scene) : Assignment × Scene :=
  match w.user.initials[id]? with
  | none => (.null, w)
  | some (.assign a) => (a, w)
  | some (.counter start asked) =>
    (.value (.int (start + Int64.ofNat (asked + 1))),
      { w with user := { w.user with initials := w.user.initials.set id (.counter start
        (asked + 1)) } })

def className (id : ClassId) : String := "driver::world::Obj<" ++ toString id ++ ">"

def declareColumns (id : ClassId) (form : ClassForm Step) : Play (List Column) := do
  Play.record (.declared id)
  form.columns.mapM fun column => column.build (if column.loose then none else some ⟨form.table⟩)

/-- The declaration of a class; one that was not declared has no table and no columns. -/
def declaration (id : ClassId) (w : Scene) : ClassDeclaration × Scene :=
  let form := (w.user.declarations.get? id).getD ⟨"", [], none, []⟩
  let (columns, w) := declareColumns id form w
  (⟨className id, ⟨form.table⟩, columns.toOption.getD [], form.primary, form.order⟩, w)

/-- Assigns to the cell that is the first of some arguments, if it is one. -/
def resolveFirst (inner : Foreign Session) (a : AssignmentForm) (source : Side) :
    List Arg → Play Unit
  | .cell id :: _ => do Cell.set inner id (← a.build) source
  | _ => pure ()

/-- Calls a callback: it logs the call and, in its active calls, does what it is for. -/
def callBack (inner : Foreign Session) (nested : List Step → Play Unit) (id : CallbackId)
    (owner : Owner) (args : List Arg) : Play Flow := do
  match (← Play.look (·.callbacks))[id]? with
  | none => pure .keep
  | some callback =>
    let form := callback.form
    let calls := callback.calls + 1
    Play.alter fun s => { s with callbacks := s.callbacks.set id { callback with calls } }
    if !form.quiet then
      let entry ← Act.read fun w =>
        LogEntry.called callback.name (w.user.ownerName owner) (args.map (viewArg w))
      Play.record entry
    if form.active.all fun active => calls ≤ active then
      match form.resolve with
      | some (a, source) => resolveFirst inner a source args
      | none => pure ()
      nested form.steps
      match form.failure with
      | some e => Act.fail e
      | none => pure ()
    return if form.unsubscribe then .unsubscribe else .keep

def validateBy (nested : List Step → Play Unit) (rule : RuleId) (context : Option ContextRef)
    (subject : String) (v : Option Value) : Play (Option Value) := do
  let rules ← Play.look fun s => (s.rules[rule]?).getD []
  applyRules nested context subject rules v

end RowMapper.Script
