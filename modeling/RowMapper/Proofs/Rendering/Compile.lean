import RowMapper.Proofs.Rendering.Standard
/-!
A compiler whose tables answer as those of a default compiler prints. It goes through its handlers
with one state, which they change and change back: what comes out is the text that the printer
gives, with the parameters of the expression bound and nothing else of the state changed.
-/

set_option autoImplicit false

namespace RowMapper

variable {σ H : Type}

theorem Act.bind_apply {σ α β : Type} (first : Act σ α) (next : α → Act σ β) (s : σ) :
    (first >>= next) s = match first s with
      | (.ok a, after) => next a after
      | (.error e, after) => (.error e, after) := rfl

def Pass.binding (p : Pass) (more : List Parameter) : Pass :=
  { p with parameters := p.parameters ++ more }

namespace Pass

variable (p : Pass) (more further : List Parameter) (precedence : Int) (context : Context)

@[simp] theorem binding_nil : p.binding [] = p := by simp [binding]

@[simp] theorem binding_binding :
    (p.binding more).binding further = p.binding (more ++ further) := by
  simp [binding]

@[simp] theorem precedence_binding : (p.binding more).precedence = p.precedence := rfl

@[simp] theorem context_binding : (p.binding more).context = p.context := rfl

@[simp] theorem precedence_withPrecedence : (p.withPrecedence precedence).precedence = precedence :=
  rfl

@[simp] theorem context_withPrecedence : (p.withPrecedence precedence).context = p.context := rfl

@[simp] theorem precedence_pushContext : (p.pushContext context).precedence = p.precedence := rfl

@[simp] theorem context_pushContext : (p.pushContext context).context = some context := rfl

theorem withPrecedence_pushContext :
    (p.pushContext context).withPrecedence precedence =
      (p.withPrecedence precedence).pushContext context := rfl

@[simp] theorem withPrecedence_binding :
    (p.binding more).withPrecedence precedence = (p.withPrecedence precedence).binding more := rfl

@[simp] theorem withPrecedence_withPrecedence (inner : Int) :
    (p.withPrecedence inner).withPrecedence precedence = p.withPrecedence precedence := rfl

@[simp] theorem withPrecedence_self : p.withPrecedence p.precedence = p := rfl

@[simp] theorem popContext_pushContext :
    ((p.pushContext context).binding more).popContext = p.binding more := rfl

end Pass

/-- What compiles parts of nodes prints this expression. -/
def Prints (recur : Recur σ) (outer : σ) (e : Expr) : Prop :=
  ∀ (options : Options) (pass : Pass), recur options e ⟨outer, pass⟩ =
    (.ok (e.print pass.precedence pass.context options), ⟨outer, pass.binding (e.bound options)⟩)

/-- A handler gives the text of a node without parentheses around it, and may leave another
precedence. -/
def Handles (act : Act (Compiling σ) String) (outer : σ) (pass : Pass) (node : Node) : Prop :=
  ∃ left, act ⟨outer, pass⟩ =
    (.ok (node.print pass.context), ⟨outer, (pass.withPrecedence left).binding node.bound⟩)

theorem Handles.of_kept {act : Act (Compiling σ) String} {outer : σ} {pass : Pass} {node : Node}
    (ran : act ⟨outer, pass⟩ = (.ok (node.print pass.context), ⟨outer, pass.binding node.bound⟩)) :
    Handles act outer pass node :=
  ⟨pass.precedence, ran⟩

section

variable {c : Compiler σ H} {recur : Recur σ} {outer : σ}

theorem compileName_prints (name : String)
    (prints : Prints recur outer (.node 0 (.value (.text name)))) {pass : Pass}
    (loose : pass.precedence ≤ 1000) :
    Builtin.compileName recur name ⟨outer, pass⟩ = (.ok (printName name), ⟨outer, pass⟩) := by
  have printed := prints { token := true } pass
  have text : (Expr.node 0 (.value (.text name))).print pass.precedence pass.context
      { token := true } = enclosed 1000 pass.precedence (printName name) := rfl
  have nothing : (Expr.node 0 (.value (.text name))).bound { token := true } = [] := rfl
  rw [text, nothing, Pass.binding_nil, enclosed, if_neg (by omega)] at printed
  exact printed

theorem within_of_ok {context : Context} {act : Act (Compiling σ) String} {pass : Pass}
    {text : String} {more : List Parameter}
    (ran : act ⟨outer, pass.pushContext context⟩ =
      (.ok text, ⟨outer, (pass.pushContext context).binding more⟩)) :
    Builtin.within context act ⟨outer, pass⟩ = (.ok text, ⟨outer, pass.binding more⟩) := by
  simp only [Builtin.within, Act.bind_apply, Compiling.change, Act.ensure, ran,
    Pass.popContext_pushContext]

theorem compileBinary_prints {left right : Expr} (first : Prints recur outer left)
    (second : Prints recur outer right) (op : BinaryOp) (pass : Pass) :
    Builtin.compileBinary recur op left right ⟨outer, pass⟩ =
      (.ok (left.print pass.precedence pass.context {} ++
        (op.symbol ++ right.print pass.precedence pass.context {})),
        ⟨outer, pass.binding (left.bound {} ++ right.bound {})⟩) := by
  simp only [Builtin.compileBinary, Act.bind_apply, first {} _, second {} _,
    Pass.precedence_binding, Pass.context_binding, Pass.binding_binding, Act.pure_apply,
    String.append_assoc]

theorem eq_null_of_isNull {e : Expr} (null : e.isNull = true) : ∃ mark, e = .node mark .null := by
  cases e with
  | seq items => cases null
  | node mark node =>
    cases node
    case null => exact ⟨mark, rfl⟩
    all_goals cases null

theorem run_nullComparison (op : BinaryOp) (left : Expr) {right : Expr}
    (present : right.isNull = false) :
    Builtin.nullComparison.run c recur (.binary op left right) =
      Builtin.compileBinary recur op left right := by
  cases right with
  | seq items => rfl
  | node mark node =>
    cases node
    case null => cases present
    all_goals rfl

theorem run_binary_prints {op : BinaryOp} {left right : Expr} (first : Prints recur outer left)
    (second : Prints recur outer right) {pass : Pass} (own : pass.precedence = op.rank) :
    Handles (op.handler.run c recur (.binary op left right)) outer pass
      (.binary op left right) := by
  have both := compileBinary_prints first second op pass
  have alone := first {} pass
  rw [own] at both alone
  have unchanged : (pass.withPrecedence op.rank).binding (left.bound {} ++ right.bound {}) =
      pass.binding (left.bound {} ++ right.bound {}) := by rw [← own, Pass.withPrecedence_self]
  cases op
  case eq | ne =>
    refine ⟨50, ?_⟩
    rw [Node.bound, Node.print]
    rw [BinaryOp.rank] at *
    rw [unchanged]
    cases null : right.isNull with
    | true =>
      obtain ⟨mark, rfl⟩ := eq_null_of_isNull null
      simp only [BinaryOp.handler, Builtin.run, Act.bind_apply, alone, Act.pure_apply]
      simp [Expr.bound, Expr.passthrough, Expr.name?, Node.bound]
    | false =>
      rw [BinaryOp.handler, run_nullComparison _ left null, both]
      rfl
  case isIn =>
    refine ⟨0, ?_⟩
    simp only [BinaryOp.handler, Builtin.run, Act.bind_apply, alone, Compiling.change, second {} _,
      Act.pure_apply]
    simp [Node.print, Node.bound, String.append_assoc]
  case sub | div | mod =>
    refine ⟨pass.precedence + 1, ?_⟩
    simp only [BinaryOp.handler, Builtin.run, Act.bind_apply, alone, Compiling.change, second {} _,
      Act.pure_apply]
    simp [Node.print, Node.bound, own, String.append_assoc]
  all_goals
    exact ⟨_, both.trans (congrArg (fun p => (_, Compiling.mk outer p)) unchanged.symm)⟩

theorem run_column_prints (declared : Column)
    (name : ∀ text, ∀ pass : Pass, pass.precedence ≤ 1000 →
      Builtin.compileName recur text ⟨outer, pass⟩ = (.ok (printName text), ⟨outer, pass⟩))
    {pass : Pass} (loose : pass.precedence ≤ 1000) :
    Handles (Builtin.column.run c recur (.column declared)) outer pass (.column declared) := by
  apply Handles.of_kept
  have last := name declared.name pass loose
  simp only [Builtin.run, Act.bind_apply, Compiling.read, Node.bound, Pass.binding_nil]
  cases there : declared.table with
  | none => simp only [last, Node.print, there]
  | some t =>
    by_cases short : pass.context = some .columnName
    · simp only [short, ↓reduceIte, last, Node.print, there]
    · have front : Builtin.within .columnPrefix (Builtin.compileName recur t.name) ⟨outer, pass⟩ =
          (.ok (printName t.name), ⟨outer, pass.binding []⟩) := by
        apply within_of_ok
        rw [Pass.binding_nil]
        exact name t.name (pass.pushContext .columnPrefix) loose
      simp only [short, ↓reduceIte, Act.bind_apply, front, Pass.binding_nil, last, Act.pure_apply,
        Node.print, there]

/-- A handler prints the nodes that it is for, if what compiles their parts prints those. -/
theorem run_prints (reserved : ∀ word, (c.tables outer).isReserved word = isReservedWord word)
    {node : Node} {b : Builtin} (known : node.isKnown) (handled : node.handler? = some b)
    (prints : ∀ e : Expr, e.isKnown → e.height < Expr.nodeHeight node → Prints recur outer e)
    {pass : Pass} (own : pass.precedence = node.rank) :
    Handles (b.run c recur node) outer pass node := by
  have name : ∀ text, 1 < Expr.nodeHeight node → ∀ pass : Pass, pass.precedence ≤ 1000 →
      Builtin.compileName recur text ⟨outer, pass⟩ = (.ok (printName text), ⟨outer, pass⟩) :=
    fun text deep _ loose => compileName_prints text (prints _ rfl deep) loose
  cases node <;> simp only [Node.handler?, Option.some.injEq, reduceCtorEq] at handled <;>
    subst handled
  case value v =>
    apply Handles.of_kept
    simp only [Builtin.run, Act.bind_apply, Act.lift, Kind.accept_ofValue]
    rfl
  case null => exact .of_kept (by simp [Builtin.run, Node.print, Node.bound])
  case «variable» id => exact .of_kept rfl
  case countAll => exact .of_kept (by simp [Builtin.run, Node.print, Node.bound])
  case token text =>
    apply Handles.of_kept
    simp only [Builtin.run, Act.bind_apply, Compiling.outside, Act.read, reserved, Act.pure_apply]
    simp [Node.print, Node.bound, printName]
  all_goals
    simp only [Expr.nodeHeight] at prints name
    simp only [Node.rank] at own
  case table t =>
    apply Handles.of_kept
    rw [Builtin.run, name t.name (by omega) pass (by omega)]
    simp [Node.print, Node.bound]
  case column declared =>
    exact run_column_prints declared (fun text => name text (by omega)) (Int.le_of_eq own)
  case aliased e text =>
    apply Handles.of_kept
    have printed := prints e known (by omega) {} pass
    have loose : (pass.binding (e.bound {})).precedence ≤ 1000 := Int.le_of_eq own
    have named := name text (by omega) (pass.binding (e.bound {})) loose
    simp only [Builtin.run, Act.bind_apply, printed, named, Act.pure_apply, own,
      Node.print, Node.bound]
  case binary op left right =>
    rw [Node.isKnown, Bool.and_eq_true] at known
    exact run_binary_prints (prints left known.1 (by omega)) (prints right known.2 (by omega)) own
  case compound op operands =>
    apply Handles.of_kept
    have printed := prints operands known (by omega) { join := op.symbol } pass
    rw [Builtin.run, printed, own, Node.print, Node.bound]
  case call text args =>
    refine ⟨0, ?_⟩
    have printed := prints args known (by omega) {} ((pass.pushContext .expr).withPrecedence 0)
    simp only [Builtin.run, Act.bind_apply, Compiling.change, Act.ensure, printed, Act.pure_apply]
    simp [Pass.withPrecedence_pushContext, Node.print, Node.bound]
  case count e distinct =>
    apply Handles.of_kept
    have printed := within_of_ok (prints e known (by omega) {} (pass.pushContext .expr))
    simp only [Builtin.run, Act.bind_apply, printed, Act.pure_apply]
    simp [Node.print, Node.bound, own]
  case prefixed op e =>
    apply Handles.of_kept
    have printed := prints e known (by omega) {} pass
    simp only [Builtin.run, Act.bind_apply, printed, Act.pure_apply, own, Node.print, Node.bound]
  case suffixed op e =>
    apply Handles.of_kept
    have printed := prints e known (by omega) { raw := true } pass
    simp only [Builtin.run, Act.bind_apply, printed, Act.pure_apply, own, Node.print, Node.bound]

/-! ## Nodes, expressions and sequences of them -/

variable {builtin : Builtin → H} {run : H → Node → Act (Compiling σ) String}

/-- A node is dispatched, and its text put in parentheses if what is around it binds more
tightly. -/
def Dispatches (single : Int → Node → Act (Compiling σ) String) (outer : σ) (node : Node) : Prop :=
  ∀ (around : Int) (pass : Pass), ∃ left, single around node ⟨outer, pass⟩ =
    (.ok (enclosed node.rank around (node.print pass.context)),
      ⟨outer, (pass.withPrecedence left).binding node.bound⟩)

theorem compileNode_dispatches (answers : (c.tables outer).IsStandard builtin) {node : Node}
    {b : Builtin} (handled : node.handler? = some b)
    (handles : ∀ pass : Pass, pass.precedence = node.rank →
      Handles (run (builtin b) node) outer pass node) :
    Dispatches (c.compileNode run) outer node := by
  intro around pass
  obtain ⟨left, ran⟩ := handles (pass.withPrecedence node.rank) rfl
  refine ⟨left, ?_⟩
  have compiled := c.compileNode_of_handler run around node ⟨outer, pass⟩ (answers.handler? handled)
  rw [answers.precedence handled] at compiled
  rw [compiled]
  simp only [Act.bind_apply, ran, Act.pure_apply, enclosed]
  rfl

theorem Expr.nodeHeight_pos (node : Node) : 0 < Expr.nodeHeight node := by
  cases node <;> simp [Expr.nodeHeight]

variable {single : Int → Node → Act (Compiling σ) String} {deepest : Nat}

theorem asToken_eq (token : Bool) (mark : Nat) (node : Node) :
    Compiler.asToken token mark node =
      (((Expr.node mark node).name? token).map .token).getD node := by
  unfold Compiler.asToken Expr.name?
  cases token with
  | false => rfl
  | true => cases (Expr.node mark node).plainText <;> rfl

theorem Node.handler?_ne_none {mark : Nat} {node : Node} {takeText : Bool} (known : node.isKnown)
    (processed : (Expr.node mark node).passthrough takeText = none) : node.handler? ≠ none := by
  cases node
  case raw sql => cases processed
  case custom lineage name children => cases known
  all_goals simp [handler?]

/-- A node as it is compiled, as a name or as what it is. -/
theorem asToken_dispatches
    (dispatches : ∀ node : Node, node.isKnown → node.handler? ≠ none →
      Expr.nodeHeight node ≤ deepest → Dispatches single outer node)
    {mark : Nat} {node : Node} (known : node.isKnown) (shallow : Expr.nodeHeight node ≤ deepest)
    {options : Options} (processed : (Expr.node mark node).passthrough options.raw = none)
    (around : Int) (pass : Pass) :
    ∃ left, single around (Compiler.asToken options.token mark node) ⟨outer, pass⟩ =
      (.ok ((Expr.node mark node).print around pass.context options),
        ⟨outer, (pass.withPrecedence left).binding ((Expr.node mark node).bound options)⟩) := by
  rw [Expr.print, Expr.bound, processed, asToken_eq]
  cases (Expr.node mark node).name? options.token with
  | some name =>
    have low : Expr.nodeHeight (.token name) ≤ deepest :=
      Nat.le_trans (Expr.nodeHeight_pos node) shallow
    exact dispatches (.token name) rfl (by simp [Node.handler?]) low around pass
  | none => exact dispatches node known (Node.handler?_ne_none known processed) shallow around pass

mutual

theorem compileExpr_prints
    (dispatches : ∀ node : Node, node.isKnown → node.handler? ≠ none →
      Expr.nodeHeight node ≤ deepest → Dispatches single outer node)
    (e : Expr) (known : e.isKnown) (shallow : e.height ≤ deepest) :
    Prints (Compiler.compileExpr single) outer e := by
  intro options pass
  cases e with
  | node mark node =>
    rw [Compiler.compileExpr]
    cases processed : (Expr.node mark node).passthrough options.raw with
    | some text => simp [Expr.print, Expr.bound, processed]
    | none =>
      obtain ⟨left, ran⟩ :=
        asToken_dispatches dispatches known shallow processed pass.precedence pass
      simp only [Act.bind_apply, Compiling.read, ran, Compiling.change, Act.pure_apply]
      simp
  | seq items =>
    obtain ⟨left, ran⟩ :=
      compileItems_prints dispatches items known shallow options pass.precedence pass
    simp only [Compiler.compileExpr, Act.bind_apply, Compiling.read, ran, Compiling.change,
      Act.pure_apply]
    simp [Expr.print, Expr.bound]

theorem compileItems_prints
    (dispatches : ∀ node : Node, node.isKnown → node.handler? ≠ none →
      Expr.nodeHeight node ≤ deepest → Dispatches single outer node)
    (items : List Expr) (known : Expr.allKnown items) (shallow : Expr.heightAll items ≤ deepest)
    (options : Options) (around : Int) (pass : Pass) :
    ∃ left, Compiler.compileItems single options around items ⟨outer, pass⟩ =
      (.ok (Expr.printAll around pass.context options items),
        ⟨outer, (pass.withPrecedence left).binding (Expr.boundAll options items)⟩) := by
  cases items with
  | nil => exact ⟨pass.precedence, by simp [Compiler.compileItems, Expr.printAll, Expr.boundAll]⟩
  | cons e rest =>
    rw [Expr.allKnown, Bool.and_eq_true] at known
    rw [Expr.heightAll] at shallow
    cases e with
    | node mark node =>
      rw [Compiler.compileItems]
      cases processed : (Expr.node mark node).passthrough options.raw with
      | some text =>
        obtain ⟨left, ran⟩ :=
          compileItems_prints dispatches rest known.2 (by omega) options around pass
        refine ⟨left, ?_⟩
        simp only [Act.bind_apply, Act.pure_apply, ran]
        simp [Expr.printAll, Expr.print, Expr.boundAll, Expr.bound, processed]
      | none =>
        have low : Expr.nodeHeight node ≤ deepest := by
          rw [Expr.height] at shallow
          omega
        obtain ⟨between, first⟩ := asToken_dispatches dispatches known.1 low processed around pass
        obtain ⟨left, ran⟩ := compileItems_prints dispatches rest known.2 (by omega) options around
          ((pass.withPrecedence between).binding ((Expr.node mark node).bound options))
        refine ⟨left, ?_⟩
        simp only [Act.bind_apply, first, ran, Act.pure_apply]
        simp [Expr.printAll, Expr.boundAll]
    | seq inner =>
      have first := compileExpr_prints dispatches (.seq inner) known.1 (by omega) options
        (pass.withPrecedence around)
      obtain ⟨left, ran⟩ := compileItems_prints dispatches rest known.2 (by omega) options around
        ((pass.withPrecedence around).binding ((Expr.seq inner).bound options))
      refine ⟨left, ?_⟩
      simp only [Compiler.compileItems, Act.bind_apply, Compiling.change, first, ran,
        Act.pure_apply]
      simp [Expr.printAll, Expr.boundAll]

end

end

/-- With handlers nested deeply enough, a compiler whose tables answer as those of a default
compiler, and whose handlers are those of this library, prints. -/
theorem Compiler.compile_prints {c : Compiler σ H} {builtin : Builtin → H}
    {run : H → Recur σ → Node → Act (Compiling σ) String} {outer : σ}
    (answers : (c.tables outer).IsStandard builtin)
    (runs : ∀ b recur node, run (builtin b) recur node = b.run c recur node)
    {e : Expr} (known : e.isKnown) {depth : Nat} (deep : e.height < depth) :
    Prints (c.compile run depth) outer e := by
  induction depth generalizing e with
  | zero => omega
  | succ depth ih =>
    rw [Compiler.compile]
    refine compileExpr_prints ?_ e known (show e.height ≤ depth by omega)
    intro node known handled shallow
    obtain ⟨b, handler⟩ := Option.ne_none_iff_exists'.mp handled
    refine compileNode_dispatches answers handler fun pass own => ?_
    rw [runs]
    exact run_prints answers.isReserved known handler
      (fun part known lower => ih known (by omega)) own

/-- A default compiler compiles every expression of the nodes of this library, from every state and
with all options, to the text that the printer gives for the precedence and the context of the
state; it binds the parameters of the expression and leaves everything else of the state as it
was. -/
theorem standard_compile_eq_print {e : Expr} (known : e.isKnown) (options : Options) (pass : Pass) :
    ((Hierarchy.standard id).effective 0).compile options e pass =
      (.ok (e.print pass.precedence pass.context options),
        { pass with parameters := pass.parameters ++ e.bound options }) := by
  let c : Compiler Unit Builtin := ((Hierarchy.standard id).effective 0).compiler
  have printed : Prints (c.compile (Builtin.run c) (e.height + 1)) () e :=
    Compiler.compile_prints (Hierarchy.isStandard_effective id) (fun _ _ _ => rfl) known
      (Nat.lt_succ_self _)
  rw [Tables.compile, printed options pass]
  rfl

def nestedConjunction : Expr :=
  .node 0 (.compound .and (.seq [
    .node 1 (.binary .eq (.node 2 (.column ⟨0, "total", some ⟨"order"⟩, 0, {}⟩)) (.node 3 .null)),
    .node 4 (.binary .gt
      (.node 5 (.binary .sub (.node 6 (.value (.int 7)))
        (.node 7 (.binary .sub (.node 8 (.variable 3)) (.node 9 (.token "b"))))))
      (.node 10 (.raw "1")))]))

theorem standard_compile_nestedConjunction :
    nestedConjunction.isKnown ∧
    ((Hierarchy.standard id).effective 0).compile {} nestedConjunction
        { precedence := 45, context := some .columnName, saved := [none] } =
      (.ok "(total IS NULL AND ?-(?-b) > 1)",
        { precedence := 45, parameters := [.value (.ofValue (.int 7)) (.int 7), .cell 3],
          context := some .columnName, saved := [none] }) := by
  have known : nestedConjunction.isKnown := rfl
  refine ⟨known, (standard_compile_eq_print known _ _).trans ?_⟩
  have text : nestedConjunction.print 45 (some .columnName) {} =
      "(total IS NULL AND ?-(?-b) > 1)" := by
    rfl
  rw [text]
  rfl

end RowMapper
