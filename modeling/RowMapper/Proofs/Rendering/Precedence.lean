import RowMapper.Proofs.Rendering.Compile
/-!
The precedence in effect. Handlers are foreign code and may leave any precedence behind, and the
compiler has only one place for it. A relation says what rendering an expression comes to where a
precedence is in effect around it, and never asks which one the handlers before have left. Compiling
is this relation, followed by going back to the precedence around. Going back is left out where the
compilation fails: the relation says which precedence is left then.
-/

set_option autoImplicit false

namespace RowMapper

variable {σ H : Type}

namespace Compiling

def withPrecedence (s : Compiling σ) (precedence : Int) : Compiling σ :=
  ⟨s.outer, s.pass.withPrecedence precedence⟩

variable (s : Compiling σ) (precedence : Int)

@[simp] theorem withPrecedence_withPrecedence (inner : Int) :
    (s.withPrecedence inner).withPrecedence precedence = s.withPrecedence precedence := rfl

@[simp] theorem withPrecedence_self : s.withPrecedence s.pass.precedence = s := rfl

/-- The state with a precedence in effect again, unless there is an error. -/
def settle {α : Type} (outcome : Except Error α) : Compiling σ :=
  match outcome with
  | .ok _ => s.withPrecedence precedence
  | .error _ => s

end Compiling

/-! ## What happens to the precedence -/

/-- What has last happened to the precedence in effect. -/
inductive Turn where
  /-- Nothing. -/
  | kept
  /-- The compiler has set it to the one around. -/
  | reset
  /-- A handler has run and has left this one. -/
  | ran (left : Int)

namespace Turn

/-- The precedence in effect afterwards, given the ones around and before. -/
def precedence (around before : Int) : Turn → Int
  | .kept => before
  | .reset => around
  | .ran left => left

def andThen (earlier : Turn) : Turn → Turn
  | .kept => earlier
  | later => later

theorem precedence_andThen (around before : Int) (earlier later : Turn) :
    (earlier.andThen later).precedence around before =
      later.precedence around (earlier.precedence around before) := by
  cases later <;> rfl

/-- Where the one around is in effect before, only a handler that leaves another one takes it
away. -/
theorem precedence_eq_around_iff {around : Int} {turn : Turn} :
    turn.precedence around around = around ↔ ∀ left, turn = .ran left → left = around := by
  cases turn <;> simp [precedence]

end Turn

namespace Compiler

/-! ## Rendering where a precedence is in effect around -/

section

variable (c : Compiler σ H) (run : H → Node → Act (Compiling σ) String) (options : Options)
    (around : Int)

mutual

/-- Rendering an expression with a precedence in effect around it: from a state on it has an
outcome, leaves another state, and something has happened to the precedence. A handler starts with
the precedence of the own tag of its node, and its text stands in parentheses if that one is below
the one around. Under the token option a literal text is shown as a name. -/
inductive Renders : Expr → Compiling σ → Except Error String → Compiling σ → Turn → Prop
  /-- A text is taken over as it stands. -/
  | taken {mark : Nat} {node : Node} {s : Compiling σ} {text : String}
      (taken : (Expr.node mark node).passthrough options.raw = some text) :
      Renders (.node mark node) s (.ok text) s .kept
  /-- No handler is for the node. -/
  | unhandled {mark : Nat} {node shown : Node} {s : Compiling σ}
      (dispatched : (Expr.node mark node).passthrough options.raw = none)
      (shows : asToken options.token mark node = shown)
      (absent : (c.tables s.outer).handler? shown.lineage = none) :
      Renders (.node mark node) s (.error (.noHandler shown.tag.name (c.describe s.outer shown)))
        s .kept
  /-- The handler of the node runs. -/
  | handled {mark : Nat} {node shown : Node} {s after : Compiling σ} {handler : H} {inner : Int}
      {outcome : Except Error String}
      (dispatched : (Expr.node mark node).passthrough options.raw = none)
      (shows : asToken options.token mark node = shown)
      (found : (c.tables s.outer).handler? shown.lineage = some handler)
      (ranks : (c.tables s.outer).precedence shown.tag = inner)
      (runs : run handler shown (s.withPrecedence inner) = (outcome, after)) :
      Renders (.node mark node) s (outcome.map (enclosed inner around)) after
        (.ran after.pass.precedence)
  /-- All items of a sequence come out, and the precedence around is in effect again. -/
  | seq {items : List Expr} {s after : Compiling σ} {texts : List String} {last : Turn}
      (each : RendersAll items (s.withPrecedence around) (.ok texts) after last) :
      Renders (.seq items) s (.ok (String.intercalate options.join texts))
        (after.withPrecedence around) .reset
  /-- An item of a sequence fails, and with it the sequence. -/
  | stuck {items : List Expr} {s after : Compiling σ} {e : Error} {last : Turn}
      (each : RendersAll items (s.withPrecedence around) (.error e) after last) :
      Renders (.seq items) s (.error e) after (Turn.reset.andThen last)

/-- Rendering some expressions one after another, up to the first that fails. -/
inductive RendersAll : List Expr → Compiling σ → Except Error (List String) →
    Compiling σ → Turn → Prop
  | nil {s : Compiling σ} : RendersAll [] s (.ok []) s .kept
  | cons {e : Expr} {rest : List Expr} {s middle after : Compiling σ} {text : String}
      {outcome : Except Error (List String)} {first last : Turn}
      (head : Renders e s (.ok text) middle first)
      (tail : RendersAll rest middle outcome after last) :
      RendersAll (e :: rest) s (outcome.map (text :: ·)) after (first.andThen last)
  | stuck {e : Expr} {rest : List Expr} {s after : Compiling σ} {error : Error} {last : Turn}
      (head : Renders e s (.error error) after last) :
      RendersAll (e :: rest) s (.error error) after last

end

end

variable {c : Compiler σ H} {run : H → Node → Act (Compiling σ) String} {options : Options}
    {around : Int}

/-! ## What is left of the precedence -/

mutual

theorem Renders.precedence {e : Expr} {s after : Compiling σ} {outcome : Except Error String}
    {last : Turn} (renders : Renders c run options around e s outcome after last) :
    after.pass.precedence = last.precedence around s.pass.precedence := by
  cases renders with
  | taken | unhandled | handled | seq => rfl
  | stuck each =>
    rw [Turn.precedence_andThen]
    exact each.precedence
termination_by structural e

theorem RendersAll.precedence {items : List Expr} {s after : Compiling σ}
    {outcome : Except Error (List String)} {last : Turn}
    (renders : RendersAll c run options around items s outcome after last) :
    after.pass.precedence = last.precedence around s.pass.precedence := by
  cases renders with
  | nil => rfl
  | cons head tail => rw [Turn.precedence_andThen, ← head.precedence, tail.precedence]
  | stuck head => exact head.precedence
termination_by structural items

end

mutual

/-- Rendering does not ask which precedence is in effect where it starts, only which one is
around. -/
theorem Renders.from_any {e : Expr} {s after : Compiling σ} {outcome : Except Error String}
    {last : Turn} (renders : Renders c run options around e s outcome after last) (before : Int) :
    Renders c run options around e (s.withPrecedence before) outcome
      (after.withPrecedence (last.precedence around before)) last := by
  cases renders with
  | taken taken => exact .taken taken
  | unhandled dispatched shows absent => exact .unhandled dispatched shows absent
  | handled dispatched shows found ranks runs => exact .handled dispatched shows found ranks runs
  | seq each =>
    rw [Compiling.withPrecedence_withPrecedence]
    exact .seq each
  | stuck each =>
    rw [Turn.precedence_andThen]
    exact .stuck (each.from_any around)

theorem RendersAll.from_any {items : List Expr} {s after : Compiling σ}
    {outcome : Except Error (List String)} {last : Turn}
    (renders : RendersAll c run options around items s outcome after last) (before : Int) :
    RendersAll c run options around items (s.withPrecedence before) outcome
      (after.withPrecedence (last.precedence around before)) last := by
  cases renders with
  | nil => exact .nil
  | cons head tail =>
    rw [Turn.precedence_andThen]
    exact .cons (head.from_any before) (tail.from_any _)
  | stuck head => exact .stuck (head.from_any before)

end

/-! ## Compiling renders -/

/-- Compiling one item of a sequence where the given precedence is in effect. -/
def compileItem (single : Int → Node → Act (Compiling σ) String) (options : Options)
    (around : Int) :
    Expr → Act (Compiling σ) String
  | .node mark node =>
    match (Expr.node mark node).passthrough options.raw with
    | some text => pure text
    | none => single around (asToken options.token mark node)
  | .seq items => do
    Compiling.change (·.withPrecedence around)
    let texts ← compileItems single options around items
    Compiling.change (·.withPrecedence around)
    return String.intercalate options.join texts

section

variable (single : Int → Node → Act (Compiling σ) String)

theorem compileItem_seq (items : List Expr) (s : Compiling σ) :
    compileItem single options around (.seq items) s =
      let done := compileItems single options around items (s.withPrecedence around)
      (done.1.map (String.intercalate options.join), done.2.settle around done.1) := by
  simp only [compileItem, Act.bind_apply, Compiling.change, Compiling.withPrecedence]
  rcases compileItems single options around items _ with ⟨_ | _, _⟩ <;> rfl

theorem compileItems_cons (e : Expr) (rest : List Expr) :
    compileItems single options around (e :: rest) = (do
      let text ← compileItem single options around e
      let texts ← compileItems single options around rest
      return text :: texts) := by
  cases e with
  | node mark node =>
    simp only [compileItems, compileItem]
    cases (Expr.node mark node).passthrough options.raw <;> rfl
  | seq items =>
    funext s
    simp only [compileItems, compileItem, compileExpr, Act.bind_apply, Compiling.change,
      Compiling.read, Pass.precedence_withPrecedence]

/-- Compiling an expression is compiling it as an item where the precedence in effect is around it,
and going back to that one if a text comes out. -/
theorem compileExpr_apply (e : Expr) (s : Compiling σ) :
    compileExpr single options e s =
      let done := compileItem single options s.pass.precedence e s
      (done.1, done.2.settle s.pass.precedence done.1) := by
  cases e with
  | node mark node =>
    simp only [compileExpr, compileItem]
    cases (Expr.node mark node).passthrough options.raw with
    | some text => rfl
    | none =>
      simp only [Act.bind_apply, Compiling.read, Compiling.change]
      rcases single s.pass.precedence _ s with ⟨_ | _, _⟩ <;> rfl
  | seq items =>
    rw [compileItem_seq, Compiling.withPrecedence_self]
    simp only [compileExpr, Act.bind_apply, Compiling.change, Compiling.read]
    rcases compileItems single options s.pass.precedence items s with ⟨_ | _, _⟩ <;> rfl

end

theorem compileNode_of_found {node : Node} {s : Compiling σ} {handler : H}
    (found : (c.tables s.outer).handler? node.lineage = some handler) :
    c.compileNode run around node s =
      let inner := (c.tables s.outer).precedence node.tag
      let done := run handler node (s.withPrecedence inner)
      (done.1.map (enclosed inner around), done.2) := by
  rw [c.compileNode_of_handler run around node s found, Act.bind_apply]
  dsimp only [Compiling.withPrecedence]
  rcases run handler node _ with ⟨_ | _, _⟩ <;> rfl

mutual

/-- What rendering an item comes to, compiling it comes to. -/
theorem compileItem_of_renders {e : Expr} {s after : Compiling σ} {outcome : Except Error String}
    {last : Turn} (renders : Renders c run options around e s outcome after last) :
    compileItem (c.compileNode run) options around e s = (outcome, after) := by
  cases renders with
  | taken taken => simp only [compileItem, taken, Act.pure_apply]
  | unhandled dispatched shows absent =>
    simp only [compileItem, dispatched, shows]
    rw [compileNode, Act.bind_of_error _ _ _ _ _ (c.lookup_of_none _ s absent)]
  | handled dispatched shows found ranks runs =>
    simp only [compileItem, dispatched, shows, compileNode_of_found found, ranks, runs]
  | seq each =>
    rw [compileItem_seq, compileItems_of_renders each]
    rfl
  | stuck each =>
    rw [compileItem_seq, compileItems_of_renders each]
    rfl
termination_by structural e

theorem compileItems_of_renders {items : List Expr} {s after : Compiling σ}
    {outcome : Except Error (List String)} {last : Turn}
    (renders : RendersAll c run options around items s outcome after last) :
    compileItems (c.compileNode run) options around items s = (outcome, after) := by
  cases renders with
  | nil => simp only [compileItems, Act.pure_apply]
  | @cons _ _ _ _ _ _ outcome _ _ head tail =>
    rw [compileItems_cons, Act.bind_of_ok _ _ _ _ _ (compileItem_of_renders head), Act.bind_apply,
      compileItems_of_renders tail]
    cases outcome <;> rfl
  | stuck head =>
    rw [compileItems_cons, Act.bind_of_error _ _ _ _ _ (compileItem_of_renders head)]
termination_by structural items

end

mutual

/-- Rendering comes to something from every state on. -/
theorem Renders.exists (e : Expr) (s : Compiling σ) :
    ∃ outcome after last, Renders c run options around e s outcome after last := by
  cases e with
  | node mark node =>
    cases dispatched : (Expr.node mark node).passthrough options.raw with
    | some text => exact ⟨_, _, _, .taken dispatched⟩
    | none =>
      cases found : (c.tables s.outer).handler? (asToken options.token mark node).lineage with
      | none => exact ⟨_, _, _, .unhandled dispatched rfl found⟩
      | some handler => exact ⟨_, _, _, .handled dispatched rfl found rfl rfl⟩
  | seq items =>
    obtain ⟨outcome, after, last, each⟩ := RendersAll.exists items (s.withPrecedence around)
    cases outcome with
    | ok texts => exact ⟨_, _, _, .seq each⟩
    | error e => exact ⟨_, _, _, .stuck each⟩

theorem RendersAll.exists (items : List Expr) (s : Compiling σ) :
    ∃ outcome after last, RendersAll c run options around items s outcome after last := by
  cases items with
  | nil => exact ⟨_, _, _, .nil⟩
  | cons e rest =>
    obtain ⟨outcome, middle, first, head⟩ := Renders.exists e s
    cases outcome with
    | error e => exact ⟨_, _, _, .stuck head⟩
    | ok text =>
      obtain ⟨outcome, after, last, tail⟩ := RendersAll.exists rest middle
      exact ⟨_, _, _, .cons head tail⟩

end

/-- Compiling is rendering where the precedence in effect is around, and going back to that one if a
text comes out. -/
theorem compile_eq_iff {run : H → Recur σ → Node → Act (Compiling σ) String}
    {depth : Nat} {e : Expr} {s after : Compiling σ} {outcome : Except Error String} :
    c.compile run (depth + 1) options e s = (outcome, after) ↔
      ∃ left last,
        Renders c (fun handler => run handler (c.compile run depth)) options s.pass.precedence e s
          outcome left last ∧
        after = left.settle s.pass.precedence outcome := by
  have compiles {outcome : Except Error String} {left : Compiling σ} {last : Turn}
      (renders : Renders c (fun handler => run handler (c.compile run depth)) options
        s.pass.precedence e s outcome left last) : c.compile run (depth + 1) options e s =
        (outcome, left.settle s.pass.precedence outcome) := by
    change compileExpr _ options e s = _
    rw [compileExpr_apply, compileItem_of_renders renders]
  constructor
  · intro compiled
    -- Rendering comes to something, so it is this that compiling has come to.
    obtain ⟨outcome', left, last, renders⟩ := Renders.exists e s
    rw [compiles renders] at compiled
    cases compiled
    exact ⟨left, last, renders, rfl⟩
  · rintro ⟨left, last, renders, rfl⟩
    exact compiles renders

/-! ## With which precedence handlers start -/

/-- The precedence in effect is the one of the own tag of a node. -/
def Enters (c : Compiler σ H) (node : Node) (s : Compiling σ) : Prop :=
  s.pass.precedence = (c.tables s.outer).precedence node.tag

theorem compileNode_congr {run run' : H → Node → Act (Compiling σ) String}
    (agree : ∀ handler node s, Enters c node s → run' handler node s = run handler node s) :
    c.compileNode run' = c.compileNode run := by
  funext around node s
  cases found : (c.tables s.outer).handler? node.lineage with
  | none =>
    have absent := c.lookup_of_none node s found
    rw [compileNode, compileNode, Act.bind_of_error _ _ _ _ _ absent,
      Act.bind_of_error _ _ _ _ _ absent]
  | some handler =>
    have same := agree handler node (s.withPrecedence ((c.tables s.outer).precedence node.tag)) rfl
    simp only [compileNode_of_found found, same]

/-- By induction on how deeply handlers may be nested. -/
theorem compile_congr {run run' : H → Recur σ → Node → Act (Compiling σ) String}
    (agree : ∀ handler recur node s, Enters c node s →
      run' handler recur node s = run handler recur node s)
    (depth : Nat) : c.compile run' depth = c.compile run depth := by
  induction depth with
  | zero => rfl
  | succ depth same =>
    funext options e
    have nodes := compileNode_congr fun handler => agree handler (c.compile run depth)
    rw [compile, compile, same, nodes]

end Compiler

/-! ## The precedence in effect across compilations -/

/-- Compiling with any handlers. Handlers only start with the precedence of the own tag of their
node, as the tables have it where the node is dispatched: what they would do otherwise does not
matter. A text comes out exactly where rendering with the precedence in effect around comes to it,
however handlers have left the precedence, and that one is in effect again afterwards. Items of a
sequence come to the same texts, or to the same error, and to the same state but for the precedence,
whichever precedence was left before them. -/
theorem compilation_puts_precedence_back (c : Compiler σ H)
    (run : H → Recur σ → Node → Act (Compiling σ) String) :
    (∀ run' : H → Recur σ → Node → Act (Compiling σ) String,
      (∀ handler recur node s, c.Enters node s →
        run' handler recur node s = run handler recur node s) →
      ∀ depth, c.compile run' depth = c.compile run depth) ∧
    (∀ depth options e s text after, c.compile run depth options e s = (.ok text, after) ↔
      after.pass.precedence = s.pass.precedence ∧ ∃ below left last, depth = below + 1 ∧
        c.Renders (fun handler => run handler (c.compile run below)) options s.pass.precedence e s
          (.ok text) left last ∧
        after = left.withPrecedence s.pass.precedence) ∧
    ∀ depth options around items (s : Compiling σ) before before',
      let compiled := Compiler.compileItems
        (c.compileNode fun handler => run handler (c.compile run depth)) options around items
      (compiled (s.withPrecedence before)).1 = (compiled (s.withPrecedence before')).1 ∧
        (compiled (s.withPrecedence before)).2.withPrecedence around =
          (compiled (s.withPrecedence before')).2.withPrecedence around := by
  refine ⟨fun run' agree => Compiler.compile_congr agree, ?_, ?_⟩
  · intro depth options e s text after
    constructor
    · intro compiled
      cases depth with
      | zero => cases compiled
      | succ below =>
        obtain ⟨left, last, renders, rfl⟩ := Compiler.compile_eq_iff.mp compiled
        exact ⟨rfl, below, left, last, rfl, renders, rfl⟩
    · rintro ⟨-, below, left, last, rfl, renders, rfl⟩
      exact Compiler.compile_eq_iff.mpr ⟨left, last, renders, rfl⟩
  · intro depth options around items s before before'
    obtain ⟨outcome, after, last, renders⟩ := Compiler.RendersAll.exists items s
    dsimp only
    rw [Compiler.compileItems_of_renders (renders.from_any before),
      Compiler.compileItems_of_renders (renders.from_any before')]
    exact ⟨rfl, rfl⟩

/-- A compiler with two handlers, which are named by the precedences that they leave: the first is
for nodes of precedence 20, the second for nodes that bind the tightest. -/
def clobbering : Compiler Unit Int where
  tables _ := ((Tables.empty.register [⟨"loose"⟩] 1000).register [⟨"tight"⟩] (-7)).setPrecedence
    20 [⟨"loose"⟩]
  describe _ _ := ""

def clobber (left : Int) (_ : Recur Unit) : Node → Act (Compiling Unit) String
  | .custom _ name _ => do
    Compiling.change (·.withPrecedence left)
    return name
  | _ => pure ""

/-- The same handlers, which fail where they start with another precedence than 20 or 1000. -/
def clobberChecked (left : Int) (recur : Recur Unit) (node : Node) :
    Act (Compiling Unit) String := do
  let own ← Compiling.read (·.precedence)
  if own = (clobbering.tables ()).precedence node.tag then clobber left recur node
  else Act.fail .nestedTooDeeply

def clobberedItems : Expr :=
  .seq [.node 0 (.custom [⟨"loose"⟩] "a" []),
    .seq [.node 1 (.custom [⟨"loose"⟩] "b" []), .node 2 (.raw "r")],
    .node 3 (.custom [⟨"tight"⟩] "c" []), .node 4 (.custom [⟨"loose"⟩] "d" [])]

theorem clobberedItems_put_precedence_back :
    clobbering.compile clobberChecked 1 {} clobberedItems ⟨(), { precedence := 25 }⟩ =
      (.ok "(a), (b), r, c, (d)", ⟨(), { precedence := 25 }⟩) ∧
    ∃ left last, clobbering.Renders
      (fun handler => clobber handler (clobbering.compile clobber 0)) {} 25
        clobberedItems ⟨(), { precedence := 25 }⟩ (.ok "(a), (b), r, c, (d)") left last := by
  obtain ⟨entered, renders, -⟩ := compilation_puts_precedence_back clobbering clobber
  have compiled : clobbering.compile clobber 1 {} clobberedItems ⟨(), { precedence := 25 }⟩ =
      (.ok "(a), (b), r, c, (d)", ⟨(), { precedence := 25 }⟩) := rfl
  have same : clobbering.compile clobberChecked 1 = clobbering.compile clobber 1 := by
    refine entered clobberChecked ?_ 1
    intro handler recur node s enters
    have own : s.pass.precedence = (clobbering.tables ()).precedence node.tag := enters
    simp only [clobberChecked, Act.bind_apply, Compiling.read, own, ↓reduceIte]
  obtain ⟨-, below, left, last, deep, rendered, -⟩ := (renders _ _ _ _ _ _).mp compiled
  obtain rfl : below = 0 := by omega
  exact ⟨same ▸ compiled, left, last, rendered⟩

/-- A compilation that fails leaves the precedence as the last handler left it, unless the compiler
has since put the one around in effect or no handler has run at all: exactly then, or if that
handler left the same one, it is as before. Every later compilation from the state that is left
renders with that precedence around. -/
theorem failed_compilation_leaves_last_precedence {c : Compiler σ H}
    {run : H → Recur σ → Node → Act (Compiling σ) String} {depth : Nat}
    {options : Options} {e : Expr} {s after : Compiling σ} {error : Error}
    (failed : c.compile run (depth + 1) options e s = (.error error, after)) :
    ∃ last,
      c.Renders (fun handler => run handler (c.compile run depth)) options s.pass.precedence e s
        (.error error) after last ∧
      after.pass.precedence = last.precedence s.pass.precedence s.pass.precedence ∧
      (after.pass.precedence = s.pass.precedence ↔
        ∀ left, last = .ran left → left = s.pass.precedence) ∧
      ∀ depth options e text done, c.compile run (depth + 1) options e after = (.ok text, done) ↔
        ∃ left later, c.Renders (fun handler => run handler (c.compile run depth)) options
            (last.precedence s.pass.precedence s.pass.precedence) e after (.ok text) left later ∧
          done = left.withPrecedence (last.precedence s.pass.precedence s.pass.precedence) := by
  obtain ⟨left, last, renders, rfl⟩ := Compiler.compile_eq_iff.mp failed
  have leaves := renders.precedence
  refine ⟨last, renders, leaves, ?_, ?_⟩
  · rw [leaves, Turn.precedence_eq_around_iff]
  · intro depth options e text done
    rw [← leaves]
    exact Compiler.compile_eq_iff

/-- A comparison, a sequence that takes over a text, and a node that no handler is for. -/
def brokenItems : Expr :=
  .seq [.node 0 (.binary .eq (.node 1 (.token "a")) (.node 2 (.token "b"))),
    .seq [.node 3 (.raw "r")], .node 4 (.custom [⟨"ghost"⟩] "g" [])]

def plainCompiler : Compiler Unit Builtin := ((Hierarchy.standard id).effective 0).compiler

/-- The sequence between has put the precedence around in effect before the last node fails. -/
theorem brokenItems_keep_precedence :
    let failed := plainCompiler.compile (Builtin.run plainCompiler) 2 {} brokenItems ⟨(),
      { precedence := 7 }⟩
    failed = (.error (.noHandler "ghost" "Custom(g)"), ⟨(), { precedence := 7 }⟩) ∧
    ∃ last, plainCompiler.Renders (fun handler => handler.run plainCompiler
          (plainCompiler.compile (Builtin.run plainCompiler) 1)) {} 7 brokenItems ⟨(),
          { precedence := 7 }⟩
        (.error (.noHandler "ghost" "Custom(g)")) ⟨(), { precedence := 7 }⟩ last ∧
      ∀ left, last = .ran left → left = 7 := by
  have failed : plainCompiler.compile (Builtin.run plainCompiler) 2 {} brokenItems ⟨(),
      { precedence := 7 }⟩ = (.error (.noHandler "ghost" "Custom(g)"),
      ⟨(), { precedence := 7 }⟩) := rfl
  obtain ⟨last, renders, -, kept, -⟩ := failed_compilation_leaves_last_precedence failed
  exact ⟨failed, last, renders, kept.mp rfl⟩

def brokenComparison : Expr :=
  .node 0 (.binary .eq (.node 1 (.custom [⟨"ghost"⟩] "g" [])) (.node 2 (.token "a")))

def plainConjunction : Expr :=
  .node 0 (.compound .and (.seq [.node 1 (.token "a"), .node 2 (.token "b")]))

/-- The comparison fails and leaves its own precedence, and a conjunction after it stands in
parentheses. -/
theorem brokenComparison_leaves_precedence :
    let tables := (Hierarchy.standard id).effective 0
    tables.compile {} brokenComparison {} =
      (.error (.noHandler "ghost" "Custom(g)"), { precedence := 50 }) ∧
      tables.compile {} plainConjunction { precedence := 50 } =
      (.ok "(a AND b)", { precedence := 50 }) ∧
      tables.compile {} plainConjunction {} = (.ok "a AND b", {}) := by
  have known : plainConjunction.isKnown := rfl
  have enclosed : plainConjunction.print 50 none {} = "(a AND b)" := rfl
  have bare : plainConjunction.print 0 none {} = "a AND b" := rfl
  refine ⟨rfl, ?_, ?_⟩
  · rw [standard_compile_eq_print known, enclosed]
    rfl
  · rw [standard_compile_eq_print known, bare]
    rfl

end RowMapper
