import RowMapper.Proofs.Rendering.Compile
import RowMapper.World
/-!
The text of an expression is independent of its data. Literals and variables show as placeholders
whatever they hold, so two expressions that are the same but for their data are printed alike, and
only the parameters that they bind tell them apart. The one place where a literal shows is behind a
suffix operator, which takes texts over as they stand.
-/

set_option autoImplicit false

namespace RowMapper

/-! ## Expressions without their data -/

mutual

/-- An expression without its data: all literals are one and the same, except where they are shown,
and all variables stand for one cell. Marks, by which the nodes of a tree are told apart, are left
out as well. -/
def Expr.skeleton (shown : Bool) : Expr → Expr
  | .node _ node => .node 0 (node.skeleton shown)
  | .seq items => .seq (Expr.skeletons shown items)

def Expr.skeletons (shown : Bool) : List Expr → List Expr
  | [] => []
  | e :: rest => e.skeleton shown :: Expr.skeletons shown rest

/-- A node without its data. The operand of a suffix operator shows its literals, directly or in
sequences. -/
def Node.skeleton (shown : Bool) : Node → Node
  | .value v => .value (if shown then v else .bool false)
  | .variable _ => .variable 0
  | .aliased e name => .aliased (e.skeleton false) name
  | .binary op left right => .binary op (left.skeleton false) (right.skeleton false)
  | .compound op operands => .compound op (operands.skeleton false)
  | .call name args => .call name (args.skeleton false)
  | .count e distinct => .count (e.skeleton false) distinct
  | .prefixed op e => .prefixed op (e.skeleton false)
  | .suffixed op e => .suffixed op (e.skeleton true)
  | node => node

end

theorem Expr.isNull_skeleton (shown : Bool) (e : Expr) : (e.skeleton shown).isNull = e.isNull := by
  cases e with
  | seq items => rfl
  | node mark node => cases node <;> rfl

theorem Node.rank_skeleton (shown : Bool) (node : Node) :
    (node.skeleton shown).rank = node.rank := by
  cases node <;> rfl

theorem Node.passthrough_skeleton {shown raw : Bool} (visible : raw = true → shown = true)
    (mark : Nat) (node : Node) : (Expr.node 0 (node.skeleton shown)).passthrough raw =
      (Expr.node mark node).passthrough raw := by
  cases node
  case value v =>
    cases raw with
    | false => rfl
    | true => rw [visible rfl]; rfl
  all_goals rfl

mutual

theorem Expr.isKnown_skeleton (shown : Bool) (e : Expr) :
    (e.skeleton shown).isKnown = e.isKnown := by
  cases e with
  | node mark node => exact node.isKnown_skeleton shown
  | seq items => exact Expr.allKnown_skeletons shown items

theorem Expr.allKnown_skeletons (shown : Bool) (items : List Expr) :
    Expr.allKnown (Expr.skeletons shown items) = Expr.allKnown items := by
  cases items with
  | nil => rfl
  | cons e rest =>
    rw [Expr.skeletons, Expr.allKnown, Expr.allKnown, e.isKnown_skeleton, Expr.allKnown_skeletons]

theorem Node.isKnown_skeleton (shown : Bool) (node : Node) :
    (node.skeleton shown).isKnown = node.isKnown := by
  cases node
  case binary op left right =>
    rw [Node.skeleton, Node.isKnown, Node.isKnown, left.isKnown_skeleton, right.isKnown_skeleton]
  case aliased e _ | compound _ e | call _ e | count e _ | prefixed _ e | suffixed _ e =>
    exact e.isKnown_skeleton _
  all_goals rfl

end

/-! ## They print alike -/

mutual

/-- Without its data an expression prints as with it, unless it shows literals that are left out. -/
theorem Expr.print_skeleton (e : Expr) {shown : Bool} {options : Options}
    (unnamed : options.token = false) (visible : options.raw = true → shown = true) (outer : Int)
    (context : Option Context) :
    (e.skeleton shown).print outer context options = e.print outer context options := by
  cases e with
  | node mark node =>
    rw [Expr.skeleton, Expr.print, Expr.print, node.passthrough_skeleton visible mark,
      node.rank_skeleton, node.print_skeleton shown context, unnamed]
    rfl
  | seq items =>
    rw [Expr.skeleton, Expr.print, Expr.print, Expr.printAll_skeletons items unnamed visible]

theorem Expr.printAll_skeletons (items : List Expr) {shown : Bool} {options : Options}
    (unnamed : options.token = false) (visible : options.raw = true → shown = true) (outer : Int)
    (context : Option Context) :
    Expr.printAll outer context options (Expr.skeletons shown items) =
      Expr.printAll outer context options items := by
  cases items with
  | nil => rfl
  | cons e rest =>
    rw [Expr.skeletons, Expr.printAll, Expr.printAll, e.print_skeleton unnamed visible,
      Expr.printAll_skeletons rest unnamed visible]

theorem Node.print_skeleton (node : Node) (shown : Bool) (context : Option Context) :
    (node.skeleton shown).print context = node.print context := by
  cases node
  case binary op left right =>
    have hidden : ({} : Options).raw = true → false = true := by simp
    have first := fun outer => left.print_skeleton rfl hidden outer context
    have second := fun outer => right.print_skeleton rfl hidden outer context
    cases op <;> simp only [Node.skeleton, Node.print, first, second, Expr.isNull_skeleton]
  case aliased e name | count e distinct | prefixed op e | suffixed op e | call name
    e | compound op e =>
    simp only [Node.skeleton, Node.print]
    rw [e.print_skeleton rfl (by simp)]
  all_goals rfl

end

/-! ## Compiling in a program with cells -/

/-- A default compiler in a program with a store; in its messages it shows the cells as they are. -/
def Compiler.standard : Compiler Store Builtin where
  tables _ := (Hierarchy.standard id).effective 0
  describe s node := node.diagnostic s.describeCell

/-- Compiles an expression with a default compiler where the cells are in a store; yields also the
last state. -/
def Store.compileStandard (s : Store) (options : Options) (e : Expr) (pass : Pass) :
    Except Error String × Pass :=
  let done := Compiler.standard.compile (Builtin.run .standard) (e.height + 1) options e ⟨s, pass⟩
  (done.1, done.2.pass)

theorem Store.compileStandard_eq_print (s : Store) {e : Expr} (known : e.isKnown)
    (options : Options) (pass : Pass) :
    s.compileStandard options e pass =
      (.ok (e.print pass.precedence pass.context options), pass.binding (e.bound options)) := by
  have printed : Prints (Compiler.standard.compile (Builtin.run .standard) (e.height + 1)) s e :=
    Compiler.compile_prints (Hierarchy.isStandard_effective id) (fun _ _ _ => rfl) known
      (Nat.lt_succ_self _)
  rw [Store.compileStandard, printed options pass]

/-- Two expressions that are the same but for their data, compiled from the same state where the
cells are in any two states: both come out, with one and the same text, and the states that are left
are the same but for the parameters of each. -/
theorem text_independent_of_data {e e' : Expr} (known : e.isKnown)
    (alike : e.skeleton false = e'.skeleton false) (s s' : Store) (pass : Pass) :
    ∃ text, s.compileStandard {} e pass = (.ok text, pass.binding (e.bound {})) ∧
      s'.compileStandard {} e' pass = (.ok text, pass.binding (e'.bound {})) := by
  have known' : e'.isKnown := by
    rw [← e'.isKnown_skeleton false, ← alike, e.isKnown_skeleton]
    exact known
  have text : e'.print pass.precedence pass.context {} =
      e.print pass.precedence pass.context {} := by
    have hidden : ({} : Options).raw = true → false = true := by simp
    rw [← e'.print_skeleton rfl hidden, ← alike, e.print_skeleton rfl hidden]
  refine ⟨e.print pass.precedence pass.context {}, s.compileStandard_eq_print known {} pass, ?_⟩
  rw [s'.compileStandard_eq_print known' {} pass, text]

/-- Behind a suffix operator a text shows. -/
example : (Expr.node 0 (.suffixed .desc (.node 1 (.value (.text "rank"))))).print 0 none {} =
    "rank DESC" := rfl

/-- A comparison of a column with a literal, a sum of a variable and the literal, and an order by a
text that shows and by the literal with its sign changed. -/
def comparisonWith (v : Value) : Expr :=
  .seq [
    .node 0 (.binary .eq (.node 1 (.column ⟨0, "name", none, 0, {}⟩)) (.node 2 (.value v))),
    .node 3 (.compound .add (.seq [.node 4 (.variable 0), .node 2 (.value v)])),
    .node 5 (.suffixed .desc (.seq [.node 6 (.value (.text "rank")),
      .node 7 (.prefixed .neg (.node 2 (.value v)))]))]

def Store.ofCellState (state : CellState) : Store :=
  (Store.empty.addCell ⟨.any, true, none, none, none, state, none⟩).2

/-- A text that would end the statement makes no difference, nor does a lazy value that waits in the
variable. -/
theorem comparisonWith_text_independent :
    (comparisonWith (.text "x' OR 1=1 --")).isKnown ∧
    (comparisonWith (.text "x' OR 1=1 --")).skeleton false =
      (comparisonWith (.int 7)).skeleton false ∧
    ∃ text,
      (Store.ofCellState .initial).compileStandard {} (comparisonWith (.text "x' OR 1=1 --")) {} =
        (.ok text, Pass.binding {} [.value .text (.text "x' OR 1=1 --"), .cell 0,
          .value .text (.text "x' OR 1=1 --"), .value .text (.text "x' OR 1=1 --")]) ∧
      (Store.ofCellState ⟨some .reload, .undefined⟩).compileStandard {}
      (comparisonWith (.int 7)) {} =
        (.ok text, Pass.binding {} [.value .int (.int 7), .cell 0, .value .int (.int 7),
          .value .int (.int 7)]) := by
  have known : (comparisonWith (.text "x' OR 1=1 --")).isKnown := rfl
  have alike : (comparisonWith (.text "x' OR 1=1 --")).skeleton false =
    (comparisonWith (.int 7)).skeleton false := rfl
  exact ⟨known, alike, text_independent_of_data known alike _ _ {}⟩

end RowMapper
