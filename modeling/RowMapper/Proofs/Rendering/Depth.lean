import RowMapper.Proofs.Rendering.Compile
/-!
The bound on how deeply handlers are nested is never met by those of this library. A handler
compiles parts that are less high than its node, so any two depths above the height of an expression
do the same to it.
-/

set_option autoImplicit false

namespace RowMapper

variable {σ H : Type} {c : Compiler σ H}

/-- A handler asks for nothing but parts of its node. -/
theorem Builtin.run_congr {recur recur' : Recur σ} (b : Builtin) (node : Node)
    (same : ∀ options e, e.height < Expr.nodeHeight node → recur options e = recur' options e) :
    b.run c recur node = b.run c recur' node := by
  unfold Builtin.run compileBinary compileName
  split
  all_goals first
    | rfl
    | simp (disch := (simp only [Expr.height, Expr.nodeHeight]; omega)) only [same]

section

variable {single single' : Int → Node → Act (Compiling σ) String} {deepest : Nat}

theorem asToken_same
    (same : ∀ outer node, Expr.nodeHeight node ≤ deepest → single outer node = single' outer node)
    (token : Bool) (mark : Nat) {node : Node} (shallow : Expr.nodeHeight node ≤ deepest)
    (outer : Int) :
    single outer (Compiler.asToken token mark node) =
      single' outer (Compiler.asToken token mark node) := by
  rw [asToken_eq]
  cases (Expr.node mark node).name? token with
  | none => exact same outer node shallow
  | some name => exact same outer (.token name) (Nat.le_trans (Expr.nodeHeight_pos node) shallow)

mutual

theorem compileExpr_congr
    (same : ∀ outer node, Expr.nodeHeight node ≤ deepest → single outer node = single' outer node)
    (options : Options) (e : Expr) (shallow : e.height ≤ deepest) :
    Compiler.compileExpr single options e = Compiler.compileExpr single' options e := by
  cases e with
  | node mark node =>
    have alone := fun outer => asToken_same same options.token mark shallow outer
    rw [Compiler.compileExpr, Compiler.compileExpr]
    simp only [alone]
  | seq items =>
    rw [Compiler.compileExpr, Compiler.compileExpr]
    simp only [compileItems_congr same options items shallow]

theorem compileItems_congr
    (same : ∀ outer node, Expr.nodeHeight node ≤ deepest → single outer node = single' outer node)
    (options : Options) (items : List Expr) (shallow : Expr.heightAll items ≤ deepest)
    (outer : Int) :
    Compiler.compileItems single options outer items =
      Compiler.compileItems single' options outer items := by
  cases items with
  | nil => rfl
  | cons e rest =>
    rw [Expr.heightAll] at shallow
    have later := compileItems_congr same options rest (by omega) outer
    cases e with
    | node mark node =>
      have low : Expr.nodeHeight node ≤ deepest := by
        rw [Expr.height] at shallow
        omega
      have alone := asToken_same same options.token mark low outer
      rw [Compiler.compileItems, Compiler.compileItems, alone, later]
    | seq inner =>
      have first := compileExpr_congr same options (.seq inner) (by omega)
      rw [Compiler.compileItems, Compiler.compileItems, first, later]

end

end

/-- Two depths above the height of an expression do the same to it, whatever the tables are. -/
theorem Compiler.compile_depth {c : Compiler σ Builtin} (depth depth' : Nat)
    (options : Options) (e : Expr) (enough : e.height < depth) (enough' : e.height < depth') :
    c.compile (Builtin.run c) depth options e = c.compile (Builtin.run c) depth' options e := by
  induction depth generalizing depth' options e with
  | zero => omega
  | succ depth ih =>
    cases depth' with
    | zero => omega
    | succ depth' =>
      rw [Compiler.compile, Compiler.compile]
      have same : ∀ outer node, Expr.nodeHeight node ≤ e.height →
          c.compileNode (fun b => Builtin.run c b (c.compile (Builtin.run c) depth)) outer node =
            c.compileNode (fun b => Builtin.run c b (c.compile (Builtin.run c) depth'))
              outer node := by
        intro outer node shallow
        have handled : ∀ b, Builtin.run c b (c.compile (Builtin.run c) depth) node =
            Builtin.run c b (c.compile (Builtin.run c) depth') node := fun b =>
          b.run_congr node fun options part lower => ih depth' options part (by omega) (by omega)
        simp only [Compiler.compileNode, handled]
      exact compileExpr_congr same options e (Nat.le_refl _)

end RowMapper
