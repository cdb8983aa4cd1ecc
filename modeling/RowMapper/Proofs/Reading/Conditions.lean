import RowMapper.Proofs.Reading.Lexing
import RowMapper.Proofs.Rendering.Compile
/-!
Conditions keep their meaning. The text of a condition, read as SQL reads it, is true of the same
numbers as the condition, although the tree that is read is not the one that was printed: compounds
in compounds of the same kind come without parentheses, and a compound of one operand shows in
nothing but them.
-/

set_option autoImplicit false

namespace RowMapper.Reading

/-- A column whose name stands in texts as it is. -/
structure PlainColumn where
  column : Column
  untabled : column.table = none
  plain : Builtin.isPlainWord column.name
  unreserved : isReservedWord column.name = false

namespace PlainColumn

def a : PlainColumn := ⟨⟨0, "a", none, 0, {}⟩, rfl, rfl, by decide⟩

def b : PlainColumn := ⟨⟨1, "b", none, 0, {}⟩, rfl, rfl, by decide⟩

def c : PlainColumn := ⟨⟨2, "c", none, 0, {}⟩, rfl, rfl, by decide⟩

end PlainColumn

/-- The operators of compounds of terms. -/
inductive Arithmetic where
  | add | mul

/-- The operators of compounds of conditions. -/
inductive Connective where
  | and | or

/-- A term: columns, sums and products of one or more terms, and differences. -/
inductive Term where
  | column (mark : Nat) (c : PlainColumn)
  | compound (mark : Nat) (op : Arithmetic) (first : Term) (rest : List Term)
  | sub (mark : Nat) (left right : Term)

/-- A condition: comparisons, conjunctions and disjunctions of one or more conditions, and
negations. -/
inductive Condition where
  | compare (mark : Nat) (c : Comparison) (left right : Term)
  | compound (mark : Nat) (op : Connective) (first : Condition) (rest : List Condition)
  | not (mark : Nat) (part : Condition)

/-! ## As expressions -/

def Comparison.op : Comparison → BinaryOp
  | .eq => .eq | .ne => .ne | .gt => .gt | .ge => .ge | .lt => .lt | .le => .le

def Arithmetic.op : Arithmetic → CompoundOp
  | .add => .add | .mul => .mul

def Connective.op : Connective → CompoundOp
  | .and => .and | .or => .or

mutual

def Term.expr : Term → Expr
  | .column mark c => .node mark (.column c.column)
  | .compound mark op first rest =>
    .node mark (.compound op.op (.seq (first.expr :: Term.exprs rest)))
  | .sub mark left right => .node mark (.binary .sub left.expr right.expr)

def Term.exprs : List Term → List Expr
  | [] => []
  | t :: rest => t.expr :: Term.exprs rest

end

mutual

def Condition.expr : Condition → Expr
  | .compare mark c left right => .node mark (.binary c.op left.expr right.expr)
  | .compound mark op first rest =>
    .node mark (.compound op.op (.seq (first.expr :: Condition.exprs rest)))
  | .not mark part => .node mark (.prefixed .not part.expr)

def Condition.exprs : List Condition → List Expr
  | [] => []
  | b :: rest => b.expr :: Condition.exprs rest

end

/-! ## What they mean -/

def Arithmetic.total : Arithmetic → List Int → Int
  | .add, values => values.foldr (· + ·) 0
  | .mul, values => values.foldr (· * ·) 1

def Connective.total : Connective → List Bool → Bool
  | .and, values => values.all id
  | .or, values => values.any id

mutual

def Term.value (numbers : String → Int) : Term → Int
  | .column _ c => numbers c.column.name
  | .compound _ op first rest => op.total (first.value numbers :: Term.values numbers rest)
  | .sub _ left right => left.value numbers - right.value numbers

def Term.values (numbers : String → Int) : List Term → List Int
  | [] => []
  | t :: rest => t.value numbers :: Term.values numbers rest

end

mutual

def Condition.holds (numbers : String → Int) : Condition → Bool
  | .compare _ c left right => c.holds (left.value numbers) (right.value numbers)
  | .compound _ op first rest => op.total (first.holds numbers :: Condition.allHold numbers rest)
  | .not _ part => !part.holds numbers

def Condition.allHold (numbers : String → Int) : List Condition → List Bool
  | [] => []
  | b :: rest => b.holds numbers :: Condition.allHold numbers rest

end

/-! ## How they are printed -/

theorem print_node {mark : Nat} {node : Node} (processed : node.handler? ≠ none)
    (unvalued : ∀ v, node ≠ .value v) (outer : Int) (context : Option Context) (options : Options) :
    (Expr.node mark node).print outer context options =
      enclosed node.rank outer (node.print context) := by
  cases node
  case value v => exact absurd rfl (unvalued v)
  case raw sql => exact absurd rfl processed
  all_goals simp [Expr.print, Expr.passthrough, Expr.plainText, Expr.name?]

theorem Expr.printAll_eq (outer : Int) (context : Option Context) (options : Options)
    (items : List Expr) :
    Expr.printAll outer context options items = items.map (·.print outer context options) := by
  induction items with
  | nil => rfl
  | cons e rest ih => rw [Expr.printAll, ih, List.map_cons]

/-- Operands are printed with the precedence of their operator around, and its symbol between. -/
theorem print_compound (mark : Nat) (op : CompoundOp) (operands : List Expr) (outer : Int)
    (context : Option Context) (options : Options) :
    (Expr.node mark (.compound op (.seq operands))).print outer context options =
      enclosed op.rank outer (op.symbol.intercalate
        (operands.map (·.print op.rank context { join := op.symbol }))) := by
  rw [print_node (by simp [Node.handler?]) (by simp), Node.print, Expr.print,
    Expr.printAll_eq, Node.rank]

/-- The name of a plain column stands for it as it is. -/
theorem PlainColumn.print_expr (c : PlainColumn) (mark : Nat) (outer : Int)
    (context : Option Context) (options : Options) :
    (Expr.node mark (.column c.column)).print outer context options =
      enclosed 1000 outer c.column.name := by
  have name : Node.print context (.column c.column) = c.column.name := by
    rw [Node.print, c.untabled]
    simp only [printName, c.plain, c.unreserved, Bool.not_false, Bool.and_self, ↓reduceIte]
  rw [print_node (by simp [Node.handler?]) (by simp), name]
  rfl

theorem separates_minus : Separates "-" (.operator .sub) := ⟨rfl, rfl, rfl⟩

theorem Comparison.separates (c : Comparison) : Separates c.op.symbol (.operator (.compare c)) := by
  cases c <;> exact ⟨rfl, rfl, rfl⟩

/-- Printed operands with the symbol of an operation between are a series of them. -/
theorem Series.intercalate {α ι : Type} {k : Associative α} {symbol : String}
    (separates : Separates symbol (.operator k.operator)) (total : List α → α)
    (total_one : ∀ a, total [a] = a)
    (total_cons : ∀ a b rest, total (a :: b :: rest) = k.combine a (total (b :: rest)))
    (text : ι → String) (value : (String → Int) → ι → α) (first : ι) (rest : List ι)
    (each : ∀ i ∈ first :: rest, Series k (text i) fun numbers => value numbers i) :
    Series k (symbol.intercalate ((first :: rest).map text)) fun numbers =>
      total ((first :: rest).map (value numbers)) := by
  induction rest generalizing first with
  | nil =>
    simpa only [List.map_cons, List.map_nil, String.intercalate_singleton, total_one] using
      each first List.mem_cons_self
  | cons second rest ih =>
    have begun := each first List.mem_cons_self
    have others := ih second fun i member => each i (List.mem_cons_of_mem first member)
    simp only [List.map_cons, String.intercalate_cons_cons, total_cons] at others ⊢
    exact begun.append others separates

/-- Texts for the precedence around: a series of sums where that is no higher than their own, else
of products. -/
def FitsTerms (text : Int → String) (meaning : (String → Int) → Int) : Prop :=
  ∀ outer, (outer ≤ 70 → Series .sum (text outer) meaning) ∧
    (70 < outer → outer ≤ 80 → Series .product (text outer) meaning)

namespace FitsTerms

variable {text : String} {meaning : (String → Int) → Int}

theorem of_atom (rank : Int) (phrase : Phrase .number .atom text meaning) :
    FitsTerms (fun outer => enclosed rank outer text) meaning := by
  intro outer
  have whole : Phrase .number .or text meaning := phrase.of_tighter (by decide)
  constructor
  · exact fun _ => .of_enclosed whole fun _ => .of_phrase (phrase.of_tighter (by decide))
  · exact fun _ _ => .of_enclosed whole fun _ => .of_phrase phrase

theorem of_product (series : Series .product text meaning) :
    FitsTerms (fun outer => enclosed 80 outer text) meaning := by
  intro outer
  have phrase : Phrase .number .product text meaning := series.phrase
  have whole : Phrase .number .or text meaning := phrase.of_tighter (by decide)
  constructor
  · exact fun _ => .of_enclosed whole fun _ => .of_phrase phrase
  · exact fun _ _ => .of_enclosed whole fun _ => series

theorem of_sum (series : Series .sum text meaning) :
    FitsTerms (fun outer => enclosed 70 outer text) meaning := by
  intro outer
  have phrase : Phrase .number .sum text meaning := series.phrase
  have whole : Phrase .number .or text meaning := phrase.of_tighter (by decide)
  constructor
  · exact fun _ => .of_enclosed whole fun _ => series
  · exact fun high _ => .of_enclosed whole fun low => absurd low (Int.not_le.mpr high)

end FitsTerms

theorem Term.values_eq (numbers : String → Int) (rest : List Term) :
    Term.values numbers rest = rest.map (Term.value numbers) := by
  induction rest with
  | nil => rfl
  | cons t rest ih => rw [Term.values, ih, List.map_cons]

theorem Term.exprs_eq (rest : List Term) : Term.exprs rest = rest.map Term.expr := by
  induction rest with
  | nil => rfl
  | cons t rest ih => rw [Term.exprs, ih, List.map_cons]

/-- The printed operands of a compound term. -/
theorem Arithmetic.compound_fits (mark : Nat) (op : Arithmetic) (first : Term) (rest : List Term)
    (context : Option Context) (options : Options)
    (each : ∀ t ∈ first :: rest, ∀ options,
      FitsTerms (fun outer => t.expr.print outer context options) fun numbers => t.value numbers) :
    FitsTerms (fun outer => (Term.compound mark op first rest).expr.print outer context options)
      fun numbers => (Term.compound mark op first rest).value numbers := by
  have printed : ∀ outer, (Term.compound mark op first rest).expr.print outer context options =
      enclosed op.op.rank outer (op.op.symbol.intercalate ((first :: rest).map fun t =>
        t.expr.print op.op.rank context { join := op.op.symbol })) := by
    intro outer
    rw [Term.expr, print_compound, Term.exprs_eq, ← List.map_cons, List.map_map]
    rfl
  have total : ∀ numbers, (Term.compound mark op first rest).value numbers =
      op.total ((first :: rest).map (Term.value numbers)) := by
    intro numbers
    rw [Term.value, Term.values_eq, List.map_cons]
  simp only [printed, total]
  cases op
  case add =>
    have separates : Separates CompoundOp.add.symbol (.operator Associative.sum.operator) :=
      ⟨rfl, rfl, rfl⟩
    exact .of_sum (Series.intercalate separates (List.foldr (· + ·) 0) Int.add_zero
      (fun _ _ _ => rfl) _ Term.value first rest fun t member => (each t member _ 70).1 (by decide))
  case mul =>
    have separates : Separates CompoundOp.mul.symbol (.operator Associative.product.operator) :=
      ⟨rfl, rfl, rfl⟩
    exact .of_product (Series.intercalate separates (List.foldr (· * ·) 1) Int.mul_one
      (fun _ _ _ => rfl) _ Term.value first rest fun t member =>
        (each t member _ 80).2 (by decide) (by decide))

/-- A printed difference. The right operand is printed one tighter than a sum, so the text that is
taken off is a product, and an operand that is itself a sum stands in parentheses. -/
theorem Term.sub_fits (mark : Nat) (left right : Term) (context : Option Context)
    (options : Options)
    (first : ∀ options, FitsTerms (fun outer => left.expr.print outer context options)
      fun numbers => left.value numbers)
    (second : ∀ options, FitsTerms (fun outer => right.expr.print outer context options)
      fun numbers => right.value numbers) :
    FitsTerms (fun outer => (Term.sub mark left right).expr.print outer context options)
      fun numbers => (Term.sub mark left right).value numbers := by
  have printed : ∀ outer, (Term.sub mark left right).expr.print outer context options =
      enclosed 70 outer (left.expr.print 70 context {} ++ "-" ++ right.expr.print 71
        context {}) := by
    intro outer
    rw [Term.expr, print_node (by simp [Node.handler?]) (by simp), Node.print, String.append_assoc]
    rfl
  simp only [printed, Term.value]
  have whole : Series .sum (left.expr.print 70 context {}) fun numbers => left.value numbers :=
    (first {} 70).1 (by decide)
  have part : Series .product (right.expr.print 71 context {}) fun numbers => right.value numbers :=
    (second {} 71).2 (by decide) (by decide)
  exact .of_sum (whole.subtract part.phrase separates_minus)

mutual

/-- A printed term fits where terms are expected. -/
theorem Term.fits (t : Term) (context : Option Context) (options : Options) :
    FitsTerms (fun outer => t.expr.print outer context options) fun numbers => t.value numbers := by
  cases t with
  | column mark c =>
    simp only [Term.expr, c.print_expr, Term.value]
    exact .of_atom 1000 (.name c.plain c.unreserved)
  | compound mark op first rest =>
    have each := List.forall_mem_cons.mpr ⟨Term.fits first context, Term.allFit rest context⟩
    exact op.compound_fits mark first rest context options each
  | sub mark left right =>
    exact Term.sub_fits mark left right context options (Term.fits left context)
      (Term.fits right context)

theorem Term.allFit (rest : List Term) (context : Option Context) :
    ∀ t ∈ rest, ∀ options, FitsTerms (fun outer => t.expr.print outer context options)
      fun numbers => t.value numbers := by
  cases rest with
  | nil => exact fun t member => by cases member
  | cons first rest =>
    exact List.forall_mem_cons.mpr ⟨Term.fits first context, Term.allFit rest context⟩

end

/-! ## Conditions -/

/-- Texts for the precedence around: a series of disjunctions where that is no higher than their
own, of conjunctions where it is no higher than theirs, and a phrase to negate where it is the
highest. -/
def FitsConditions (text : Int → String) (meaning : (String → Int) → Bool) : Prop :=
  ∀ outer, (outer ≤ 30 → Series .disjunction (text outer) meaning) ∧
    (30 < outer → outer ≤ 40 → Series .conjunction (text outer) meaning) ∧
    (outer = 1000 → Phrase .truth .not (text outer) meaning)

namespace FitsConditions

variable {text : String} {meaning : (String → Int) → Bool}

theorem of_comparison (phrase : Phrase .truth .compare text meaning) :
    FitsConditions (fun outer => enclosed 50 outer text) meaning := by
  intro outer
  have whole : Phrase .truth .or text meaning := phrase.of_tighter (by decide)
  refine ⟨fun _ => ?_, fun _ _ => ?_, fun _ => ?_⟩
  · exact .of_enclosed whole fun _ => .of_phrase (phrase.of_tighter (by decide))
  · exact .of_enclosed whole fun _ => .of_phrase (phrase.of_tighter (by decide))
  · exact .of_enclosed whole fun _ => phrase.of_tighter (by decide)

theorem of_negation (phrase : Phrase .truth .not text meaning) :
    FitsConditions (fun outer => enclosed 1000 outer text) meaning := by
  intro outer
  have whole : Phrase .truth .or text meaning := phrase.of_tighter (by decide)
  refine ⟨fun _ => ?_, fun _ _ => ?_, fun _ => ?_⟩
  · exact .of_enclosed whole fun _ => .of_phrase (phrase.of_tighter (by decide))
  · exact .of_enclosed whole fun _ => .of_phrase phrase
  · exact .of_enclosed whole fun _ => phrase

theorem of_conjunction (series : Series .conjunction text meaning) :
    FitsConditions (fun outer => enclosed 40 outer text) meaning := by
  intro outer
  have phrase : Phrase .truth .and text meaning := series.phrase
  have whole : Phrase .truth .or text meaning := phrase.of_tighter (by decide)
  refine ⟨fun _ => ?_, fun _ _ => ?_, fun highest => ?_⟩
  · exact .of_enclosed whole fun _ => .of_phrase phrase
  · exact .of_enclosed whole fun _ => series
  · exact .of_enclosed whole fun low => absurd low (by omega)

theorem of_disjunction (series : Series .disjunction text meaning) :
    FitsConditions (fun outer => enclosed 30 outer text) meaning := by
  intro outer
  have whole : Phrase .truth .or text meaning := series.phrase
  refine ⟨fun _ => ?_, fun high _ => ?_, fun highest => ?_⟩
  · exact .of_enclosed whole fun _ => series
  · exact .of_enclosed whole fun low => absurd low (Int.not_le.mpr high)
  · exact .of_enclosed whole fun low => absurd low (by omega)

end FitsConditions

theorem Condition.allHold_eq (numbers : String → Int) (rest : List Condition) :
    Condition.allHold numbers rest = rest.map (Condition.holds numbers) := by
  induction rest with
  | nil => rfl
  | cons b rest ih => rw [Condition.allHold, ih, List.map_cons]

theorem Condition.exprs_eq (rest : List Condition) :
    Condition.exprs rest = rest.map Condition.expr := by
  induction rest with
  | nil => rfl
  | cons b rest ih => rw [Condition.exprs, ih, List.map_cons]

theorem Term.isNull_expr (t : Term) : t.expr.isNull = false := by
  cases t <;> simp only [Term.expr, Expr.isNull]

/-- A printed comparison of two terms. -/
theorem Comparison.compare_fits (mark : Nat) (c : Comparison) (left right : Term)
    (context : Option Context) (options : Options) :
    FitsConditions
      (fun outer => (Condition.compare mark c left right).expr.print outer context options)
      fun numbers => (Condition.compare mark c left right).holds numbers := by
  have printed : ∀ outer, (Condition.compare mark c left right).expr.print outer context options =
      enclosed 50 outer
        (left.expr.print 50 context {} ++ c.op.symbol ++ right.expr.print 50 context {}) := by
    intro outer
    rw [Condition.expr, print_node (by simp [Node.handler?]) (by simp), String.append_assoc]
    cases c <;>
      simp only [Comparison.op, Node.print, Term.isNull_expr, Bool.false_eq_true,
        ↓reduceIte] <;> rfl
  simp only [printed, Condition.holds]
  have first : Series .sum (left.expr.print 50 context {}) fun numbers => left.value numbers :=
    (left.fits context {} 50).1 (by decide)
  have second : Series .sum (right.expr.print 50 context {}) fun numbers => right.value numbers :=
    (right.fits context {} 50).1 (by decide)
  exact .of_comparison (first.phrase.compared second.phrase c c.separates)

/-- The printed operands of a compound condition. -/
theorem Connective.compound_fits (mark : Nat) (op : Connective) (first : Condition)
    (rest : List Condition) (context : Option Context) (options : Options)
    (each : ∀ b ∈ first :: rest, ∀ options,
      FitsConditions (fun outer => b.expr.print outer context options)
        fun numbers => b.holds numbers) :
    FitsConditions
      (fun outer => (Condition.compound mark op first rest).expr.print outer context options)
      fun numbers => (Condition.compound mark op first rest).holds numbers := by
  have printed : ∀ outer, (Condition.compound mark op first rest).expr.print outer context options =
      enclosed op.op.rank outer (op.op.symbol.intercalate ((first :: rest).map fun b =>
        b.expr.print op.op.rank context { join := op.op.symbol })) := by
    intro outer
    rw [Condition.expr, print_compound, Condition.exprs_eq, ← List.map_cons, List.map_map]
    rfl
  have total : ∀ numbers, (Condition.compound mark op first rest).holds numbers =
      op.total ((first :: rest).map (Condition.holds numbers)) := by
    intro numbers
    rw [Condition.holds, Condition.allHold_eq, List.map_cons]
  simp only [printed, total]
  cases op
  case and =>
    have separates : Separates CompoundOp.and.symbol (.operator Associative.conjunction.operator) :=
      ⟨rfl, rfl, rfl⟩
    exact .of_conjunction (Series.intercalate separates (List.all · id) (by simp)
      (by simp [Associative.conjunction]) _ Condition.holds first rest
      fun b member => (each b member _ 40).2.1 (by decide) (by decide))
  case or =>
    have separates : Separates CompoundOp.or.symbol (.operator Associative.disjunction.operator) :=
      ⟨rfl, rfl, rfl⟩
    exact .of_disjunction (Series.intercalate separates (List.any · id) (by simp)
      (by simp [Associative.disjunction]) _ Condition.holds first rest
      fun b member => (each b member _ 30).1 (by decide))

mutual

/-- A printed condition fits where conditions are expected. -/
theorem Condition.fits (b : Condition) (context : Option Context) (options : Options) :
    FitsConditions (fun outer => b.expr.print outer context options) fun numbers =>
      b.holds numbers := by
  cases b with
  | compare mark c left right => exact c.compare_fits mark left right context options
  | compound mark op first rest =>
    have each := List.forall_mem_cons.mpr ⟨Condition.fits first context,
      Condition.allFit rest context⟩
    exact op.compound_fits mark first rest context options each
  | not mark part =>
    have printed : ∀ outer, (Condition.not mark part).expr.print outer context options =
        enclosed 1000 outer ("NOT" ++ " " ++ part.expr.print 1000 context {}) := by
      intro outer
      rw [Condition.expr, print_node (by simp [Node.handler?]) (by simp), Node.print]
      rfl
    simp only [printed, Condition.holds]
    exact .of_negation ((Condition.fits part context {} 1000).2.2 rfl).negated

theorem Condition.allFit (rest : List Condition) (context : Option Context) :
    ∀ b ∈ rest, ∀ options, FitsConditions (fun outer => b.expr.print outer context options)
      fun numbers => b.holds numbers := by
  cases rest with
  | nil => exact fun b member => by cases member
  | cons first rest =>
    exact List.forall_mem_cons.mpr ⟨Condition.fits first context, Condition.allFit rest context⟩

end

/-! ## As rendered -/

mutual

theorem Term.expr_isKnown (t : Term) : t.expr.isKnown := by
  cases t with
  | column mark c => rfl
  | compound mark op first rest =>
    simp only [Term.expr, Expr.isKnown, Node.isKnown, Expr.allKnown, Term.expr_isKnown first,
      Term.exprs_allKnown rest, Bool.and_self]
  | sub mark left right =>
    simp only [Term.expr, Expr.isKnown, Node.isKnown, Term.expr_isKnown left,
      Term.expr_isKnown right, Bool.and_self]

theorem Term.exprs_allKnown (rest : List Term) : Expr.allKnown (Term.exprs rest) := by
  cases rest with
  | nil => rfl
  | cons first rest =>
    simp only [Term.exprs, Expr.allKnown, Term.expr_isKnown first, Term.exprs_allKnown rest,
      Bool.and_self]

end

mutual

theorem Condition.expr_isKnown (b : Condition) : b.expr.isKnown := by
  cases b with
  | compare mark c left right =>
    simp only [Condition.expr, Expr.isKnown, Node.isKnown, Term.expr_isKnown, Bool.and_self]
  | compound mark op first rest =>
    simp only [Condition.expr, Expr.isKnown, Node.isKnown, Expr.allKnown,
      Condition.expr_isKnown first, Condition.exprs_allKnown rest, Bool.and_self]
  | not mark part =>
    simp only [Condition.expr, Expr.isKnown, Node.isKnown, Condition.expr_isKnown part]

theorem Condition.exprs_allKnown (rest : List Condition) :
    Expr.allKnown (Condition.exprs rest) := by
  cases rest with
  | nil => rfl
  | cons first rest =>
    simp only [Condition.exprs, Expr.allKnown, Condition.expr_isKnown first,
      Condition.exprs_allKnown rest, Bool.and_self]

end

/-- The text that a default compiler gives for a condition is read as one that holds for the same
numbers, with all options and from every state with no operator around. -/
theorem rendered_condition_is_read_back (b : Condition) (options : Options) (pass : Pass) :
    ∃ text, (((Hierarchy.standard id).effective 0).compile options b.expr
      { pass with precedence := 0 }).1 =
        .ok text ∧
      ∃ tree, read text = some tree ∧
        ∀ numbers, tree.eval numbers = some (.truth (b.holds numbers)) := by
  refine ⟨b.expr.print 0 pass.context options, ?_, ?_⟩
  · rw [standard_compile_eq_print b.expr_isKnown]
  · have series : Series .disjunction (b.expr.print 0 pass.context options) fun numbers =>
        b.holds numbers :=
      (b.fits pass.context options 0).1 (by decide)
    have phrase : Phrase .truth .or (b.expr.print 0 pass.context options) fun numbers =>
        b.holds numbers :=
      series.phrase
    exact phrase.read_eq

def nested : Condition :=
  let a : Term := .column 0 ⟨⟨1, "a", none, 0, {}⟩, rfl, rfl, by decide⟩
  let b : Term := .column 0 ⟨⟨2, "b", none, 0, {}⟩, rfl, rfl, by decide⟩
  .compound 0 .and (.compound 0 .and (.compare 0 .eq a b) []) [
    .not 0 (.compound 0 .or (.compare 0 .lt (.sub 0 a (.sub 0 b a)) (.compound 0 .add a [])) [])]

example : nested.expr.print 0 none {} = "a = b AND NOT (a-(b-a) < a)" := by decide

end RowMapper.Reading
