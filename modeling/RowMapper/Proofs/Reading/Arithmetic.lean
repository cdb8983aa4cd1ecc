import RowMapper.Proofs.Reading.Chains
import RowMapper.Proofs.Reading.Conditions
/-!
Arithmetic with quotients and remainders. Factors come without parentheses, so a quotient that is a
factor is read as the quotient of all that stands before its divisor. The tree that is read of a
formula is known for every formula; it has the value of the formula where no quotient or remainder
stands so behind another factor.
-/

set_option autoImplicit false

namespace RowMapper.Reading

/-- The operators with two operands. -/
inductive NonAssociative where
  | sub | div | mod

/-- A formula: columns, sums and products of one or more formulas, differences, quotients and
remainders. -/
inductive Formula where
  | column (mark : Nat) (c : PlainColumn)
  | compound (mark : Nat) (op : Arithmetic) (first : Formula) (rest : List Formula)
  | binary (mark : Nat) (op : NonAssociative) (left right : Formula)

namespace NonAssociative

def op : NonAssociative → BinaryOp
  | .sub => .sub | .div => .div | .mod => .mod

def operator : NonAssociative → Operator
  | .sub => .sub | .div => .div | .mod => .mod

/-- The compounds that bind as tightly. -/
def compound : NonAssociative → Arithmetic
  | .sub => .add
  | .div | .mod => .mul

/-- What an operator makes of two numbers; nothing of a division by zero. Quotients are
truncated. -/
def apply : NonAssociative → Int → Int → Option Int
  | .sub, a, b => some (a - b)
  | .div, a, b => if b = 0 then none else some (a.tdiv b)
  | .mod, a, b => if b = 0 then none else some (a.tmod b)

end NonAssociative

def Arithmetic.operator : Arithmetic → Operator
  | .add => .add | .mul => .mul

mutual

def Formula.expr : Formula → Expr
  | .column mark c => .node mark (.column c.column)
  | .compound mark op first rest =>
    .node mark (.compound op.op (.seq (first.expr :: Formula.exprs rest)))
  | .binary mark op left right => .node mark (.binary op.op left.expr right.expr)

def Formula.exprs : List Formula → List Expr
  | [] => []
  | f :: rest => f.expr :: Formula.exprs rest

end

mutual

/-- The value of a formula, given the numbers in the columns; none if a divisor is zero. -/
def Formula.value (numbers : String → Int) : Formula → Option Int
  | .column _ c => some (numbers c.column.name)
  | .compound _ op first rest => do
    let value ← first.value numbers
    let values ← Formula.values numbers rest
    return op.total (value :: values)
  | .binary _ op left right => do op.apply (← left.value numbers) (← right.value numbers)

def Formula.values (numbers : String → Int) : List Formula → Option (List Int)
  | [] => some []
  | f :: rest => do
    let value ← f.value numbers
    let values ← Formula.values numbers rest
    return value :: values

end

/-! ## What is read of a formula -/

/-- A chain of an operator goes on with what was read before if that was a chain of the same one; in
any other place it is read for itself. -/
def Arithmetic.splice (onto : Option Tree → Tree) (before : Option Tree) :
    (own around : Arithmetic) → Tree
  | .add, .add | .mul, .mul => onto before
  | _, around => around.operator.join before (onto none)

mutual

/-- The tree that is read of a formula where it is an operand of a compound, behind what was read
before it. -/
def Formula.onto (around : Arithmetic) (before : Option Tree) : Formula → Tree
  | .column _ c => around.operator.join before (.name c.column.name)
  | .compound _ op first rest =>
    Arithmetic.splice (fun before => Formula.ontoAll op (first.onto op before) rest) before op
      around
  | .binary _ op left right =>
    Arithmetic.splice
      (fun before => .operation op.operator (left.onto op.compound before) (right.onto .mul none))
      before op.compound around

/-- The tree that is read of further operands of a compound. -/
def Formula.ontoAll (around : Arithmetic) (left : Tree) : List Formula → Tree
  | [] => left
  | f :: rest => Formula.ontoAll around (f.onto around (some left)) rest

end

/-- The tree that is read of a formula alone. -/
def Formula.tree (f : Formula) : Tree := f.onto .add none

theorem Formula.ontoAll_eq (around : Arithmetic) (left : Tree) (rest : List Formula) :
    Formula.ontoAll around left rest =
      rest.foldl (fun left f => f.onto around (some left)) left := by
  induction rest generalizing left with
  | nil => rfl
  | cons f rest ih => rw [Formula.ontoAll, ih, List.foldl_cons]

theorem Formula.exprs_eq (rest : List Formula) : Formula.exprs rest = rest.map Formula.expr := by
  induction rest with
  | nil => rfl
  | cons f rest ih => rw [Formula.exprs, ih, List.map_cons]

/-! ## How a formula is printed -/

/-- Texts for the precedence around: operands of a sum where that is no higher than the one of sums,
operands of a product where it is no higher than that of products, and atoms behind that. -/
structure FitsFormulas (text : Int → String) (onto : Arithmetic → Option Tree → Tree) : Prop where
  sum : ∀ outer, outer ≤ 70 → Lexed (Resumes .add · (onto .add)) (text outer)
  product : ∀ outer, 70 < outer → outer ≤ 80 → Lexed (Resumes .mul · (onto .mul)) (text outer)
  atom : ∀ outer, 80 < outer → outer ≤ 1000 → Lexed (Parses .atom · (onto .mul none)) (text outer)

namespace FitsFormulas

variable {text : String} {tree : Tree} {onto : Option Tree → Tree}

theorem of_atom (lexed : Lexed (Parses .atom · tree) text) :
    FitsFormulas (fun outer => enclosed 1000 outer text) fun around before =>
      around.operator.join before tree := by
  have bare : ∀ outer : Int, outer ≤ 1000 → enclosed 1000 outer text = text :=
    fun outer low => if_neg (Int.not_lt.mpr low)
  constructor
  case sum =>
    intro outer low
    rw [bare outer (by omega)]
    exact lexed.mono fun _ parses => .of_parses (parses.of_tighter (by decide))
  case product =>
    intro outer _ low
    rw [bare outer (by omega)]
    exact lexed.mono fun _ parses => .of_parses parses
  case atom =>
    intro outer _ low
    rw [bare outer low]
    exact lexed

/-- A chain of operands. -/
theorem of_chain (own : Arithmetic) (lexed : Lexed (Resumes own.operator · onto) text) :
    FitsFormulas (fun outer => enclosed own.op.rank outer text)
      fun around before => Arithmetic.splice onto before own around := by
  have grouped : ∀ outer : Int, own.op.rank < outer →
      Lexed (Parses .atom · (onto none)) (enclosed own.op.rank outer text) := by
    intro outer high
    rw [enclosed, if_pos high]
    refine lexed.enclosed fun _ resumes => (resumes.parses.of_tighter ?_).enclosed
    cases own <;> decide
  have bare : ∀ outer : Int, outer ≤ own.op.rank → enclosed own.op.rank outer text = text :=
    fun outer low => if_neg (Int.not_lt.mpr low)
  cases own
  case add =>
    have rank : Arithmetic.add.op.rank = 70 := rfl
    constructor
    case sum =>
      intro outer low
      rw [bare outer low]
      exact lexed
    case product =>
      exact fun outer high _ => (grouped outer high).mono fun _ parses => .of_parses parses
    case atom => exact fun outer high _ => grouped outer (by omega)
  case mul =>
    have rank : Arithmetic.mul.op.rank = 80 := rfl
    constructor
    case sum =>
      intro outer low
      rw [bare outer (by omega)]
      exact lexed.mono fun _ resumes => .of_parses resumes.parses
    case product =>
      intro outer _ low
      rw [bare outer low]
      exact lexed
    case atom => exact fun outer high _ => grouped outer high

end FitsFormulas

theorem Arithmetic.separates (op : Arithmetic) :
    Separates op.op.symbol (.operator op.operator) := by
  cases op <;> exact ⟨rfl, rfl, rfl⟩

theorem NonAssociative.separates (op : NonAssociative) :
    Separates op.op.symbol (.operator op.operator) := by
  cases op <;> exact ⟨rfl, rfl, rfl⟩

/-- The printed operands of a compound. -/
theorem Arithmetic.compound_fitsFormulas (mark : Nat) (op : Arithmetic) (first : Formula)
    (rest : List Formula) (context : Option Context) (options : Options)
    (each : ∀ f ∈ first :: rest, ∀ options,
      FitsFormulas (fun outer => f.expr.print outer context options) fun around before =>
      f.onto around before) :
    FitsFormulas
    (fun outer => (Formula.compound mark op first rest).expr.print outer context options)
      fun around before => (Formula.compound mark op first rest).onto around before := by
  have printed : ∀ outer, (Formula.compound mark op first rest).expr.print outer context options =
      enclosed op.op.rank outer (op.op.symbol.intercalate ((first :: rest).map fun f =>
        f.expr.print op.op.rank context { join := op.op.symbol })) := by
    intro outer
    rw [Formula.expr, print_compound, Formula.exprs_eq, ← List.map_cons, List.map_map]
    rfl
  simp only [printed, Formula.onto, Formula.ontoAll_eq]
  refine .of_chain op (.intercalate op.separates _ (fun f before => f.onto op before) first rest
    fun f member => ?_)
  have fits := each f member { join := op.op.symbol }
  cases op with
  | add => exact fits.sum 70 (by decide)
  | mul => exact fits.product 80 (by decide) (by decide)

/-- A printed operation with two operands. The right one is printed one tighter. -/
theorem NonAssociative.binary_fitsFormulas (mark : Nat) (op : NonAssociative) (left right : Formula)
    (context : Option Context) (options : Options)
    (first : FitsFormulas (fun outer => left.expr.print outer context {}) fun around before =>
      left.onto around before)
    (second : FitsFormulas (fun outer => right.expr.print outer context {})
      fun around before => right.onto around before) :
    FitsFormulas (fun outer => (Formula.binary mark op left right).expr.print outer context options)
      fun around before => (Formula.binary mark op left right).onto around before := by
  have printed : ∀ outer, (Formula.binary mark op left right).expr.print outer context options =
      enclosed op.compound.op.rank outer
        (left.expr.print op.compound.op.rank context {} ++ op.op.symbol ++ right.expr.print
          (op.compound.op.rank + 1) context {}) := by
    intro outer
    rw [Formula.expr, print_node (by simp [Node.handler?]) (by simp), String.append_assoc]
    cases op <;> rfl
  simp only [printed, Formula.onto]
  apply FitsFormulas.of_chain
  cases op with
  | sub =>
    have whole := first.sum 70 (by decide)
    have part := second.product 71 (by decide) (by decide)
    exact whole.between part (NonAssociative.separates .sub) fun _ _ resumes other =>
      resumes.operation rfl other.parses
  | div | mod =>
    have whole := first.product 80 (by decide) (by decide)
    have part := second.atom 81 (by decide) (by decide)
    exact whole.between part (NonAssociative.separates _) fun _ _ resumes other =>
      resumes.operation rfl other

mutual

/-- A printed formula fits where formulas are expected. -/
theorem Formula.fits (f : Formula) (context : Option Context) (options : Options) :
    FitsFormulas (fun outer => f.expr.print outer context options) fun around before =>
      f.onto around before := by
  cases f with
  | column mark c =>
    simp only [Formula.expr, c.print_expr, Formula.onto]
    exact .of_atom ⟨_, lexemes?_name c.plain c.unreserved, .name _⟩
  | compound mark op first rest =>
    have each := List.forall_mem_cons.mpr ⟨Formula.fits first context, Formula.allFit rest context⟩
    exact op.compound_fitsFormulas mark first rest context options each
  | binary mark op left right =>
    exact op.binary_fitsFormulas mark left right context options (Formula.fits left context {})
      (Formula.fits right context {})

theorem Formula.allFit (rest : List Formula) (context : Option Context) :
    ∀ f ∈ rest, ∀ options, FitsFormulas (fun outer => f.expr.print outer context options)
      fun around before => f.onto around before := by
  cases rest with
  | nil => exact fun f member => by cases member
  | cons first rest =>
    exact List.forall_mem_cons.mpr ⟨Formula.fits first context, Formula.allFit rest context⟩

end

/-! ## What the tree evaluates to -/

mutual

/-- A quotient or a remainder stands in the text of the formula, where it is a factor, without
parentheses. -/
def Formula.opensQuotient : Formula → Bool
  | .compound _ .mul first rest => first.opensQuotient || Formula.anyOpensQuotient rest
  | .binary _ .div _ _ | .binary _ .mod _ _ => true
  | _ => false

def Formula.anyOpensQuotient : List Formula → Bool
  | [] => false
  | f :: rest => f.opensQuotient || Formula.anyOpensQuotient rest

end

mutual

/-- Nowhere in the formula does a quotient or a remainder stand without parentheses behind another
factor. -/
def Formula.sheltersQuotients : Formula → Bool
  | .column .. => true
  | .compound _ .add first rest => first.sheltersQuotients && Formula.allShelterQuotients rest
  | .compound _ .mul first rest =>
    first.sheltersQuotients && Formula.allShelterQuotients rest && !Formula.anyOpensQuotient rest
  | .binary _ _ left right => left.sheltersQuotients && right.sheltersQuotients

def Formula.allShelterQuotients : List Formula → Bool
  | [] => true
  | f :: rest => f.sheltersQuotients && Formula.allShelterQuotients rest

end

namespace Arithmetic

def combine : Arithmetic → Int → Int → Int
  | .add, a, b => a + b
  | .mul, a, b => a * b

/-- What an operator makes of no number. -/
def unit : Arithmetic → Int
  | .add => 0
  | .mul => 1

theorem unit_combine (op : Arithmetic) (a : Int) : op.combine op.unit a = a := by
  cases op with
  | add => exact Int.zero_add a
  | mul => exact Int.one_mul a

theorem combine_assoc (op : Arithmetic) (a b c : Int) :
    op.combine (op.combine a b) c = op.combine a (op.combine b c) := by
  cases op with
  | add => exact Int.add_assoc a b c
  | mul => exact Int.mul_assoc a b c

theorem total_cons (op : Arithmetic) (value : Int) (values : List Int) :
    op.total (value :: values) = op.combine value (op.total values) := by
  cases op <;> rfl

def combine? (op : Arithmetic) (before value : Option Int) : Option Int :=
  before.bind fun a => value.map (op.combine a)

theorem unit_combine? (op : Arithmetic) (value : Option Int) :
    op.combine? (some op.unit) value = value := by
  have identity : op.combine op.unit = id := funext op.unit_combine
  rw [combine?, Option.bind_some, identity, Option.map_id]
  rfl

theorem combine?_assoc (op : Arithmetic) (a b c : Option Int) :
    op.combine? (op.combine? a b) c = op.combine? a (op.combine? b c) := by
  cases a <;> cases b <;> cases c <;> first
    | rfl
    | exact congrArg some (op.combine_assoc _ _ _)

/-- What was read before has this value. Where nothing was, it is that of no number. -/
def Carries (op : Arithmetic) (numbers : String → Int) (carried : Option Int) : Option Tree → Prop
  | none => carried = some op.unit
  | some left => left.eval numbers = carried.map .number

variable {numbers : String → Int} {op around : Arithmetic} {before : Option Tree}
    {carried value : Option Int}

theorem carries_none (op : Arithmetic) (numbers : String → Int) :
    op.Carries numbers (some op.unit) none := rfl

theorem eval_join {tree : Tree} (carries : around.Carries numbers carried before)
    (alone : tree.eval numbers = value.map .number) :
    (around.operator.join before tree).eval numbers =
      (around.combine? carried value).map .number := by
  cases before with
  | none =>
    have unit : carried = some around.unit := carries
    rw [unit, around.unit_combine?]
    exact alone
  | some left =>
    have begun : left.eval numbers = carried.map .number := carries
    rw [Operator.join, Tree.eval, begun, alone]
    cases carried <;> cases value <;> cases around <;> rfl

theorem eval_splice {onto : Option Tree → Tree} (carries : around.Carries numbers carried before)
    (alone : (onto none).eval numbers = value.map .number)
    (gone : op = around → (onto before).eval numbers =
      (around.combine? carried value).map .number) :
    (splice onto before op around).eval numbers = (around.combine? carried value).map .number := by
  cases op <;> cases around
  case add.add | mul.mul => exact gone rfl
  all_goals exact eval_join carries alone

end Arithmetic

theorem NonAssociative.apply_numbers (op : NonAssociative) (a b : Int) :
    op.operator.apply (.number a) (.number b) = (op.apply a b).map .number := by
  cases op with
  | sub => rfl
  | div | mod =>
    simp only [operator, Operator.apply, apply]
    split <;> rfl

/-- A difference behind a summand is the difference of a sum; a quotient is not the quotient of a
product, unless the factor before it is one. -/
theorem NonAssociative.apply_combine (op : NonAssociative) {a : Int}
    (fits : op.compound = .add ∨ a = 1) (b c : Int) :
    op.apply (op.compound.combine a b) c = (op.apply b c).map (op.compound.combine a) := by
  cases op with
  | sub => exact congrArg some (Int.add_sub_assoc a b c)
  | div | mod =>
    rcases fits with sum | rfl
    · cases sum
    · have identity : Arithmetic.mul.combine 1 = id := funext Int.one_mul
      simp only [compound, identity, Option.map_id, id]

/-- Where nothing was read before a quotient, what is carried to it is one. -/
theorem NonAssociative.fits_of_carries {numbers : String → Int} (op : NonAssociative)
    {before : Option Tree} {carried : Option Int}
    (carries : op.compound.Carries numbers carried before)
    (closed : before = none ∨ op.compound = .add) :
    ∀ a, carried = some a → op.compound = .add ∨ a = 1 := by
  rintro a rfl
  rcases closed with rfl | sum
  · have unit : a = op.compound.unit := Option.some.inj carries
    cases op with
    | sub => exact .inl rfl
    | div | mod => exact .inr unit
  · exact .inl sum

/-- What the operation of two parts has as its value, the first of them read behind what was read
before. -/
theorem NonAssociative.eval_operation {numbers : String → Int} (op : NonAssociative)
    {first second : Tree} {carried left right : Option Int}
    (former : first.eval numbers = (op.compound.combine? carried left).map .number)
    (latter : second.eval numbers = right.map .number)
    (fits : ∀ a, carried = some a → op.compound = .add ∨ a = 1) :
    (Tree.operation op.operator first second).eval numbers = (op.compound.combine? carried
      (left.bind fun b => right.bind fun c => op.apply b c)).map .number := by
  rw [Tree.eval, former, latter]
  cases known : carried with
  | none => rfl
  | some a =>
    cases left with
    | none => rfl
    | some b =>
      cases right with
      | none => rfl
      | some c =>
        have applied := op.apply_combine (fits a known) b c
        have evaluated := op.apply_numbers (op.compound.combine a b) c
        rw [applied] at evaluated
        exact evaluated

theorem Formula.value_compound (numbers : String → Int) (mark : Nat) (op : Arithmetic)
    (first : Formula) (rest : List Formula) : (Formula.compound mark op first rest).value numbers =
      op.combine? (first.value numbers) ((Formula.values numbers rest).map op.total) := by
  rw [Formula.value]
  cases first.value numbers <;> cases Formula.values numbers rest <;> first
    | rfl
    | exact congrArg some (op.total_cons _ _)

theorem Formula.values_cons (numbers : String → Int) (op : Arithmetic) (f : Formula)
    (rest : List Formula) :
    (Formula.values numbers (f :: rest)).map op.total =
      op.combine? (f.value numbers) ((Formula.values numbers rest).map op.total) := by
  rw [Formula.values]
  cases f.value numbers <;> cases Formula.values numbers rest <;> first
    | rfl
    | exact congrArg some (op.total_cons _ _)

theorem Formula.shelters_compound {mark : Nat} {op : Arithmetic} {first : Formula}
    {rest : List Formula}
    (shelters : (Formula.compound mark op first rest).sheltersQuotients = true) :
    first.sheltersQuotients = true ∧ Formula.allShelterQuotients rest = true ∧
      (op = .add ∨ Formula.anyOpensQuotient rest = false) := by
  cases op with
  | add =>
    rw [Formula.sheltersQuotients, Bool.and_eq_true] at shelters
    exact ⟨shelters.1, shelters.2, .inl rfl⟩
  | mul =>
    rw [Formula.sheltersQuotients, Bool.and_eq_true, Bool.and_eq_true,
      Bool.not_eq_true'] at shelters
    exact ⟨shelters.1.1, shelters.1.2, .inr shelters.2⟩

mutual

/-- What is read of a formula behind what was read before has the value of both, unless a quotient
of the formula is read as one of all that was read before. -/
theorem Formula.eval_onto (numbers : String → Int) (f : Formula)
    (shelters : f.sheltersQuotients = true) (around : Arithmetic) {before : Option Tree}
    {carried : Option Int} (carries : around.Carries numbers carried before)
    (closed : before = none ∨ around = .add ∨ f.opensQuotient = false) :
    (f.onto around before).eval numbers =
      (around.combine? carried (f.value numbers)).map .number := by
  cases f with
  | column mark c => exact Arithmetic.eval_join carries rfl
  | compound mark op first rest =>
    obtain ⟨firstShelters, restShelter, restClosed⟩ := Formula.shelters_compound shelters
    have chain : ∀ {before : Option Tree} {carried : Option Int},
        op.Carries numbers carried before →
        (before = none ∨ op = .add ∨ (Formula.compound mark op first rest).opensQuotient = false) →
        (Formula.ontoAll op (first.onto op before) rest).eval numbers =
          (op.combine? carried ((Formula.compound mark op first rest).value numbers)).map
            .number := by
      intro before carried carries closed
      have firstClosed : before = none ∨ op = .add ∨ first.opensQuotient = false := by
        refine closed.imp_right fun closed => ?_
        cases op with
        | add => exact .inl rfl
        | mul =>
          refine closed.imp_right fun closed => ?_
          rw [Formula.opensQuotient, Bool.or_eq_false_iff] at closed
          exact closed.1
      have begun := Formula.eval_onto numbers first firstShelters op carries firstClosed
      rw [Formula.value_compound, ← op.combine?_assoc]
      exact Formula.eval_ontoAll numbers rest restShelter op restClosed begun
    have alone := chain (op.carries_none numbers) (.inl rfl)
    rw [op.unit_combine?] at alone
    refine Arithmetic.eval_splice carries alone fun same => ?_
    subst same
    exact chain carries closed
  | binary mark op left right =>
    rw [Formula.sheltersQuotients, Bool.and_eq_true] at shelters
    have second : (right.onto .mul none).eval numbers = (right.value numbers).map .number := by
      have alone := Formula.eval_onto numbers right shelters.2 .mul
        (Arithmetic.mul.carries_none numbers) (.inl rfl)
      rwa [Arithmetic.unit_combine?] at alone
    have chain : ∀ {before : Option Tree} {carried : Option Int},
        op.compound.Carries numbers carried before →
        (before = none ∨ op.compound = .add) →
        (Tree.operation op.operator (left.onto op.compound before) (right.onto .mul none)).eval
          numbers = (op.compound.combine? carried
            ((Formula.binary mark op left right).value numbers)).map .number := by
      intro before carried carries closed
      have first := Formula.eval_onto numbers left shelters.1 op.compound carries
        (closed.imp_right .inl)
      exact op.eval_operation first second (op.fits_of_carries carries closed)
    have alone := chain (op.compound.carries_none numbers) (.inl rfl)
    rw [Arithmetic.unit_combine?] at alone
    refine Arithmetic.eval_splice carries alone fun same => ?_
    subst same
    refine chain carries (closed.imp_right fun closed => ?_)
    cases op with
    | sub => rfl
    | div | mod => exact closed.resolve_right nofun

theorem Formula.eval_ontoAll (numbers : String → Int) (rest : List Formula)
    (shelters : Formula.allShelterQuotients rest = true) (around : Arithmetic)
    (closed : around = .add ∨ Formula.anyOpensQuotient rest = false) {left : Tree}
    {carried : Option Int} (begun : left.eval numbers = carried.map .number) :
    (Formula.ontoAll around left rest).eval numbers =
      (around.combine? carried ((Formula.values numbers rest).map around.total)).map .number := by
  cases rest with
  | nil =>
    have identity : ∀ a, around.combine a (around.total []) = a := by
      intro a
      cases around with
      | add => exact Int.add_zero a
      | mul => exact Int.mul_one a
    rw [Formula.ontoAll, begun]
    cases carried with
    | none => rfl
    | some a => exact congrArg (fun n => some (Outcome.number n)) (identity a).symm
  | cons f rest =>
    rw [Formula.allShelterQuotients, Bool.and_eq_true] at shelters
    have each : around = .add ∨ f.opensQuotient = false ∧
        Formula.anyOpensQuotient rest = false := by
      refine closed.imp_right fun closed => ?_
      rwa [Formula.anyOpensQuotient, Bool.or_eq_false_iff] at closed
    have carries : around.Carries numbers carried (some left) := begun
    have next := Formula.eval_onto numbers f shelters.1 around carries
      (.inr (each.imp_right And.left))
    rw [Formula.ontoAll, Formula.values_cons, ← around.combine?_assoc]
    exact Formula.eval_ontoAll numbers rest shelters.2 around (each.imp_right And.right) next

end

theorem Formula.eval_tree (numbers : String → Int) (f : Formula)
    (shelters : f.sheltersQuotients = true) :
    f.tree.eval numbers = (f.value numbers).map .number := by
  have alone := f.eval_onto numbers shelters .add (Arithmetic.add.carries_none numbers) (.inl rfl)
  rwa [Arithmetic.unit_combine?] at alone

/-! ## As rendered -/

mutual

theorem Formula.expr_isKnown (f : Formula) : f.expr.isKnown := by
  cases f with
  | column mark c => rfl
  | compound mark op first rest =>
    simp only [Formula.expr, Expr.isKnown, Node.isKnown, Expr.allKnown, Formula.expr_isKnown first,
      Formula.exprs_allKnown rest, Bool.and_self]
  | binary mark op left right =>
    simp only [Formula.expr, Expr.isKnown, Node.isKnown, Formula.expr_isKnown left,
      Formula.expr_isKnown right, Bool.and_self]

theorem Formula.exprs_allKnown (rest : List Formula) : Expr.allKnown (Formula.exprs rest) := by
  cases rest with
  | nil => rfl
  | cons first rest =>
    simp only [Formula.exprs, Expr.allKnown, Formula.expr_isKnown first,
      Formula.exprs_allKnown rest, Bool.and_self]

end

theorem Formula.read_print (f : Formula) (context : Option Context) (options : Options) :
    read (f.expr.print 0 context options) = some f.tree := by
  have chain : Lexed (Resumes .add · (f.onto .add)) (f.expr.print 0 context options) :=
    (f.fits context options).sum 0 (by decide)
  have phrase : Lexed (Parses .or · f.tree) (f.expr.print 0 context options) :=
    chain.mono fun _ resumes => resumes.parses.of_tighter (by decide)
  exact phrase.read_eq

/-- The text that a default compiler gives for a formula, with all options and from every state with
no operator around, is read as the tree of the formula. Where no quotient or remainder stands
without parentheses behind another factor, that tree has the value of the formula for all numbers,
and none exactly if a divisor is zero. -/
theorem rendered_formula_is_read (f : Formula) (options : Options) (pass : Pass) :
    ∃ text, (((Hierarchy.standard id).effective 0).compile options f.expr
      { pass with precedence := 0 }).1 =
        .ok text ∧
      read text = some f.tree ∧
      (f.sheltersQuotients = true →
        ∀ numbers, f.tree.eval numbers = (f.value numbers).map .number) := by
  have compiled := standard_compile_eq_print f.expr_isKnown options { pass with precedence := 0 }
  have parsed := f.read_print pass.context options
  refine ⟨f.expr.print 0 pass.context options, ?_, parsed,
    fun shelters numbers => f.eval_tree numbers shelters⟩
  rw [compiled]

namespace Formula

def a : Formula := .column 0 .a

def b : Formula := .column 0 .b

def c : Formula := .column 0 .c

/-- A product taken off a quotient of a product, which begins with a remainder. -/
def sheltered : Formula :=
  .binary 0 .sub (.binary 0 .div (.compound 0 .mul a [.compound 0 .add b [.binary 0 .sub c a]]) b)
    (.compound 0 .mul (.binary 0 .mod b c) [a])

def scaledQuotient : Formula := .compound 0 .mul a [.binary 0 .div b c]

end Formula

example : Formula.sheltered.expr.print 0 none {} = "a*(b+c-a)/b-b%c*a" := by decide

/-- The tree has the value of the formula. -/
theorem sheltered_formula_is_read :
    Formula.sheltered.sheltersQuotients = true ∧
    ∃ text, (((Hierarchy.standard id).effective 0).compile {} Formula.sheltered.expr {}).1 =
      .ok text ∧
      ∃ tree, read text = some tree ∧
        tree.eval (fun name => if name = "b" then 7 else 3) = some (.number 0) := by
  obtain ⟨text, compiled, parsed, value⟩ := rendered_formula_is_read Formula.sheltered {} {}
  exact ⟨rfl, text, compiled, _, parsed, (value rfl _).trans rfl⟩

/-- The quotient comes without parentheses, so what is read is the quotient of the product. -/
theorem scaledQuotient_is_read_as_quotient :
    let numbers := fun name => if name = "b" then 1 else 2
    Formula.scaledQuotient.value numbers = some 0 ∧
    (((Hierarchy.standard id).effective 0).compile {} Formula.scaledQuotient.expr {}).1 =
    .ok "a*b/c" ∧
    ∃ tree, read "a*b/c" = some tree ∧ tree.eval numbers = some (.number 1) := by
  have text : Formula.scaledQuotient.expr.print 0 none {} = "a*b/c" := by decide
  have compiled := standard_compile_eq_print Formula.scaledQuotient.expr_isKnown {} {}
  have parsed := Formula.scaledQuotient.read_print none {}
  rw [text] at parsed
  refine ⟨rfl, ?_, _, parsed, rfl⟩
  rw [compiled]
  exact congrArg Except.ok text

end RowMapper.Reading
