import RowMapper.Proofs.Reading.Conditions
/-!
Which trees of comparisons and shifts have the same text. Operands that bind as tightly as their
operator come without parentheses on both sides, so a text keeps the operands and operators of a
chain in their order but not how they were grouped. Two trees have the same text exactly if they are
the same once all their chains lean to the left.
-/

set_option autoImplicit false

namespace RowMapper.Reading

/-- The operators of chains: comparisons, and shifts, which bind more tightly. -/
inductive Infix where
  | compare (c : Comparison) | like | shiftLeft | shiftRight
  deriving DecidableEq, Repr

namespace Infix

def op : Infix → BinaryOp
  | .compare c => c.op
  | .like => .like
  | .shiftLeft => .shiftLeft
  | .shiftRight => .shiftRight

def isShift : Infix → Bool
  | .compare _ | .like => false
  | .shiftLeft | .shiftRight => true

end Infix

/-- A tree of comparisons and shifts of columns. -/
inductive Relation where
  | column (mark : Nat) (c : PlainColumn)
  | binary (mark : Nat) (op : Infix) (left right : Relation)

/-- What is to be told apart of such a tree: its operators and the names of its columns. -/
inductive Shape where
  | name (text : String)
  | operation (op : Infix) (left right : Shape)
  deriving DecidableEq, Repr

def Relation.expr : Relation → Expr
  | .column mark c => .node mark (.column c.column)
  | .binary mark op left right => .node mark (.binary op.op left.expr right.expr)

def Relation.shape : Relation → Shape
  | .column _ c => .name c.column.name
  | .binary _ op left right => .operation op left.shape right.shape

namespace Shape

/-- An operation with what stands before, if anything does. -/
def behind : Option (Shape × Infix) → Shape → Shape
  | none, s => s
  | some (left, op), s => .operation op left s

/-- The shape behind what stands before it in a chain of shifts, or of comparisons. Where it is
itself a chain of that kind, all its operands are operands of the whole one. -/
def onto (shifts : Bool) (before : Option (Shape × Infix)) : Shape → Shape
  | .name text => behind before (.name text)
  | .operation op left right =>
    if op.isShift = shifts then right.onto shifts (some (left.onto shifts before, op))
    else behind before (right.onto op.isShift (some (left.onto op.isShift none, op)))

/-- The shape with all its chains leaning to the left. -/
def lean (s : Shape) : Shape := s.onto false none

/-- The shape is a chain of shifts, or of comparisons. -/
def isChain (shifts : Bool) : Shape → Bool
  | .name _ => false
  | .operation op _ _ => op.isShift == shifts

/-- No right operand binds as tightly as its operator. -/
def leansLeft : Shape → Bool
  | .name _ => true
  | .operation op left right => left.leansLeft && right.leansLeft && !right.isChain op.isShift

/-- The text of a shape where a precedence is in effect that is not above that of shifts. -/
def print (outer : Int) : Shape → String
  | .name text => text
  | .operation op left right =>
    enclosed op.op.rank outer (left.print op.op.rank ++ op.op.symbol ++ right.print op.op.rank)

end Shape

theorem Infix.rank_eq (op : Infix) : op.op.rank = if op.isShift then 60 else 50 := by
  cases op with
  | compare c => cases c <;> rfl
  | like | shiftLeft | shiftRight => rfl

theorem Relation.isNull_expr (t : Relation) : t.expr.isNull = false := by
  cases t <;> simp only [Relation.expr, Expr.isNull]

/-- A tree is printed by its shape. -/
theorem Relation.print_expr (t : Relation) {outer : Int} (loose : outer ≤ 1000)
    (context : Option Context) (options : Options) :
    t.expr.print outer context options = t.shape.print outer := by
  induction t generalizing outer options with
  | column mark c =>
    have bare : ¬ (1000 : Int) < outer := Int.not_lt.mpr loose
    rw [Relation.expr, c.print_expr, enclosed, if_neg bare]
    rfl
  | binary mark op left right first second =>
    have low : op.op.rank ≤ 1000 := by
      rw [op.rank_eq]
      split <;> decide
    have printed : Node.print context (.binary op.op left.expr right.expr) =
        left.expr.print op.op.rank context {} ++ op.op.symbol ++
          right.expr.print op.op.rank context {} := by
      cases op with
      | compare c =>
        cases c <;> simp only [Infix.op, Comparison.op, Node.print, right.isNull_expr,
          Bool.false_eq_true, ↓reduceIte, String.append_assoc]
      | like | shiftLeft | shiftRight => simp only [Infix.op, Node.print, String.append_assoc]
    rw [Relation.expr, print_node (by simp [Node.handler?]) (by simp), printed,
      first low, second low]
    rfl

/-! ## Chains that lean to the left -/

namespace Shape

/-- A shape that leans to the left stays as it is, unless it is an operand of a chain of its own
kind. -/
theorem onto_of_leansLeft {s : Shape} (leans : s.leansLeft = true) (shifts : Bool)
    (before : Option (Shape × Infix)) (apart : before = none ∨ s.isChain shifts = false) :
    s.onto shifts before = behind before s := by
  induction s generalizing shifts before with
  | name text => rfl
  | operation op left right first second =>
    rw [leansLeft, Bool.and_eq_true, Bool.and_eq_true, Bool.not_eq_true'] at leans
    obtain ⟨⟨leftLeans, rightLeans⟩, free⟩ := leans
    have alone : right.onto op.isShift (some (left.onto op.isShift none, op)) =
        .operation op left right := by
      rw [first leftLeans op.isShift none (.inl rfl), second rightLeans op.isShift _ (.inr free)]
      rfl
    rw [onto]
    split
    · rename_i own
      subst own
      have none_before : before = none := apart.resolve_right (by simp [isChain])
      rw [none_before, alone]
      rfl
    · rw [alone]

theorem lean_of_leansLeft {s : Shape} (leans : s.leansLeft = true) : s.lean = s :=
  onto_of_leansLeft leans false none (.inl rfl)

theorem onto_operation_none (op : Infix) (left right : Shape) (shifts : Bool) :
    (operation op left right).onto shifts none =
      right.onto op.isShift (some (left.onto op.isShift none, op)) := by
  rw [onto]
  split
  · rename_i own
    rw [own]
  · rfl

/-- Leaning a chain to the left does not change its text: in front of what the shape is printed as
stands what was before. -/
theorem print_onto (s : Shape) :
    (∀ shifts outer, (s.onto shifts none).print outer = s.print outer) ∧
    ∀ left op outer, (s.onto op.isShift (some (left, op))).print outer =
      enclosed op.op.rank outer (left.print op.op.rank ++ op.op.symbol ++ s.print op.op.rank) := by
  induction s with
  | name text => exact ⟨fun _ _ => rfl, fun _ _ _ => rfl⟩
  | operation other first second left right =>
    have alone : ∀ shifts outer, ((operation other first second).onto shifts none).print outer =
        (operation other first second).print outer := by
      intro shifts outer
      rw [onto_operation_none, right.2, left.1, print]
    refine ⟨alone, fun before op outer => ?_⟩
    by_cases own : other.isShift = op.isShift
    · have rank : other.op.rank = op.op.rank := by rw [other.rank_eq, op.rank_eq, own]
      have bare : ∀ text, enclosed op.op.rank op.op.rank text = text :=
        fun text => if_neg (Int.lt_irrefl _)
      rw [onto, if_pos own, ← own, right.2, own, left.2, print, rank, bare, bare]
      simp only [String.append_assoc]
    · rw [onto, if_neg own, ← onto_operation_none other first second false, behind, print, alone]

theorem print_lean (s : Shape) (outer : Int) : s.lean.print outer = s.print outer :=
  s.print_onto.1 false outer

end Shape

/-! ## Tokens -/

/-- The text begins and ends, with no character of a comparison. -/
structure Bounded (text : String) : Prop where
  front : text.toList.head?.any (!isComparisonChar ·)
  back : text.toList.getLast?.any (!isComparisonChar ·)

namespace Bounded

variable {text first second : String}

theorem of_head (bounded : Bounded text) {c : Char} (head : c ∈ text.toList.head?) :
    isComparisonChar c = false := by
  have front := bounded.front
  rwa [Option.mem_def.mp head, Option.any_some, Bool.not_eq_true'] at front

theorem of_last (bounded : Bounded text) {c : Char} (last : c ∈ text.toList.getLast?) :
    isComparisonChar c = false := by
  have back := bounded.back
  rwa [Option.mem_def.mp last, Option.any_some, Bool.not_eq_true'] at back

theorem nonempty (bounded : Bounded text) : text.toList ≠ [] := by
  intro empty
  have front := bounded.front
  rw [empty] at front
  cases front

theorem between (begun : Bounded first) (ended : Bounded second) (symbol : String) :
    Bounded (first ++ symbol ++ second) := by
  rw [String.append_assoc]
  constructor
  case front =>
    rw [String.toList_append, List.head?_append_of_ne_nil _ begun.nonempty]
    exact begun.front
  case back =>
    have rest : (symbol ++ second).toList ≠ [] := by
      rw [String.toList_append]
      exact List.append_ne_nil_of_right_ne_nil _ ended.nonempty
    rw [String.toList_append, List.getLast?_append_of_ne_nil _ rest, String.toList_append,
      List.getLast?_append_of_ne_nil _ ended.nonempty]
    exact ended.back

theorem enclosed (text : String) : Bounded ("(" ++ text ++ ")") :=
  between ⟨rfl, rfl⟩ ⟨rfl, rfl⟩ text

theorem name {name : String} (plain : Builtin.isPlainWord name) : Bounded name := by
  obtain ⟨c, rest, letters, -, words⟩ := isPlainWord_cases plain
  have apart : ∀ d ∈ c :: rest, (!isComparisonChar d) = true := by
    intro d member
    rw [Bool.not_eq_true', ← Bool.not_eq_true]
    intro comparison
    have word := words d member
    simp only [isComparisonChar, List.mem_cons, List.not_mem_nil, or_false, decide_eq_true_eq]
      at comparison
    rcases comparison with rfl | rfl | rfl | rfl <;> exact absurd word (by decide)
  constructor
  case front =>
    rw [letters]
    exact apart c List.mem_cons_self
  case back =>
    have last := List.getLast?_eq_some_getLast (List.cons_ne_nil c rest)
    rw [letters, last]
    exact apart _ (List.getLast_mem _)

end Bounded

inductive Token where
  | name (text : String)
  | operator (op : Infix)
  | opening | closing

namespace Token

/-- The tokens that are no names. -/
def symbols : List (List Char × Token) := [
  (['('], .opening), ([')'], .closing), (['='], .operator (.compare .eq)),
  (['!', '='], .operator (.compare .ne)), (['>'], .operator (.compare .gt)),
  (['>', '='], .operator (.compare .ge)), (['<'], .operator (.compare .lt)),
  (['<', '='], .operator (.compare .le)), (['<', '<'], .operator .shiftLeft),
  (['>', '>'], .operator .shiftRight), (['L', 'I', 'K', 'E'], .operator .like)]

/-- The token that characters without a blank make. -/
def ofChunk (chunk : List Char) : Token := (symbols.lookup chunk).getD (.name (String.ofList chunk))

def all (text : String) : List Token :=
  ((text.toList.splitBy joined).filter (· ≠ [' '])).map ofChunk

theorem all_append {front back : String}
    (apart : ∀ a ∈ front.toList.getLast?, ∀ b ∈ back.toList.head?, joined a b = false) :
    all (front ++ back) = all front ++ all back := by
  have parts : (front.toList ++ back.toList).splitBy joined =
      front.toList.splitBy joined ++ back.toList.splitBy joined := List.splitBy_append apart
  rw [all, String.toList_append, parts, List.filter_append, List.map_append]
  rfl

theorem all_symbol (op : Infix) : all op.op.symbol = [.operator op] := by
  cases op with
  | compare c => cases c <;> rfl
  | like | shiftLeft | shiftRight => rfl

theorem joined_of_unlike {a b : Char} (unlike : isComparisonChar a = false ∧ isWordChar b = false ∨
    isWordChar a = false ∧ isComparisonChar b = false) : joined a b = false := by
  rcases unlike with ⟨comparison, word⟩ | ⟨word, comparison⟩ <;> simp [joined, word, comparison]

/-- Symbols begin and end with no character of words, and are told apart from texts that begin and
end with no character of comparisons. -/
theorem all_between {first second : String} (op : Infix) (begun : Bounded first)
    (ended : Bounded second) :
    all (first ++ op.op.symbol ++ second) = all first ++ .operator op :: all second := by
  have edges : op.op.symbol.toList.head?.all (!isWordChar ·) ∧
      op.op.symbol.toList.getLast?.all (!isWordChar ·) ∧
      op.op.symbol.toList ≠ [] := by
    cases op with
    | compare c => cases c <;> decide
    | like | shiftLeft | shiftRight => decide
  obtain ⟨front, back, nonempty⟩ := edges
  rw [Option.all_eq_true] at front back
  have entering : ∀ a ∈ first.toList.getLast?, ∀ b ∈ op.op.symbol.toList.head?,
      joined a b = false := by
    intro a last b next
    have word : isWordChar b = false := by simpa using front b next
    exact joined_of_unlike (.inl ⟨begun.of_last last, word⟩)
  have leaving : ∀ a ∈ (first ++ op.op.symbol).toList.getLast?, ∀ b ∈ second.toList.head?,
      joined a b = false := by
    intro a last b next
    rw [String.toList_append, List.getLast?_append_of_ne_nil _ nonempty] at last
    have word : isWordChar a = false := by simpa using back a last
    exact joined_of_unlike (.inr ⟨word, ended.of_head next⟩)
  rw [all_append leaving, all_append entering, all_symbol, List.append_assoc, List.singleton_append]

theorem all_enclosed (text : String) :
    all ("(" ++ text ++ ")") = .opening :: (all text ++ [.closing]) := by
  have opening : ∀ a ∈ "(".toList.getLast?, ∀ b ∈ text.toList.head?, joined a b = false := by
    rintro a ⟨⟩ b -
    exact joined_of_isBreak (.inl rfl)
  have closing : ∀ a ∈ ("(" ++ text).toList.getLast?, ∀ b ∈ ")".toList.head?,
      joined a b = false := by
    rintro a - b ⟨⟩
    exact joined_of_isBreak (.inr rfl)
  rw [all_append closing, all_append opening]
  rfl

/-- No symbol is a plain word that is not reserved. -/
theorem ofChunk_name {name : String} (plain : Builtin.isPlainWord name)
    (unreserved : isReservedWord name = false) :
    ofChunk name.toList = .name name := by
  have words : ∀ entry ∈ symbols, Builtin.isPlainWord (String.ofList entry.1) = false ∨
      isReservedWord (String.ofList entry.1) = true := by decide
  have missing : symbols.lookup name.toList = none := by
    rw [List.lookup_eq_none_iff]
    intro entry member
    rw [bne_iff_ne]
    intro same
    have word := words entry member
    rw [← same, String.ofList_toList, plain, unreserved] at word
    simp at word
  rw [ofChunk, missing, Option.getD_none, String.ofList_toList]

theorem all_name {name : String} (plain : Builtin.isPlainWord name)
    (unreserved : isReservedWord name = false) :
    all name = [.name name] := by
  rw [all, parts_name plain, List.map_singleton, ofChunk_name plain unreserved]

end Token

/-! ## Reading -/

/-- The operations in a group that wait for their right operands: a comparison, and a shift in its
right operand. -/
structure Frame where
  comparison : Option (Shape × Infix) := none
  shift : Option (Shape × Infix) := none

/-- The group, if this operand is its last. -/
def Frame.whole (frame : Frame) (operand : Shape) : Shape :=
  Shape.behind frame.comparison (Shape.behind frame.shift operand)

/-- The group when an operator follows the operand. -/
def Frame.follow (frame : Frame) (operand : Shape) (op : Infix) : Frame :=
  if op.isShift then { frame with shift := some (Shape.behind frame.shift operand, op) }
  else { comparison := some (frame.whole operand, op) }

/-- A reader of texts: the operand read last, its group, and the groups around. -/
structure Reader where
  operand : Shape := .name ""
  frame : Frame := {}
  outer : List Frame := []

namespace Reader

def step (r : Reader) : Token → Reader
  | .name text => { r with operand := .name text }
  | .operator op => { r with frame := r.frame.follow r.operand op }
  | .opening => { r with frame := {}, outer := r.frame :: r.outer }
  | .closing => ⟨r.frame.whole r.operand, r.outer.headD {}, r.outer.tail⟩

def after (r : Reader) (text : String) : Reader := (Token.all text).foldl step r

end Reader

/-- The shape that a text is read as. -/
def readShape (text : String) : Shape :=
  let r := Reader.after {} text
  r.frame.whole r.operand

/-- The text can be read in a chain of shifts. What is read with it is a function of what stands
before it. -/
structure Shifted (text : String) (onto : Option (Shape × Infix) → Shape) : Prop where
  bounded : Bounded text
  reads : ∀ r : Reader, ∃ operand shift,
    r.after text = ⟨operand, { r.frame with shift }, r.outer⟩ ∧
    Shape.behind shift operand = onto r.frame.shift

/-- The text can be read in a chain of comparisons. What is read with it is a function of what
stands before it. -/
structure Compared (text : String) (onto : Option (Shape × Infix) → Shape) : Prop where
  bounded : Bounded text
  reads : ∀ r : Reader, r.frame.shift = none → ∃ operand frame,
    r.after text = ⟨operand, frame, r.outer⟩ ∧ frame.whole operand = onto r.frame.comparison

section Reads

variable {text first second : String} {onto further : Option (Shape × Infix) → Shape} {op : Infix}

theorem Reader.after_between (r : Reader) (begun : Bounded first) (ended : Bounded second)
    (op : Infix) :
    r.after (first ++ op.op.symbol ++ second) =
      ((r.after first).step (.operator op)).after second := by
  rw [after, Token.all_between op begun ended, List.foldl_append, List.foldl_cons]
  rfl

theorem Reader.after_enclosed (r : Reader) (text : String) :
    r.after ("(" ++ text ++ ")") = ((r.step .opening).after text).step .closing := by
  rw [after, Token.all_enclosed, List.foldl_cons, List.foldl_append]
  rfl

theorem Shifted.name {name : String} (plain : Builtin.isPlainWord name)
    (unreserved : isReservedWord name = false) :
    Shifted name (Shape.behind · (.name name)) := by
  refine ⟨.name plain, fun r => ⟨.name name, r.frame.shift, ?_, rfl⟩⟩
  rw [Reader.after, Token.all_name plain unreserved]
  rfl

theorem Shifted.between (isShift : op.isShift = true) (begun : Shifted first onto)
    (ended : Shifted second further) :
    Shifted (first ++ op.op.symbol ++ second) fun before => further (some (onto before, op)) := by
  refine ⟨begun.bounded.between ended.bounded _, fun r => ?_⟩
  obtain ⟨operand, shift, reached, read⟩ := begun.reads r
  have followed : (r.after first).step (.operator op) =
      ⟨operand, { r.frame with shift := some (onto r.frame.shift, op) }, r.outer⟩ := by
    rw [reached, ← read, Reader.step, Frame.follow, if_pos isShift]
  obtain ⟨last, waiting, ended', read'⟩ :=
    ended.reads ⟨operand, { r.frame with shift := _ }, r.outer⟩
  refine ⟨last, waiting, ?_, read'⟩
  rw [r.after_between begun.bounded ended.bounded, followed, ended']

theorem Compared.between (compares : op.isShift = false) (begun : Compared first onto)
    (ended : Compared second further) :
    Compared (first ++ op.op.symbol ++ second) fun before => further (some (onto before, op)) := by
  refine ⟨begun.bounded.between ended.bounded _, fun r idle => ?_⟩
  obtain ⟨operand, frame, reached, read⟩ := begun.reads r idle
  have followed : (r.after first).step (.operator op) =
      ⟨operand, { comparison := some (onto r.frame.comparison, op) }, r.outer⟩ := by
    rw [reached, ← read, Reader.step, Frame.follow, if_neg (Bool.eq_false_iff.mp compares)]
  obtain ⟨last, group, ended', read'⟩ := ended.reads ⟨operand, { comparison := _ }, r.outer⟩ rfl
  refine ⟨last, group, ?_, read'⟩
  rw [r.after_between begun.bounded ended.bounded, followed, ended']

/-- A chain of shifts is one operand of a comparison. -/
theorem Shifted.compared (shifted : Shifted text onto) :
    Compared text (Shape.behind · (onto none)) := by
  refine ⟨shifted.bounded, fun r idle => ?_⟩
  obtain ⟨operand, shift, reached, read⟩ := shifted.reads r
  refine ⟨operand, _, reached, ?_⟩
  rw [Frame.whole, read, idle]

/-- A chain of comparisons in parentheses is one operand of a shift. -/
theorem Compared.enclosed (compared : Compared text onto) :
    Shifted ("(" ++ text ++ ")") (Shape.behind · (onto none)) := by
  refine ⟨.enclosed text, fun r => ?_⟩
  obtain ⟨operand, frame, reached, read⟩ := compared.reads (r.step .opening) rfl
  have group : frame.whole operand = onto none := read
  refine ⟨onto none, r.frame.shift, ?_, rfl⟩
  rw [r.after_enclosed, reached, ← group]
  rfl

end Reads

/-- A printed shape can be read in every chain in which it is printed. -/
theorem Relation.reads (t : Relation) :
    (∀ outer ≤ 50, Compared (t.shape.print outer) (t.shape.onto false)) ∧
      Shifted (t.shape.print 60) (t.shape.onto true) := by
  induction t with
  | column mark c =>
    have shifted := Shifted.name c.plain c.unreserved
    exact ⟨fun _ _ => shifted.compared, shifted⟩
  | binary mark op left right first second =>
    have bare : ∀ outer : Int, outer ≤ op.op.rank →
        (Relation.binary mark op left right).shape.print outer =
        left.shape.print op.op.rank ++ op.op.symbol ++ right.shape.print op.op.rank :=
      fun outer low => if_neg (Int.not_lt.mpr low)
    -- a comparison is enclosed where it is an operand of a shift, a shift nowhere
    cases isShift : op.isShift with
    | true =>
      have rank : op.op.rank = 60 := by rw [op.rank_eq, if_pos isShift]
      have chain := first.2.between isShift second.2
      rw [rank] at bare
      constructor
      · intro outer low
        rw [bare outer (by omega)]
        have operand := chain.compared
        simpa only [shape, Shape.onto, isShift, Bool.true_eq_false, ↓reduceIte] using operand
      · rw [bare 60 (Int.le_refl _)]
        simpa only [shape, Shape.onto, isShift, ↓reduceIte] using chain
    | false =>
      have rank : op.op.rank = 50 := by rw [op.rank_eq, if_neg (Bool.eq_false_iff.mp isShift)]
      have chain := (first.1 50 (Int.le_refl _)).between isShift (second.1 50 (Int.le_refl _))
      rw [rank] at bare
      constructor
      · intro outer low
        rw [bare outer low]
        simpa only [shape, Shape.onto, isShift, ↓reduceIte] using chain
      · have grouped : (Relation.binary mark op left right).shape.print 60 =
            "(" ++ (left.shape.print 50 ++ op.op.symbol ++ right.shape.print 50) ++ ")" := by
          rw [shape, Shape.print, rank]
          rfl
        rw [grouped]
        simpa only [shape, Shape.onto, isShift, Bool.false_eq_true, ↓reduceIte] using chain.enclosed

/-- What is read of a printed shape is the shape with all its chains leaning to the left. -/
theorem Relation.readShape_print (t : Relation) : readShape (t.shape.print 0) = t.shape.lean := by
  obtain ⟨operand, frame, reached, read⟩ := (t.reads.1 0 (by decide)).reads {} rfl
  rw [readShape, reached]
  exact read

/-- Two shapes have the same text exactly if they are the same once all chains lean to the left. -/
theorem Relation.print_eq_iff (s t : Relation) :
    s.shape.print 0 = t.shape.print 0 ↔ s.shape.lean = t.shape.lean := by
  constructor
  · intro same
    rw [← s.readShape_print, ← t.readShape_print, same]
  · intro same
    rw [← s.shape.print_lean, ← t.shape.print_lean, same]

/-! ## As rendered -/

theorem Relation.expr_isKnown (t : Relation) : t.expr.isKnown := by
  induction t with
  | column mark c => rfl
  | binary mark op left right first second =>
    simp only [expr, Expr.isKnown, Node.isKnown, first, second, Bool.and_self]

/-- The text of a tree, with all options and from every state with no operator around. -/
theorem Relation.standard_compile (t : Relation) (options : Options) (pass : Pass) :
    (((Hierarchy.standard id).effective 0).compile options t.expr { pass with precedence := 0 }).1 =
      .ok (t.shape.print 0) := by
  have printed := t.print_expr (show (0 : Int) ≤ 1000 by decide) pass.context options
  rw [standard_compile_eq_print t.expr_isKnown]
  exact congrArg Except.ok printed

/-- A default compiler gives two trees texts, with all options and from every state with no operator
around. The texts are the same exactly if the trees are once all their chains lean to the left; so
they differ for different trees in which no right operand binds as tightly as its operator. -/
theorem same_text_iff_same_lean (s t : Relation) (options : Options) (pass : Pass) :
    ∃ text other,
      (((Hierarchy.standard id).effective 0).compile options s.expr
        { pass with precedence := 0 }).1 = .ok text ∧
      (((Hierarchy.standard id).effective 0).compile options t.expr
        { pass with precedence := 0 }).1 = .ok other ∧
      (text = other ↔ s.shape.lean = t.shape.lean) ∧
      (s.shape.leansLeft = true → t.shape.leansLeft = true → s.shape ≠ t.shape → text ≠ other) := by
  have told := s.print_eq_iff t
  refine ⟨_, _, s.standard_compile options pass, t.standard_compile options pass, told, ?_⟩
  intro left right different same
  have leant := told.mp same
  rw [Shape.lean_of_leansLeft left, Shape.lean_of_leansLeft right] at leant
  exact different leant

namespace Relation

def a : Relation := .column 0 .a

def b : Relation := .column 0 .b

def c : Relation := .column 0 .c

def leftward (op : Infix) : Relation := .binary 0 op (.binary 0 op a b) c

def rightward (op : Infix) : Relation := .binary 0 op a (.binary 0 op b c)

def comparedShift : Relation := .binary 0 (.compare .eq) a (.binary 0 .shiftLeft b c)

def shiftedComparison : Relation := .binary 0 .shiftLeft (.binary 0 (.compare .eq) a b) c

end Relation

/-- The texts are `a = b<<c` and `(a = b)<<c`. -/
theorem comparedShift_text_differs :
    Relation.comparedShift.shape.leansLeft = true ∧
      Relation.shiftedComparison.shape.leansLeft = true ∧
    Relation.comparedShift.shape ≠ Relation.shiftedComparison.shape ∧
    ∃ text other,
      (((Hierarchy.standard id).effective 0).compile {} Relation.comparedShift.expr {}).1 =
        .ok text ∧
      (((Hierarchy.standard id).effective 0).compile {} Relation.shiftedComparison.expr {}).1 =
        .ok other ∧
      text ≠ other := by
  have different : Relation.comparedShift.shape ≠ Relation.shiftedComparison.shape := by decide
  obtain ⟨text, other, compiled, compiled', -, told⟩ :=
    same_text_iff_same_lean Relation.comparedShift Relation.shiftedComparison {} {}
  exact ⟨rfl, rfl, different, text, other, compiled, compiled', told rfl rfl different⟩

/-- The right operand comes without parentheses, of comparisons as of shifts. -/
theorem rightward_text_is_leftward :
    (Relation.leftward (.compare .eq)).shape ≠ (Relation.rightward (.compare .eq)).shape ∧
    (((Hierarchy.standard id).effective 0).compile {}
      (Relation.leftward (.compare .eq)).expr {}).1 = .ok "a = b = c" ∧
    (((Hierarchy.standard id).effective 0).compile {}
      (Relation.rightward (.compare .eq)).expr {}).1 = .ok "a = b = c" ∧
    (Relation.leftward .shiftLeft).shape ≠ (Relation.rightward .shiftLeft).shape ∧
    (((Hierarchy.standard id).effective 0).compile {} (Relation.leftward .shiftLeft).expr {}).1 =
      .ok "a<<b<<c" ∧
    (((Hierarchy.standard id).effective 0).compile {} (Relation.rightward .shiftLeft).expr {}).1 =
      .ok "a<<b<<c" := by
  have compiled : ∀ {t : Relation} {text : String}, t.shape.print 0 = text →
      (((Hierarchy.standard id).effective 0).compile {} t.expr {}).1 = .ok text := by
    rintro t _ rfl
    exact t.standard_compile {} {}
  exact ⟨by decide, compiled rfl, compiled rfl, by decide, compiled rfl, compiled rfl⟩

end RowMapper.Reading
