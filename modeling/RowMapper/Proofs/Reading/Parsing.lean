import RowMapper.Proofs.Reading.Grammar
/-!
How lexemes are read. A phrase of a level is read as a whole where no operator of the level or of a
tighter one follows; a phrase that is a chain of operands can also go on where one was begun. What
chains mean is put together by an associative operation, so it does not matter that the tree that is
read leans to the left.
-/

set_option autoImplicit false

namespace RowMapper.Reading

variable {α β : Type} {sort : α → Outcome} {level : Level}

/-- No operator of the level or of a tighter one follows. -/
def Level.EndsAt (level : Level) (rest : List Lexeme) : Prop :=
  ∀ op, rest.head? = some (.operator op) → op.level.depth < level.depth

theorem Level.EndsAt.tighter {rest : List Lexeme} (ends : level.EndsAt rest) :
    level.tighter.EndsAt rest := by
  intro op head
  have looser := ends op head
  cases level <;> simp only [Level.tighter, Level.depth] at looser ⊢ <;> omega

/-- An operator of a level ends the phrases of the next tighter one. -/
theorem endsAt_operator {op : Operator} (own : op.level = level) (rest : List Lexeme) :
    level.tighter.EndsAt (.operator op :: rest) := by
  intro other head
  cases head
  subst own
  cases op <;> simp only [Operator.level, Level.tighter, Level.depth] <;> omega

theorem endsAt_closing (rest : List Lexeme) : level.EndsAt (.closing :: rest) := by
  intro op head
  cases head

theorem endsAt_nil : level.EndsAt [] := by
  intro op head
  cases head

/-- What passes from each level to the next looser one passes to all looser ones. -/
theorem Level.of_tighter {P : Level → Prop}
    (loosen : ∀ level, level ≠ .atom → P level.tighter → P level) {looser : Level}
    (below : looser.depth ≤ level.depth) (holds : P level) : P looser := by
  by_cases same : looser = level
  · exact same ▸ holds
  · have composed : looser ≠ .atom := by
      rintro rfl
      cases level <;> contradiction
    have next : looser.tighter.depth = looser.depth + 1 := by
      cases looser <;> first | contradiction | rfl
    have apart : looser.depth ≠ level.depth := by
      cases looser <;> cases level <;> first | contradiction | simp [Level.depth]
    exact loosen looser composed
      (of_tighter loosen (show looser.tighter.depth ≤ level.depth by omega) holds)
termination_by level.depth - looser.depth
decreasing_by omega

/-! ## Steps of the reader -/

theorem extend_ends {rest : List Lexeme} (ends : level.EndsAt rest) (left : Tree) :
    extend level left rest = some (left, rest) := by
  cases rest with
  | nil => rw [extend]
  | cons lexeme rest =>
    have other : level.operator? lexeme = none := by
      cases lexeme with
      | operator op =>
        have apart : op.level ≠ level := by
          rintro rfl
          exact Nat.lt_irrefl _ (ends op rfl)
        simp only [Level.operator?, apart, ↓reduceIte]
      | _ => rfl
    rw [extend, other]

theorem extend_operator {op : Operator} (own : op.level = level) {left right : Tree}
    {rest others : List Lexeme} (parsed : parse level.tighter rest = some (right, others))
    (shorter : others.length < rest.length) :
    extend level left (.operator op :: rest) = extend level (.operation op left right) others := by
  have found : level.operator? (.operator op) = some op := by
    simp only [Level.operator?, own, ↓reduceIte]
  rw [extend]
  simp only [found, parsed, shorter, ↓reduceIte]

theorem parse_of_tighter (composed : level ≠ .atom) {input rest : List Lexeme} {first : Tree}
    (plain : level = .not → input.head? ≠ some .not)
    (parsed : parse level.tighter input = some (first, rest))
    (shorter : rest.length < input.length) : parse level input = extend level first rest := by
  have affirmed : ¬ (level = .not ∧ input.head? = some .not) := fun both => plain both.1 both.2
  rw [parse.eq_def, dif_neg composed, dif_neg affirmed]
  simp only [parsed, shorter, ↓reduceIte]

theorem length_lt_append {ls : List Lexeme} (some_ : ls ≠ []) (rest : List Lexeme) :
    rest.length < (ls ++ rest).length := by
  have positive := List.length_pos_iff.mpr some_
  rw [List.length_append]
  omega

/-! ## Phrases -/

/-- The lexemes are a phrase of the level with this meaning. -/
structure Reads (sort : α → Outcome) (level : Level) (ls : List Lexeme)
    (meaning : (String → Int) → α) :
    Prop where
  nonempty : ls ≠ []
  front : ls.head? = some .not → level.depth ≤ Level.not.depth
  parses : ∀ rest, level.EndsAt rest → ∃ tree, parse level (ls ++ rest) = some (tree, rest) ∧
    ∀ numbers, tree.eval numbers = some (sort (meaning numbers))

theorem reads_name (text : String) :
    Reads .number .atom [.name text] fun numbers => numbers text := by
  refine ⟨List.cons_ne_nil _ _, fun head => (by cases head),
    fun rest _ => ⟨.name text, ?_, fun _ => rfl⟩⟩
  rw [parse.eq_def, dif_pos rfl]
  rfl

namespace Reads

variable {ls : List Lexeme} {meaning : (String → Int) → α}

theorem head_append (reads : Reads sort level ls meaning) (rest : List Lexeme) :
    (ls ++ rest).head? = ls.head? := by
  obtain ⟨lexeme, tail, rfl⟩ := List.exists_cons_of_ne_nil reads.nonempty
  rfl

/-- A phrase of the next tighter level is one of this level. -/
theorem loosen (reads : Reads sort level.tighter ls meaning) (composed : level ≠ .atom) :
    Reads sort level ls meaning := by
  constructor
  case nonempty => exact reads.nonempty
  case front =>
    intro head
    have low := reads.front head
    cases level <;> simp only [Level.tighter, Level.depth] at low ⊢ <;> omega
  case parses =>
    intro rest ends
    obtain ⟨tree, parsed, value⟩ := reads.parses rest ends.tighter
    refine ⟨tree, ?_, value⟩
    have plain : level = .not → (ls ++ rest).head? ≠ some .not := by
      rintro rfl head
      rw [reads.head_append] at head
      exact absurd (reads.front head) (by decide)
    rw [parse_of_tighter composed plain parsed (length_lt_append reads.nonempty rest),
      extend_ends ends]

theorem enclosed (reads : Reads sort .or ls meaning) :
    Reads sort .atom (.opening :: (ls ++ [.closing])) meaning := by
  refine ⟨List.cons_ne_nil _ _, fun head => (by cases head), fun rest _ => ?_⟩
  obtain ⟨tree, parsed, value⟩ := reads.parses (.closing :: rest) (endsAt_closing rest)
  refine ⟨tree, ?_, value⟩
  rw [parse.eq_def, dif_pos rfl]
  simp only [List.cons_append, List.append_assoc, List.nil_append, parsed]

theorem negated {meaning : (String → Int) → Bool} (reads : Reads .truth .not ls meaning) :
    Reads .truth .not (.not :: ls) fun numbers => !meaning numbers := by
  refine ⟨List.cons_ne_nil _ _, fun _ => Nat.le_refl _, fun rest ends => ?_⟩
  obtain ⟨tree, parsed, value⟩ := reads.parses rest ends
  refine ⟨.not tree, ?_, fun numbers => by simp only [Tree.eval, value]⟩
  have negation : Level.not = .not ∧ (Lexeme.not :: ls ++ rest).head? = some .not := ⟨rfl, rfl⟩
  rw [parse.eq_def, dif_neg (by decide), dif_pos negation]
  simp only [List.cons_append, List.tail_cons, parsed]

/-- Two sums with a comparison between. -/
theorem compared {first second : List Lexeme} {left right : (String → Int) → Int}
    (reads : Reads .number .sum first left) (others : Reads .number .sum second right)
    (c : Comparison) :
    Reads .truth .compare (first ++ .operator (.compare c) :: second) fun numbers =>
      c.holds (left numbers) (right numbers) := by
  constructor
  case nonempty => exact List.append_ne_nil_of_left_ne_nil reads.nonempty _
  case front =>
    intro head
    rw [reads.head_append] at head
    exact absurd (reads.front head) (by decide)
  case parses =>
    intro rest ends
    have own : (Operator.compare c).level = .compare := rfl
    obtain ⟨a, begun, value⟩ := reads.parses _ (endsAt_operator own (second ++ rest))
    obtain ⟨b, ended, other⟩ := others.parses rest ends.tighter
    refine ⟨.operation (.compare c) a b, ?_, fun numbers => ?_⟩
    · rw [List.append_assoc, List.cons_append]
      have plain : Level.compare = .not →
          (first ++ .operator (.compare c) :: (second ++ rest)).head? ≠ some .not :=
        fun same => by cases same
      rw [parse_of_tighter (by decide) plain begun (length_lt_append reads.nonempty _),
        extend_operator own ended (length_lt_append others.nonempty rest), extend_ends ends]
    · simp only [Tree.eval, value, other]
      rfl

end Reads

/-! ## Chains of operands -/

/-- An associative operation, with the operator that is written for it. -/
structure Associative (α : Type) where
  sort : α → Outcome
  combine : α → α → α
  operator : Operator
  applies : ∀ a b, operator.apply (sort a) (sort b) = some (sort (combine a b))
  assoc : ∀ a b c, combine (combine a b) c = combine a (combine b c)

namespace Associative

def sum : Associative Int := ⟨.number, (· + ·), .add, fun _ _ => rfl, Int.add_assoc⟩

def product : Associative Int := ⟨.number, (· * ·), .mul, fun _ _ => rfl, Int.mul_assoc⟩

def conjunction : Associative Bool := ⟨.truth, (· && ·), .and, fun _ _ => rfl, Bool.and_assoc⟩

def disjunction : Associative Bool := ⟨.truth, (· || ·), .or, fun _ _ => rfl, Bool.or_assoc⟩

end Associative

theorem Operator.level_ne (op : Operator) : op.level ≠ .atom ∧ op.level ≠ .not := by
  cases op <;> exact ⟨nofun, nofun⟩

/-- The lexemes are operands of an operation with its operator between. A phrase of its level begins
with them, or goes on with them behind the operator. -/
structure Chain (k : Associative α) (ls : List Lexeme) (meaning : (String → Int) → α) : Prop where
  nonempty : ls ≠ []
  front : ls.head? = some .not → k.operator.level.depth ≤ Level.not.depth
  starts : ∀ rest, k.operator.level.tighter.EndsAt rest → ∃ tree,
    parse k.operator.level (ls ++ rest) = extend k.operator.level tree rest ∧
    ∀ numbers, tree.eval numbers = some (k.sort (meaning numbers))
  joins : ∀ left rest, k.operator.level.tighter.EndsAt rest → ∃ tree,
    extend k.operator.level left (.operator k.operator :: (ls ++ rest)) =
    extend k.operator.level tree rest ∧
    ∀ numbers a, left.eval numbers = some (k.sort a) →
      tree.eval numbers = some (k.sort (k.combine a (meaning numbers)))

namespace Chain

variable {k : Associative α} {ls others : List Lexeme} {meaning further : (String → Int) → α}

/-- A single operand. -/
theorem of_reads (reads : Reads k.sort k.operator.level.tighter ls meaning) :
    Chain k ls meaning := by
  have composed := k.operator.level_ne
  constructor
  case nonempty => exact reads.nonempty
  case front => exact (reads.loosen composed.1).front
  case starts =>
    intro rest ends
    obtain ⟨tree, parsed, value⟩ := reads.parses rest ends
    have shorter := length_lt_append reads.nonempty rest
    exact ⟨tree, parse_of_tighter composed.1 (fun same => absurd same composed.2) parsed shorter,
      value⟩
  case joins =>
    intro left rest ends
    obtain ⟨right, parsed, value⟩ := reads.parses rest ends
    refine ⟨.operation k.operator left right,
      extend_operator rfl parsed (length_lt_append reads.nonempty rest), ?_⟩
    intro numbers a begun
    simp only [Tree.eval, begun, value, Option.bind_eq_bind, Option.bind_some, k.applies]

theorem reads (chain : Chain k ls meaning) : Reads k.sort k.operator.level ls meaning := by
  refine ⟨chain.nonempty, chain.front, fun rest ends => ?_⟩
  obtain ⟨tree, parsed, value⟩ := chain.starts rest ends.tighter
  exact ⟨tree, parsed.trans (extend_ends ends tree), value⟩

/-- Two chains with the operator between. -/
theorem append (chain : Chain k ls meaning) (next : Chain k others further) :
    Chain k (ls ++ .operator k.operator :: others) fun numbers =>
      k.combine (meaning numbers) (further numbers) := by
  have split : ∀ rest, (ls ++ .operator k.operator :: others) ++ rest =
      ls ++ (.operator k.operator :: (others ++ rest)) := by
    intro rest
    rw [List.append_assoc, List.cons_append]
  constructor
  case nonempty => exact List.append_ne_nil_of_left_ne_nil chain.nonempty _
  case front =>
    rw [chain.reads.head_append]
    exact chain.front
  case starts =>
    intro rest ends
    obtain ⟨left, begun, value⟩ := chain.starts _ (endsAt_operator rfl (others ++ rest))
    obtain ⟨tree, gone, both⟩ := next.joins left rest ends
    exact ⟨tree, by rw [split, begun, gone], fun numbers => both numbers _ (value numbers)⟩
  case joins =>
    intro left rest ends
    obtain ⟨between, begun, value⟩ := chain.joins left _ (endsAt_operator rfl (others ++ rest))
    obtain ⟨tree, gone, both⟩ := next.joins between rest ends
    refine ⟨tree, by rw [split, begun, gone], fun numbers a known => ?_⟩
    rw [both numbers _ (value numbers a known), k.assoc]

/-- A product is taken off a sum. -/
theorem subtract {first second : List Lexeme} {left right : (String → Int) → Int}
    (chain : Chain .sum first left) (reads : Reads .number .product second right) :
    Chain .sum (first ++ .operator .sub :: second) fun numbers => left numbers - right numbers := by
  have own : Operator.sub.level = Level.sum := rfl
  have step : ∀ (tree other : Tree) (rest : List Lexeme),
      parse .product (second ++ rest) = some (other, rest) →
      extend .sum tree (.operator .sub :: (second ++ rest)) =
      extend .sum (.operation .sub tree other) rest :=
    fun tree other rest parsed => extend_operator own parsed (length_lt_append reads.nonempty rest)
  have split : ∀ rest, (first ++ .operator .sub :: second) ++ rest =
      first ++ (.operator .sub :: (second ++ rest)) := by
    intro rest
    rw [List.append_assoc, List.cons_append]
  constructor
  case nonempty => exact List.append_ne_nil_of_left_ne_nil chain.nonempty _
  case front =>
    rw [chain.reads.head_append]
    exact chain.front
  case starts =>
    intro rest ends
    obtain ⟨tree, begun, value⟩ := chain.starts _ (endsAt_operator own (second ++ rest))
    obtain ⟨other, parsed, less⟩ := reads.parses rest ends
    refine ⟨.operation .sub tree other, ?_, fun numbers => ?_⟩
    · rw [split]
      exact begun.trans (step tree other rest parsed)
    · simp only [Tree.eval, value, less]
      rfl
  case joins =>
    intro left rest ends
    obtain ⟨tree, begun, value⟩ := chain.joins left _ (endsAt_operator own (second ++ rest))
    obtain ⟨other, parsed, less⟩ := reads.parses rest ends
    refine ⟨.operation .sub tree other, ?_, fun numbers a known => ?_⟩
    · rw [split]
      exact begun.trans (step tree other rest parsed)
    · simp only [Tree.eval, value numbers a known, less]
      exact congrArg (fun n => some (Outcome.number n)) (Int.add_sub_assoc ..)

end Chain

end RowMapper.Reading
