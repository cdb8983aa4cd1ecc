import RowMapper.Proofs.Reading.Lexing
/-!
Which tree is read. Of a phrase one tree is read wherever it stands. Operands with operators of one
level between are not read apart: what is read of an operand that is such a chain itself, and stands
there without parentheses, leans on what was read before it.
-/

set_option autoImplicit false

namespace RowMapper.Reading

variable {level : Level} {ls others : List Lexeme} {tree other : Tree}

/-- The lexemes are a phrase of the level and no negation, and this tree is read of them. -/
structure Parses (level : Level) (ls : List Lexeme) (tree : Tree) : Prop where
  nonempty : ls ≠ []
  affirmed : ls.head? ≠ some .not
  parses : ∀ rest, level.EndsAt rest → parse level (ls ++ rest) = some (tree, rest)

theorem head?_append_of_ne_nil (nonempty : ls ≠ []) (rest : List Lexeme) :
    (ls ++ rest).head? = ls.head? := by
  obtain ⟨lexeme, tail, rfl⟩ := List.exists_cons_of_ne_nil nonempty
  rfl

namespace Parses

theorem name (text : String) : Parses .atom [.name text] (.name text) := by
  refine ⟨List.cons_ne_nil _ _, nofun, fun rest _ => ?_⟩
  rw [parse.eq_def, dif_pos rfl]
  rfl

/-- A phrase of the next tighter level is one of this level. -/
theorem loosen (parses : Parses level.tighter ls tree) (composed : level ≠ .atom) :
    Parses level ls tree := by
  refine ⟨parses.nonempty, parses.affirmed, fun rest ends => ?_⟩
  have plain : level = .not → (ls ++ rest).head? ≠ some .not := by
    intro _
    rw [head?_append_of_ne_nil parses.nonempty]
    exact parses.affirmed
  have parsed := parses.parses rest ends.tighter
  rw [parse_of_tighter composed plain parsed (length_lt_append parses.nonempty rest),
    extend_ends ends]

theorem of_tighter {looser : Level} (parses : Parses level ls tree)
    (below : looser.depth ≤ level.depth) :
    Parses looser ls tree :=
  Level.of_tighter (P := (Parses · ls tree)) (fun _ composed tighter => tighter.loosen composed)
    below parses

theorem enclosed (parses : Parses .or ls tree) :
    Parses .atom (.opening :: (ls ++ [.closing])) tree := by
  refine ⟨List.cons_ne_nil _ _, nofun, fun rest _ => ?_⟩
  have parsed := parses.parses (.closing :: rest) (endsAt_closing rest)
  rw [parse.eq_def, dif_pos rfl]
  simp only [List.cons_append, List.append_assoc, List.nil_append, parsed]

end Parses

/-! ## Chains -/

/-- The tree behind what was read before it in a chain of the operator, if anything was. -/
def Operator.join (op : Operator) : Option Tree → Tree → Tree
  | none, tree => tree
  | some left, tree => .operation op left tree

/-- Reads a phrase of the level of an operator, or goes on with one behind the operator. -/
def resume (op : Operator) : Option Tree → List Lexeme → Option (Tree × List Lexeme)
  | none, input => parse op.level input
  | some left, input => extend op.level left (.operator op :: input)

/-- The lexemes are operands of a chain of the operator. What is read with them is a function of
what was read before. -/
structure Resumes (op : Operator) (ls : List Lexeme) (onto : Option Tree → Tree) : Prop where
  nonempty : ls ≠ []
  affirmed : ls.head? ≠ some .not
  resumes : ∀ before rest, op.level.tighter.EndsAt rest →
    resume op before (ls ++ rest) = extend op.level (onto before) rest

namespace Resumes

variable {op : Operator} {onto further : Option Tree → Tree}

/-- A single operand. -/
theorem of_parses (parses : Parses op.level.tighter ls tree) : Resumes op ls (op.join · tree) := by
  refine ⟨parses.nonempty, parses.affirmed, fun before rest ends => ?_⟩
  have composed := op.level_ne
  have parsed := parses.parses rest ends
  have shorter := length_lt_append parses.nonempty rest
  cases before with
  | none => exact parse_of_tighter composed.1 (fun same => absurd same composed.2) parsed shorter
  | some left => exact extend_operator rfl parsed shorter

/-- A whole phrase. -/
theorem parses (resumes : Resumes op ls onto) : Parses op.level ls (onto none) := by
  refine ⟨resumes.nonempty, resumes.affirmed, fun rest ends => ?_⟩
  have started := resumes.resumes none rest ends.tighter
  exact started.trans (extend_ends ends _)

/-- The operands of two chains, with the operator between. -/
theorem append (resumes : Resumes op ls onto) (next : Resumes op others further) :
    Resumes op (ls ++ .operator op :: others) fun before => further (some (onto before)) := by
  refine ⟨List.append_ne_nil_of_left_ne_nil resumes.nonempty _, ?_, fun before rest ends => ?_⟩
  · rw [head?_append_of_ne_nil resumes.nonempty]
    exact resumes.affirmed
  · have begun := resumes.resumes before _ (endsAt_operator rfl (others ++ rest))
    have gone := next.resumes (some (onto before)) rest ends
    rw [List.append_assoc, List.cons_append]
    exact begun.trans gone

/-- An operand behind another operator of the level. -/
theorem operation {own : Operator} (level : own.level = op.level) (resumes : Resumes op ls onto)
    (parses : Parses op.level.tighter others other) :
    Resumes op (ls ++ .operator own :: others) fun before =>
      .operation own (onto before) other := by
  refine ⟨List.append_ne_nil_of_left_ne_nil resumes.nonempty _, ?_, fun before rest ends => ?_⟩
  · rw [head?_append_of_ne_nil resumes.nonempty]
    exact resumes.affirmed
  · have begun := resumes.resumes before _ (endsAt_operator level (others ++ rest))
    have parsed := parses.parses rest ends
    rw [List.append_assoc, List.cons_append, begun]
    exact extend_operator level parsed (length_lt_append parses.nonempty rest)

end Resumes

/-! ## Texts -/

/-- The text consists of lexemes with the property. -/
def Lexed (P : List Lexeme → Prop) (text : String) : Prop :=
  ∃ ls, lexemes? text.toList = some ls ∧ P ls

namespace Lexed

variable {P Q R : List Lexeme → Prop} {text first second symbol : String} {lexeme : Lexeme}

theorem mono (lexed : Lexed P text) (implies : ∀ ls, P ls → Q ls) : Lexed Q text := by
  obtain ⟨ls, read, holds⟩ := lexed
  exact ⟨ls, read, implies ls holds⟩

theorem enclosed (lexed : Lexed P text)
    (implies : ∀ ls, P ls → Q (.opening :: (ls ++ [.closing]))) :
    Lexed Q ("(" ++ text ++ ")") := by
  obtain ⟨ls, read, holds⟩ := lexed
  exact ⟨_, lexemes?_enclosed read, implies ls holds⟩

theorem between (lexed : Lexed P first) (next : Lexed Q second)
    (separates : Separates symbol lexeme)
    (implies : ∀ ls others, P ls → Q others → R (ls ++ lexeme :: others)) :
    Lexed R (first ++ symbol ++ second) := by
  obtain ⟨ls, read, holds⟩ := lexed
  obtain ⟨others, read', holds'⟩ := next
  exact ⟨_, lexemes?_between read read' separates, implies ls others holds holds'⟩

/-- Operands with the symbol of an operator between. -/
theorem intercalate {op : Operator} (separates : Separates symbol (.operator op)) {ι : Type}
    (text : ι → String) (onto : ι → Option Tree → Tree) (first : ι) (rest : List ι)
    (each : ∀ i ∈ first :: rest, Lexed (Resumes op · (onto i)) (text i)) :
    Lexed (Resumes op · fun before => rest.foldl (fun left i => onto i (some left))
      (onto first before)) (symbol.intercalate ((first :: rest).map text)) := by
  induction rest generalizing first with
  | nil =>
    have alone := each first List.mem_cons_self
    simpa only [List.map_cons, List.map_nil, String.intercalate_singleton, List.foldl_nil]
      using alone
  | cons second rest ih =>
    have begun := each first List.mem_cons_self
    have others := ih second fun i member => each i (List.mem_cons_of_mem first member)
    simp only [List.map_cons, String.intercalate_cons_cons] at others ⊢
    exact begun.between others separates fun _ _ => .append

theorem read_eq (lexed : Lexed (Parses .or · tree) text) : read text = some tree := by
  obtain ⟨ls, lexed, parses⟩ := lexed
  have parsed := parses.parses [] endsAt_nil
  rw [List.append_nil] at parsed
  simp only [read, lexed, Option.bind_eq_bind, Option.bind_some, parsed]

end Lexed

end RowMapper.Reading
