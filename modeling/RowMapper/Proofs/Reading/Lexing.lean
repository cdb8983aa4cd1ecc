import RowMapper.Proofs.Reading.Parsing
import RowMapper.Proofs.Rendering.Printer
/-!
How texts are read. A blank, a parenthesis or a sign belongs to no lexeme beside it, so texts put
together with one of them between are read part by part: what holds of phrases as lexemes holds of
them as texts.
-/

set_option autoImplicit false

namespace RowMapper.Reading

/-- The character belongs to no lexeme with one beside it. -/
def isBreak (c : Char) : Bool := !isWordChar c && !isComparisonChar c

theorem joined_of_isBreak {a b : Char} (apart : isBreak a ∨ isBreak b) : joined a b = false := by
  simp only [isBreak, Bool.and_eq_true, Bool.not_eq_true'] at apart
  rcases apart with ⟨word, comparison⟩ | ⟨word, comparison⟩ <;> simp [joined, word, comparison]

theorem lexemes?_append {front back : List Char} {first second : List Lexeme}
    (begun : lexemes? front = some first) (ended : lexemes? back = some second)
    (apart : front.getLast?.all isBreak ∨ back.head?.all isBreak) :
    lexemes? (front ++ back) = some (first ++ second) := by
  have parts : (front ++ back).splitBy joined = front.splitBy joined ++ back.splitBy joined := by
    apply List.splitBy_append
    intro a last b next
    rw [Option.all_eq_true, Option.all_eq_true] at apart
    exact joined_of_isBreak (apart.imp (· a last) (· b next))
  rw [lexemes?] at begun ended ⊢
  rw [parts, List.filter_append, List.mapM_append, begun, ended]
  rfl

/-- The text makes one lexeme whatever stands beside it. -/
structure Separates (text : String) (lexeme : Lexeme) : Prop where
  reads : lexemes? text.toList = some [lexeme]
  front : text.toList.head?.all isBreak
  back : text.toList.getLast?.all isBreak

theorem lexemes?_between {first second between : String} {ls others : List Lexeme} {lexeme : Lexeme}
    (begun : lexemes? first.toList = some ls) (ended : lexemes? second.toList = some others)
    (separates : Separates between lexeme) :
    lexemes? (first ++ between ++ second).toList = some (ls ++ lexeme :: others) := by
  have nonempty : between.toList ≠ [] := by
    intro empty
    have read := separates.reads
    rw [empty] at read
    cases read
  have front := lexemes?_append begun separates.reads (Or.inr separates.front)
  have last : (first.toList ++ between.toList).getLast?.all isBreak := by
    rw [List.getLast?_append_of_ne_nil _ nonempty]
    exact separates.back
  rw [String.toList_append, String.toList_append, lexemes?_append front ended (Or.inl last),
    List.append_assoc, List.singleton_append]

theorem lexemes?_enclosed {text : String} {ls : List Lexeme}
    (read : lexemes? text.toList = some ls) :
    lexemes? ("(" ++ text ++ ")").toList = some (.opening :: (ls ++ [.closing])) := by
  have opening : lexemes? "(".toList = some [.opening] := rfl
  have closing : lexemes? ")".toList = some [.closing] := rfl
  have front := lexemes?_append opening read (Or.inl rfl)
  rw [String.toList_append, String.toList_append, lexemes?_append front closing (Or.inr rfl)]
  rfl

/-! ## Names -/

theorem isChain_joined {text : List Char} (words : ∀ c ∈ text, isWordChar c) :
    text.IsChain fun a b => joined a b := by
  induction text with
  | nil => exact .nil
  | cons a rest ih =>
    cases rest with
    | nil => exact .singleton a
    | cons b rest =>
      refine .cons_cons ?_ (ih fun c member => words c (List.mem_cons_of_mem a member))
      simp only [joined, words a List.mem_cons_self,
        words b (List.mem_cons_of_mem a List.mem_cons_self), Bool.and_self, Bool.true_or]

theorem lookup_symbols {c : Char} (letter : c.isAlpha) (rest : List Char) :
    symbols.lookup (c :: rest) = none := by
  have apart : ∀ entry ∈ symbols, entry.1.head?.all (!·.isAlpha) := by decide
  rw [List.lookup_eq_none_iff]
  intro entry member
  rw [bne_iff_ne]
  intro same
  have other := apart entry member
  rw [← same, List.head?_cons, Option.all_some, letter] at other
  cases other

theorem lookup_keywords {word : String} (unreserved : isReservedWord word = false) :
    keywords.lookup (Text.toLowerCase word) = none := by
  have reserved : ∀ entry ∈ keywords, entry.1 ∈ reservedWords := by decide
  rw [List.lookup_eq_none_iff]
  intro entry member
  rw [bne_iff_ne]
  intro same
  have listed : Text.toLowerCase word ∈ reservedWords := same ▸ reserved entry member
  simp only [isReservedWord, listed, decide_true] at unreserved
  cases unreserved

/-- A plain word begins with a letter, and its characters stand in one lexeme. -/
theorem isPlainWord_cases {name : String} (plain : Builtin.isPlainWord name) :
    ∃ c rest, name.toList = c :: rest ∧ c.isAlpha ∧ ∀ d ∈ c :: rest, isWordChar d := by
  rw [Builtin.isPlainWord] at plain
  cases letters : name.toList with
  | nil =>
    rw [letters] at plain
    cases plain
  | cons c rest =>
    rw [letters] at plain
    simp only [Bool.and_eq_true, List.all_eq_true, Bool.or_eq_true, decide_eq_true_eq] at plain
    obtain ⟨letter, others⟩ := plain
    refine ⟨c, rest, rfl, letter, List.forall_mem_cons.mpr ⟨?_, fun d later => ?_⟩⟩
    · simp [isWordChar, Char.isAlphanum, letter]
    · simpa [isWordChar] using others d later

/-- The only part of a plain word is the word. -/
theorem parts_name {name : String} (plain : Builtin.isPlainWord name) :
    (name.toList.splitBy joined).filter (· ≠ [' ']) = [name.toList] := by
  obtain ⟨c, rest, letters, letter, words⟩ := isPlainWord_cases plain
  have whole : (c :: rest).splitBy joined = [c :: rest] :=
    List.splitBy_of_isChain (List.cons_ne_nil c rest) (isChain_joined words)
  have kept : c :: rest ≠ [' '] := by
    intro blank
    cases blank
    exact absurd letter (by decide)
  rw [letters, whole]
  simp [kept]

/-- A plain word that is not reserved is read as the name that it is. -/
theorem lexemes?_name {name : String} (plain : Builtin.isPlainWord name)
    (unreserved : isReservedWord name = false) : lexemes? name.toList = some [.name name] := by
  obtain ⟨c, rest, letters, letter, -⟩ := isPlainWord_cases plain
  have lexeme : lexeme? name.toList = some (.name name) := by
    rw [lexeme?, letters, lookup_symbols letter, ← letters, String.ofList_toList,
      lookup_keywords unreserved]
    simp only [plain, ↓reduceIte]
  rw [lexemes?, parts_name plain]
  simp [lexeme]

/-! ## Phrases as texts -/

/-- The text is a phrase of the level with this meaning. -/
def Phrase {α : Type} (sort : α → Outcome) (level : Level) (text : String)
    (meaning : (String → Int) → α) :
    Prop :=
  ∃ ls, lexemes? text.toList = some ls ∧ Reads sort level ls meaning

/-- The text is a chain of operands of the operation, with this meaning. -/
def Series {α : Type} (k : Associative α) (text : String) (meaning : (String → Int) → α) : Prop :=
  ∃ ls, lexemes? text.toList = some ls ∧ Chain k ls meaning

variable {α : Type} {sort : α → Outcome} {level : Level} {text : String}
    {meaning : (String → Int) → α}

namespace Phrase

theorem name {name : String} (plain : Builtin.isPlainWord name)
    (unreserved : isReservedWord name = false) :
    Phrase .number .atom name fun numbers => numbers name :=
  ⟨_, lexemes?_name plain unreserved, reads_name name⟩

theorem loosen (phrase : Phrase sort level.tighter text meaning) (composed : level ≠ .atom) :
    Phrase sort level text meaning := by
  obtain ⟨ls, read, reads⟩ := phrase
  exact ⟨ls, read, reads.loosen composed⟩

/-- A phrase of a tighter level is one of a looser level. -/
theorem of_tighter {looser : Level} (phrase : Phrase sort level text meaning)
    (below : looser.depth ≤ level.depth) : Phrase sort looser text meaning :=
  Level.of_tighter (P := (Phrase sort · text meaning))
    (fun _ composed tighter => tighter.loosen composed) below
    phrase

theorem enclosed (phrase : Phrase sort .or text meaning) :
    Phrase sort .atom ("(" ++ text ++ ")") meaning := by
  obtain ⟨ls, read, reads⟩ := phrase
  exact ⟨_, lexemes?_enclosed read, reads.enclosed⟩

/-- With the parentheses that the precedence around asks for. -/
theorem of_enclosed {rank outer : Int} (phrase : Phrase sort .or text meaning)
    (bare : outer ≤ rank → Phrase sort level text meaning) :
    Phrase sort level (RowMapper.enclosed rank outer text) meaning := by
  by_cases high : rank < outer
  · have grouped : Phrase sort .atom (RowMapper.enclosed rank outer text) meaning := by
      rw [RowMapper.enclosed, if_pos high]
      exact phrase.enclosed
    exact grouped.of_tighter (by cases level <;> decide)
  · rw [RowMapper.enclosed, if_neg high]
    exact bare (Int.not_lt.mp high)

theorem negated {meaning : (String → Int) → Bool} (phrase : Phrase .truth .not text meaning) :
    Phrase .truth .not ("NOT" ++ " " ++ text) fun numbers => !meaning numbers := by
  obtain ⟨ls, read, reads⟩ := phrase
  have negation : lexemes? ("NOT" ++ " ").toList = some [.not] := rfl
  refine ⟨.not :: ls, ?_, reads.negated⟩
  rw [String.toList_append, lexemes?_append negation read (Or.inl rfl), List.singleton_append]

/-- Two sums with a comparison between. -/
theorem compared {first second between : String} {left right : (String → Int) → Int}
    (phrase : Phrase .number .sum first left) (other : Phrase .number .sum second right)
    (c : Comparison) (separates : Separates between (.operator (.compare c))) :
    Phrase .truth .compare (first ++ between ++ second) fun numbers =>
      c.holds (left numbers) (right numbers) := by
  obtain ⟨ls, read, reads⟩ := phrase
  obtain ⟨others, read', reads'⟩ := other
  exact ⟨_, lexemes?_between read read' separates, reads.compared reads' c⟩

end Phrase

namespace Series

variable {k : Associative α} {others : String} {further : (String → Int) → α}

theorem of_phrase (phrase : Phrase k.sort k.operator.level.tighter text meaning) :
    Series k text meaning := by
  obtain ⟨ls, read, reads⟩ := phrase
  exact ⟨ls, read, .of_reads reads⟩

theorem phrase (series : Series k text meaning) : Phrase k.sort k.operator.level text meaning := by
  obtain ⟨ls, read, chain⟩ := series
  exact ⟨ls, read, chain.reads⟩

/-- With the parentheses that the precedence around asks for. -/
theorem of_enclosed {rank outer : Int} (phrase : Phrase k.sort .or text meaning)
    (bare : outer ≤ rank → Series k text meaning) :
    Series k (enclosed rank outer text) meaning := by
  by_cases high : rank < outer
  · exact .of_phrase (.of_enclosed phrase fun low => absurd high (Int.not_lt.mpr low))
  · rw [enclosed, if_neg high]
    exact bare (Int.not_lt.mp high)

theorem append (series : Series k text meaning) (next : Series k others further) {between : String}
    (separates : Separates between (.operator k.operator)) :
    Series k (text ++ between ++ others) fun numbers =>
      k.combine (meaning numbers) (further numbers) := by
  obtain ⟨ls, read, chain⟩ := series
  obtain ⟨ls', read', chain'⟩ := next
  exact ⟨_, lexemes?_between read read' separates, chain.append chain'⟩

/-- A product is taken off a sum. -/
theorem subtract {first second between : String} {left right : (String → Int) → Int}
    (series : Series .sum first left) (other : Phrase .number .product second right)
    (separates : Separates between (.operator .sub)) :
    Series .sum (first ++ between ++ second) fun numbers => left numbers - right numbers := by
  obtain ⟨ls, read, chain⟩ := series
  obtain ⟨others, read', reads⟩ := other
  exact ⟨_, lexemes?_between read read' separates, chain.subtract reads⟩

end Series

/-- The text of a phrase means that it is read and evaluates so. -/
theorem Phrase.read_eq (phrase : Phrase sort .or text meaning) :
    ∃ tree, read text = some tree ∧
      ∀ numbers, tree.eval numbers = some (sort (meaning numbers)) := by
  obtain ⟨ls, lexed, reads⟩ := phrase
  obtain ⟨tree, parsed, value⟩ := reads.parses [] endsAt_nil
  rw [List.append_nil] at parsed
  refine ⟨tree, ?_, value⟩
  simp only [read, lexed, Option.bind_eq_bind, Option.bind_some, parsed]

end RowMapper.Reading
