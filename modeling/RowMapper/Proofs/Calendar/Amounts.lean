import RowMapper.Proofs.Calendar.Tokens
import RowMapper.Proofs.Values.Digits
/-!
What is read as the amount of an interval: of the tokens without a colon, numbers in ASCII digits,
and the words that float readers know for infinity and for what is no number.
-/

set_option autoImplicit false

namespace RowMapper.Calendar.Interval

open Text (isDecimalDigit)
open Number (Digits readFixed readMagnitude)

/-- In small letters the token is a word for infinity or for what is no number. -/
def IsStrange (token : List Char) : Prop :=
  token.map Char.toLower ∈ ["inf".toList, "infinity".toList, "nan".toList]

instance (token : List Char) : Decidable (IsStrange token) := inferInstanceAs (Decidable (_ ∈ _))

/-- A number in ASCII digits, or a word that is read as one. -/
def IsAmount (token : List Char) : Prop := IsNumber Char.isDigit token ∨ IsStrange token

section

variable {token text : List Char}

theorem IsNumeral.sign {p : Char → Bool} {mark : List Char} (isNumeral : IsNumeral p text)
    (isSign : IsSign mark) (plain : ∀ c, p c → isDecimalDigit c) :
    sign (mark ++ text) = (mark, text) := by
  obtain ⟨c, rest, rfl, inside⟩ := isNumeral.cons
  exact sign_append isSign (plain c inside)

/-- An amount is a magnitude behind a sign, if there is one. -/
theorem readAmount_eq (text : List Char) :
    readAmount text = (readMagnitude (sign text).2).map (⟨decide ((sign text).1 = ['-']), ·⟩) := by
  have same : Number.splitSign text = (decide ((sign text).1 = ['-']), (sign text).2) := by
    unfold Number.splitSign
    split
    · rfl
    · rfl
    · simp [sign]
  rw [readAmount, same]

theorem toLower_of_not_isUpper {c : Char} (small : c.isUpper = false) : c.toLower = c := by
  have outside : ¬ (c.val ≥ 'A'.val ∧ c.val ≤ 'Z'.val) := of_decide_eq_false small
  exact dif_neg outside

/-- A capital letter is no digit, and no digit in small letters either. -/
theorem isDigit_of_isUpper {c : Char} (upper : c.isUpper) :
    isDecimalDigit c = false ∧ c.toLower.isDigit = false := by
  have inside : c.val ≥ 'A'.val ∧ c.val ≤ 'Z'.val := of_decide_eq_true upper
  have capital : 65 ≤ c.toNat ∧ c.toNat ≤ 90 := inside
  have letters : ∀ n ≤ 90, 65 ≤ n →
      isDecimalDigit (Char.ofNat n) = false ∧ (Char.ofNat n).toLower.isDigit = false := by decide
  have letter := letters c.toNat capital.2 capital.1
  rwa [Char.ofNat_toNat] at letter

theorem toLower_of_isDecimalDigit {c : Char} (digit : isDecimalDigit c) : c.toLower = c := by
  apply toLower_of_not_isUpper
  by_contra upper
  rw [(isDigit_of_isUpper (by simpa using upper)).1] at digit
  cases digit

theorem isDigit_of_isDigit_toLower {c : Char} (digit : c.toLower.isDigit) : c.isDigit := by
  by_cases upper : c.isUpper
  · rw [(isDigit_of_isUpper upper).2] at digit
    cases digit
  · rwa [toLower_of_not_isUpper (by simpa using upper)] at digit

theorem exists_digit_of_readFixed {read : Nat × Nat} (reads : readFixed text = some read) :
    ∃ c ∈ text, c.isDigit := by
  unfold readFixed at reads
  cases cuts : Text.cut '.' text with
  | none =>
    rw [cuts] at reads
    obtain ⟨n, digits, -⟩ := Option.map_eq_some_iff.mp reads
    obtain ⟨⟨nonempty, digits⟩, -⟩ := Number.readDigits_eq_some_iff.mp digits
    exact ⟨_, List.head_mem nonempty, digits _ (List.head_mem nonempty)⟩
  | some parts =>
    rw [cuts] at reads
    obtain ⟨rfl, -⟩ := Text.cut_eq_some_iff.mp cuts
    obtain ⟨n, digits, -⟩ := Option.map_eq_some_iff.mp reads
    obtain ⟨⟨nonempty, digits⟩, -⟩ := Number.readDigits_eq_some_iff.mp digits
    refine ⟨_, ?_, digits _ (List.head_mem nonempty)⟩
    have isMember := List.head_mem nonempty
    simp only [List.mem_append, List.mem_cons] at isMember ⊢
    exact isMember.imp_right .inr

/-- What is read as a magnitude and is no word has digits in front of its exponent, or
everywhere. -/
theorem mantissa_of_readMagnitude {size : Float} (reads : readMagnitude text = some size)
    (ordinary : ¬ IsStrange text) :
    ∃ mantissa read, readFixed mantissa = some read ∧
      (mantissa = text ∨ ∃ exponent, text.map Char.toLower = mantissa ++ 'e' :: exponent) := by
  have inf : text.map Char.toLower ≠ ['i', 'n', 'f'] :=
    fun same => ordinary (by simp [IsStrange, same])
  have infinity : text.map Char.toLower ≠ ['i', 'n', 'f', 'i', 'n', 'i', 't', 'y'] :=
    fun same => ordinary (by simp [IsStrange, same])
  have nan : text.map Char.toLower ≠ ['n', 'a', 'n'] :=
    fun same => ordinary (by simp [IsStrange, same])
  simp only [readMagnitude, inf, infinity, nan, decide_false, Bool.or_self, Bool.false_eq_true,
    if_false] at reads
  cases cuts : Text.cut 'e' (text.map Char.toLower) with
  | none =>
    rw [cuts] at reads
    cases fixed : readFixed text with
    | none => simp [fixed] at reads
    | some read => exact ⟨text, read, fixed, .inl rfl⟩
  | some parts =>
    rw [cuts] at reads
    cases fixed : readFixed parts.1 with
    | none => simp [fixed] at reads
    | some read => exact ⟨parts.1, read, fixed, .inr ⟨parts.2, (Text.cut_eq_some_iff.mp cuts).1⟩⟩

/-- A text without digits is a magnitude only if it is one of the words. -/
theorem isStrange_of_readMagnitude {size : Float} (reads : readMagnitude text = some size)
    (noDigit : ∀ c ∈ text, c.isDigit = false) : IsStrange text := by
  by_contra ordinary
  obtain ⟨mantissa, read, fixed, front⟩ := mantissa_of_readMagnitude reads ordinary
  obtain ⟨c, isMember, digit⟩ := exists_digit_of_readFixed fixed
  have inside : ∃ d ∈ text, d.isDigit := by
    rcases front with rfl | ⟨exponent, lower⟩
    · exact ⟨c, isMember, digit⟩
    · have isMember : c ∈ text.map Char.toLower := by
        rw [lower]
        exact List.mem_append_left _ isMember
      obtain ⟨d, inside, rfl⟩ := List.mem_map.mp isMember
      exact ⟨d, inside, isDigit_of_isDigit_toLower digit⟩
  obtain ⟨d, isMember, digit⟩ := inside
  rw [noDigit d isMember] at digit
  cases digit

theorem isNumeral_of_readFixed {read : Nat × Nat} (isNumeral : IsNumeral isDecimalDigit text)
    (reads : readFixed text = some read) : IsNumeral Char.isDigit text := by
  obtain @⟨digits, fraction, whole, places⟩ := isNumeral
  have noPoint : '.' ∉ digits := fun isMember => by cases whole.within _ isMember
  cases places with
  | none =>
    rw [List.append_nil, readFixed, Text.cut_eq_none_iff.mpr noPoint] at reads
    obtain ⟨n, ascii, -⟩ := Option.map_eq_some_iff.mp reads
    have ascii := (Number.readDigits_eq_some_iff.mp ascii).1
    exact .intro ⟨ascii.1, ascii.2⟩ .none
  | some behind =>
    obtain ⟨run⟩ := behind
    rw [readFixed, Text.cut_eq_some_iff.mpr ⟨rfl, noPoint⟩] at reads
    obtain ⟨n, ascii, -⟩ := Option.map_eq_some_iff.mp reads
    have ascii := (Number.readDigits_eq_some_iff.mp ascii).1.2
    exact .intro ⟨whole.nonempty, fun c isMember => ascii c (List.mem_append_left _ isMember)⟩
      (.some (.mark ⟨run.nonempty, fun c isMember => ascii c (List.mem_append_right _ isMember)⟩))

theorem IsNumeral.lower {p : Char → Bool} (isNumeral : IsNumeral p text)
    (plain : ∀ c, p c → isDecimalDigit c) :
    text.map Char.toLower = text := by
  refine (List.map_congr_left fun c isMember => ?_).trans (List.map_id text)
  rcases isNumeral.mem isMember with inside | rfl
  · exact toLower_of_isDecimalDigit (plain c inside)
  · rfl

theorem isNumeral_of_readMagnitude {size : Float} (isNumeral : IsNumeral isDecimalDigit text)
    (reads : readMagnitude text = some size) : IsNumeral Char.isDigit text := by
  have lower := isNumeral.lower fun _ => id
  have noI : 'i' ∉ text := isNumeral.not_mem rfl (by decide)
  have noN : 'n' ∉ text := isNumeral.not_mem rfl (by decide)
  have noE : 'e' ∉ text := isNumeral.not_mem rfl (by decide)
  have ordinary : ¬ IsStrange text := by
    intro strange
    rw [IsStrange, lower] at strange
    simp only [List.mem_cons, List.not_mem_nil, or_false] at strange
    rcases strange with rfl | rfl | rfl
    · exact noI (by decide)
    · exact noI (by decide)
    · exact noN (by decide)
  obtain ⟨mantissa, read, fixed, rfl | ⟨exponent, split⟩⟩ :=
    mantissa_of_readMagnitude reads ordinary
  · exact isNumeral_of_readFixed isNumeral fixed
  · rw [lower] at split
    exact (noE (by simp [split])).elim

/-- What is read as an amount is one. -/
theorem isAmount_of_readAmount {amount : Amount} (isToken : IsToken token) (colon : ':' ∉ token)
    (reads : readAmount token = some amount) : IsAmount token := by
  rw [readAmount_eq] at reads
  obtain ⟨size, reads, -⟩ := Option.map_eq_some_iff.mp reads
  cases isToken with
  | clock isClock => exact (colon isClock.colon).elim
  | number isNumber =>
    obtain @⟨mark, text, isSign, isNumeral⟩ := isNumber
    rw [isNumeral.sign isSign fun _ => id] at reads
    exact .inl (.intro isSign (isNumeral_of_readMagnitude isNumeral reads))
  | word isWord =>
    rw [isWord.sign] at reads
    have noDigit : ∀ c ∈ token, c.isDigit = false :=
      fun c isMember => isDigit_of_not_isDecimalDigit (isWord.noDigit isMember)
    exact .inr (isStrange_of_readMagnitude reads noDigit)

theorem exists_fixed (isNumeral : IsNumeral Char.isDigit text) :
    ∃ read, readFixed text = some read := by
  obtain @⟨digits, fraction, whole, places⟩ := isNumeral
  have noPoint : '.' ∉ digits := fun isMember => by cases whole.within _ isMember
  cases places with
  | none =>
    rw [List.append_nil, readFixed, Text.cut_eq_none_iff.mpr noPoint]
    have reads := Number.readDigits_eq_some_iff.mpr ⟨⟨whole.nonempty, whole.within⟩, rfl⟩
    exact ⟨_, Option.map_eq_some_iff.mpr ⟨_, reads, rfl⟩⟩
  | some behind =>
    obtain @⟨places, run⟩ := behind
    rw [readFixed, Text.cut_eq_some_iff.mpr ⟨rfl, noPoint⟩]
    have all : Digits (digits ++ places) := Digits.append whole.within run.within
    have reads := Number.readDigits_eq_some_iff.mpr
      ⟨⟨List.append_ne_nil_of_left_ne_nil whole.nonempty _, all⟩, rfl⟩
    exact ⟨_, Option.map_eq_some_iff.mpr ⟨_, reads, rfl⟩⟩

theorem exists_magnitude (isNumeral : IsNumeral Char.isDigit text) :
    ∃ size, readMagnitude text = some size := by
  have lower := isNumeral.lower fun _ => isDecimalDigit_of_isDigit
  have noE : 'e' ∉ text := isNumeral.not_mem rfl (by decide)
  obtain ⟨⟨digits, places⟩, fixed⟩ := exists_fixed isNumeral
  unfold readMagnitude
  dsimp only
  split_ifs
  · exact ⟨_, rfl⟩
  · exact ⟨_, rfl⟩
  · rw [lower, Text.cut_eq_none_iff.mpr noE]
    dsimp only
    rw [fixed]
    exact ⟨_, rfl⟩

theorem exists_magnitude_of_isStrange (isStrange : IsStrange text) :
    ∃ size, readMagnitude text = some size := by
  simp only [IsStrange, List.mem_cons, List.not_mem_nil, or_false] at isStrange
  unfold readMagnitude
  rcases isStrange with same | same | same
  all_goals
    rw [same]
    exact ⟨_, rfl⟩

theorem sign_of_isStrange (isStrange : IsStrange text) : sign text = ([], text) := by
  simp only [IsStrange, List.mem_cons, List.not_mem_nil, or_false] at isStrange
  cases text with
  | nil => rfl
  | cons c rest =>
    have letter : c.toLower = 'i' ∨ c.toLower = 'n' := by
      rcases isStrange with same | same | same
      · exact .inl (List.cons.inj same).1
      · exact .inl (List.cons.inj same).1
      · exact .inr (List.cons.inj same).1
    apply sign_cons
    · rintro rfl
      revert letter
      decide
    · rintro rfl
      revert letter
      decide

/-- Every amount is read as one. -/
theorem exists_amount (isAmount : IsAmount token) : ∃ amount, readAmount token = some amount := by
  rw [readAmount_eq]
  have magnitude : ∃ size, readMagnitude (sign token).2 = some size := by
    rcases isAmount with isNumber | isStrange
    · obtain @⟨mark, text, isSign, isNumeral⟩ := isNumber
      rw [isNumeral.sign isSign fun _ => isDecimalDigit_of_isDigit]
      exact exists_magnitude isNumeral
    · rw [sign_of_isStrange isStrange]
      exact exists_magnitude_of_isStrange isStrange
  obtain ⟨size, reads⟩ := magnitude
  exact ⟨_, Option.map_eq_some_iff.mpr ⟨size, reads, rfl⟩⟩

end

end RowMapper.Calendar.Interval
