import Mathlib.Algebra.Group.Nat.Defs
import Mathlib.Data.List.Basic
import Mathlib.Data.List.Induction
import RowMapper.Number.Literal
import RowMapper.Number.Scaled
/-!
Runs of digits: what a run is worth, that the digits of a number are worth the number, and the
literals of integers.
-/

set_option autoImplicit false

namespace RowMapper.Number

def Digits (text : List Char) : Prop := ∀ c ∈ text, c.isDigit

theorem digits_nil : Digits [] := nofun

theorem Digits.append {first second : List Char} (digits : Digits first) (more : Digits second) :
    Digits (first ++ second) := by
  intro c isMember
  rcases List.mem_append.mp isMember with inFirst | inSecond
  · exact digits c inFirst
  · exact more c inSecond

theorem Digits.head {c : Char} {rest : List Char} (digits : Digits (c :: rest)) : c.isDigit :=
  digits c List.mem_cons_self

theorem Digits.tail {c : Char} {rest : List Char} (digits : Digits (c :: rest)) : Digits rest :=
  fun d isMember => digits d (List.mem_cons_of_mem c isMember)

theorem ne_of_isDigit {c d : Char} (digit : c.isDigit) (other : d.isDigit = false) : c ≠ d := by
  rintro rfl
  rw [digit] at other
  cases other

theorem digits_replicate (count : Nat) : Digits (List.replicate count '0') := by
  intro c isMember
  rw [List.eq_of_mem_replicate isMember]
  rfl

theorem digits_decimalDigits (n : Nat) : Digits (decimalDigits n) :=
  fun _ isMember => Nat.isDigit_of_mem_toDigits (by decide) (by decide) isMember

theorem decimalDigits_ne_nil (n : Nat) : decimalDigits n ≠ [] := Nat.toDigits_ne_nil

/-- A number other than zero is written without leading zeros. -/
theorem decimalDigits_head_ne_zero {n : Nat} (nonzero : n ≠ 0) {c : Char} {rest : List Char}
    (text : decimalDigits n = c :: rest) : c ≠ '0' := by
  induction n using Nat.strongRecOn generalizing rest with
  | ind n ih =>
    unfold decimalDigits at text ih
    by_cases small : n < 10
    · rw [Nat.toDigits_of_lt_base small] at text
      obtain rfl : Nat.digitChar n = c := (List.cons.inj text).1
      have leading : ∀ d < 10, d ≠ 0 → Nat.digitChar d ≠ '0' := by decide
      exact leading n small nonzero
    · rw [Nat.toDigits_of_base_le (by decide) (Nat.not_lt.mp small)] at text
      obtain ⟨d, front, head⟩ :=
        List.exists_cons_of_ne_nil (Nat.toDigits_ne_nil (n := n / 10) (b := 10))
      rw [head, List.cons_append] at text
      obtain rfl := (List.cons.inj text).1
      exact ih (n / 10) (by omega) (by omega) head

/-- What a run of digits makes of the number before it. -/
theorem foldl_digits (text : List Char) (n : Nat) :
    text.foldl (fun n c => n * 10 + (c.toNat - '0'.toNat)) n = Nat.ofDigitChars 10 text n := by
  simp only [Nat.ofDigitChars, Nat.mul_comm 10]

theorem ofDigitChars_next (c : Char) (rest : List Char) (n : Nat) :
    Nat.ofDigitChars 10 (c :: rest) n =
      Nat.ofDigitChars 10 rest (n * 10 + (c.toNat - '0'.toNat)) := by
  rw [Nat.ofDigitChars_cons, Nat.mul_comm]

/-- Digits never make a number smaller. -/
theorem le_ofDigitChars (text : List Char) (n : Nat) : n ≤ Nat.ofDigitChars 10 text n := by
  rw [Nat.ofDigitChars_eq_ofDigitChars_zero]
  exact Nat.le_add_right_of_le (Nat.le_mul_of_pos_left _ (Nat.pow_pos (by decide)))

theorem digitsValue_eq (text : List Char) : digitsValue text = Nat.ofDigitChars 10 text 0 :=
  foldl_digits text 0

theorem digitsValue_decimalDigits (n : Nat) : digitsValue (decimalDigits n) = n := by
  rw [digitsValue_eq, decimalDigits, Nat.ofDigitChars_ten_toDigits]

theorem digitsValue_append_zeros (text : List Char) (count : Nat) :
    digitsValue (text ++ List.replicate count '0') = digitsValue text * 10 ^ count := by
  rw [digitsValue_eq, digitsValue_eq, Nat.ofDigitChars_append, Nat.ofDigitChars_replicate_zero,
    Nat.mul_comm]

theorem digitsValue_zeros_append (count : Nat) (text : List Char) :
    digitsValue (List.replicate count '0' ++ text) = digitsValue text := by
  rw [digitsValue_eq, digitsValue_eq, Nat.ofDigitChars_append, Nat.ofDigitChars_replicate_zero,
    Nat.mul_zero]

/-- A run of digits is worth less than one followed by as many zeros. -/
theorem digitsValue_lt {text : List Char} (digits : Digits text) :
    digitsValue text < 10 ^ text.length := by
  induction text using List.reverseRecOn with
  | nil => decide
  | append_singleton rest c ih =>
    have front := ih fun d isMember => digits d (List.mem_append_left _ isMember)
    have last : c.toNat - '0'.toNat < 10 := by
      have digit := digits c (by simp)
      simp only [Char.isDigit, Bool.and_eq_true, decide_eq_true_eq, UInt32.le_iff_toNat_le] at digit
      have high : c.toNat ≤ 57 := digit.2
      have zero : '0'.toNat = 48 := rfl
      omega
    have worth : digitsValue (rest ++ [c]) = digitsValue rest * 10 + (c.toNat - '0'.toNat) := by
      rw [digitsValue, List.foldl_append]
      rfl
    rw [worth, List.length_append, List.length_singleton, Nat.pow_succ]
    omega

theorem readDigits_eq_some_iff {text : List Char} {n : Nat} :
    readDigits text = some n ↔ (text ≠ [] ∧ Digits text) ∧ digitsValue text = n := by
  simp [readDigits, Digits, and_assoc]

theorem readInteger_minus (text : List Char) :
    readInteger ('-' :: text) = (readDigits text).map fun n : Nat => -(n : Int) := by
  rw [readInteger]
  cases readDigits text <;> rfl

theorem readInteger_plus (text : List Char) :
    readInteger ('+' :: text) = (readDigits text).map fun n : Nat => (n : Int) := rfl

theorem readInteger_unsigned {c : Char} {rest : List Char} (minus : c ≠ '-') (plus : c ≠ '+') :
    readInteger (c :: rest) = (readDigits (c :: rest)).map fun n : Nat => (n : Int) := by
  unfold readInteger readNatural
  split
  · next same => exact (minus (List.cons.inj same).1).elim
  · split
    · next same => exact (plus (List.cons.inj same).1).elim
    · rfl

theorem readInteger_digits {text : List Char} (digits : text ≠ [] ∧ Digits text) :
    readInteger text = some (digitsValue text : Int) := by
  obtain ⟨c, rest, rfl⟩ := List.exists_cons_of_ne_nil digits.1
  rw [readInteger_unsigned (ne_of_isDigit digits.2.head rfl) (ne_of_isDigit digits.2.head rfl),
    readDigits_eq_some_iff.mpr ⟨digits, rfl⟩, Option.map_some]

/-- An integer literal is a run of digits behind a sign, if there is one. -/
theorem readInteger_eq_some_iff {text : List Char} {n : Int} :
    readInteger text = some n ↔ ∃ digits, (digits ≠ [] ∧ Digits digits) ∧
      ((text = digits ∨ text = '+' :: digits) ∧ n = digitsValue digits ∨
        text = '-' :: digits ∧ n = -(digitsValue digits : Int)) := by
  constructor
  · intro reads
    cases text with
    | nil => cases reads
    | cons c rest =>
      by_cases minus : c = '-'
      · rw [minus, readInteger_minus] at reads
        obtain ⟨_, read, rfl⟩ := Option.map_eq_some_iff.mp reads
        obtain ⟨digits, rfl⟩ := readDigits_eq_some_iff.mp read
        exact ⟨rest, digits, .inr ⟨by rw [minus], rfl⟩⟩
      by_cases plus : c = '+'
      · rw [plus, readInteger_plus] at reads
        obtain ⟨_, read, rfl⟩ := Option.map_eq_some_iff.mp reads
        obtain ⟨digits, rfl⟩ := readDigits_eq_some_iff.mp read
        exact ⟨rest, digits, .inl ⟨.inr (by rw [plus]), rfl⟩⟩
      · rw [readInteger_unsigned minus plus] at reads
        obtain ⟨_, read, rfl⟩ := Option.map_eq_some_iff.mp reads
        obtain ⟨digits, rfl⟩ := readDigits_eq_some_iff.mp read
        exact ⟨c :: rest, digits, .inl ⟨.inl rfl, rfl⟩⟩
  · rintro ⟨digits, isDigits, ⟨rfl | rfl, rfl⟩ | ⟨rfl, rfl⟩⟩
    · exact readInteger_digits isDigits
    · rw [readInteger_plus, readDigits_eq_some_iff.mpr ⟨isDigits, rfl⟩, Option.map_some]
    · rw [readInteger_minus, readDigits_eq_some_iff.mpr ⟨isDigits, rfl⟩, Option.map_some]

/-- A literal of a natural number: digits, perhaps with a plus sign in front. -/
inductive IsNatural : List Char → Nat → Prop
  | plain {digits : List Char} (nonempty : digits ≠ []) (isDigits : Digits digits) :
      IsNatural digits (digitsValue digits)
  | plus {digits : List Char} (nonempty : digits ≠ []) (isDigits : Digits digits) :
      IsNatural ('+' :: digits) (digitsValue digits)

theorem readNatural_eq_some_iff {text : List Char} {n : Nat} : readNatural text = some n ↔
    IsNatural text n := by
  constructor
  · intro reads
    unfold readNatural at reads
    split at reads
    · obtain ⟨⟨nonempty, isDigits⟩, rfl⟩ := readDigits_eq_some_iff.mp reads
      exact .plus nonempty isDigits
    · obtain ⟨⟨nonempty, isDigits⟩, rfl⟩ := readDigits_eq_some_iff.mp reads
      exact .plain nonempty isDigits
  · intro isNatural
    cases isNatural with
    | plain nonempty isDigits =>
      unfold readNatural
      split
      · cases isDigits.head
      · exact readDigits_eq_some_iff.mpr ⟨⟨nonempty, isDigits⟩, rfl⟩
    | plus nonempty isDigits => exact readDigits_eq_some_iff.mpr ⟨⟨nonempty, isDigits⟩, rfl⟩

theorem IsNatural.not_mem {text : List Char} {n : Nat} (isNatural : IsNatural text n) {c : Char}
    (plus : c ≠ '+') (other : c.isDigit = false) : c ∉ text := by
  have inDigits {digits : List Char} (isDigits : Digits digits) : c ∉ digits :=
    fun isMember => ne_of_isDigit (isDigits c isMember) other rfl
  cases isNatural with
  | plain _ isDigits => exact inDigits isDigits
  | plus _ isDigits => simp [plus, inDigits isDigits]

/-- Without a minus sign, a literal of an integer is one of a natural number. -/
theorem readInteger_of_no_minus {text : List Char} (noMinus : '-' ∉ text) :
    readInteger text = (readNatural text).map Int.ofNat := by
  unfold readInteger
  split
  · exact (noMinus List.mem_cons_self).elim
  · rfl

/-- Only signs and digits stand in an integer literal. -/
theorem mem_of_readInteger {text : List Char} {n : Int}
    (reads : readInteger text = some n) {c : Char} (isMember : c ∈ text) :
    (c = '-' ∨ c = '+') ∨ c.isDigit := by
  obtain ⟨digits, ⟨-, isDigits⟩, ⟨rfl | rfl, -⟩ | ⟨rfl, -⟩⟩ := readInteger_eq_some_iff.mp reads
  · exact .inr (isDigits c isMember)
  · exact (List.mem_cons.mp isMember).imp .inr (isDigits c)
  · exact (List.mem_cons.mp isMember).imp .inl (isDigits c)

/-- A minus sign in front of a literal without sign makes its number negative. -/
theorem readInteger_negated {c : Char} {rest : List Char} {n : Int}
    (reads : readInteger (c :: rest) = some n) (minus : c ≠ '-') (plus : c ≠ '+') :
    readInteger ('-' :: c :: rest) = some (-n) := by
  rw [readInteger_unsigned minus plus] at reads
  obtain ⟨_, digits, rfl⟩ := Option.map_eq_some_iff.mp reads
  rw [readInteger_minus, digits, Option.map_some]

theorem readInteger_nonneg {text : List Char} {n : Int} (reads : readInteger text = some n)
    (noMinus : '-' ∉ text) :
    0 ≤ n := by
  obtain ⟨digits, -, ⟨-, rfl⟩ | ⟨rfl, -⟩⟩ := readInteger_eq_some_iff.mp reads
  · exact Int.natCast_nonneg _
  · exact (noMinus List.mem_cons_self).elim

/-- An integer literal is worth less than one followed by as many zeros. -/
theorem natAbs_lt_of_readInteger {text : List Char} {n : Int} (reads : readInteger text = some n) :
    n.natAbs < 10 ^ text.length := by
  obtain ⟨digits, ⟨-, isDigits⟩, ⟨rfl | rfl, rfl⟩ | ⟨rfl, rfl⟩⟩ := readInteger_eq_some_iff.mp reads
  all_goals
    have small := digitsValue_lt isDigits
    simp only [Int.natAbs_neg, Int.natAbs_natCast, List.length_cons, Nat.pow_succ]
    omega

theorem not_mem_of_readInteger {text : List Char} {n : Int}
    (reads : readInteger text = some n) {c : Char} (sign : c ≠ '-' ∧ c ≠ '+')
    (other : c.isDigit = false) : c ∉ text := by
  intro isMember
  rcases mem_of_readInteger reads isMember with (minus | plus) | digit
  · exact sign.1 minus
  · exact sign.2 plus
  · rw [other] at digit
    cases digit

theorem readInt64_eq_some_iff {text : List Char} {n : Int} :
    readInt64 text = some n ↔ readInteger text = some n ∧ FitsInt64 n := by
  simp [readInt64, Option.filter_eq_some_iff]

theorem readInt64_of_short {text : List Char} (short : text.length ≤ 6) :
    readInt64 text = readInteger text := by
  cases read : readInteger text with
  | none => simp only [readInt64, read, Option.filter_none]
  | some n =>
    have small := natAbs_lt_of_readInteger read
    have bound : 10 ^ text.length ≤ 10 ^ 6 := Nat.pow_le_pow_right (by decide) short
    refine readInt64_eq_some_iff.mpr ⟨read, ?_⟩
    unfold FitsInt64
    omega

end RowMapper.Number
