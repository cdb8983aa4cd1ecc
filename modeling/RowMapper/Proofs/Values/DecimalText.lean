import Mathlib.Algebra.Field.Rat
import Mathlib.Data.List.TakeDrop
import Mathlib.Data.Rat.Cast.Defs
import RowMapper.Number.Decimal.Text
import RowMapper.Proofs.Values.Digits
/-!
Decimals and their text. A decimal whose scale fits 64 bits is written in one of five forms, and
each of them is read as the same number.
-/

set_option autoImplicit false

namespace RowMapper.Number.Decimal

def value (d : Decimal) : ℚ := d.digits * (10 : ℚ) ^ (-d.scale)

/-! ## Reading the parts of a text -/

theorem readBounded_digits {limit : Nat} {text : List Char} {n : Nat} (excess : ReadError)
    (digits : Digits text) (bounded : Nat.ofDigitChars 10 text n ≤ limit) :
    readBounded limit excess n text = .ok (Nat.ofDigitChars 10 text n) := by
  induction text generalizing n with
  | nil => rfl
  | cons c rest ih =>
    rw [ofDigitChars_next] at bounded ⊢
    have small : n * 10 + (c.toNat - '0'.toNat) ≤ limit :=
      Nat.le_trans (le_ofDigitChars rest _) bounded
    rw [readBounded, digits.head]
    simp only [Bool.not_true, Bool.false_eq_true, if_false, Nat.not_lt.mpr small]
    exact ih digits.tail bounded

/-- A written exponent is read again. -/
theorem readExponent_signedText {e : Int} (small : e.natAbs < 2 ^ 127) :
    readExponent (signedText e) = .ok e := by
  have digits := digits_decimalDigits e.natAbs
  have worth : Nat.ofDigitChars 10 (decimalDigits e.natAbs) 0 = e.natAbs :=
    Nat.ofDigitChars_ten_toDigits
  obtain ⟨c, rest, text⟩ := List.exists_cons_of_ne_nil (decimalDigits_ne_nil e.natAbs)
  by_cases negative : e < 0
  · have read := readBounded_digits (n := 0) (.exponentTooSmall) digits
      (show _ ≤ Nat.pow 2 127 by rw [worth]; exact Nat.le_of_lt small)
    rw [worth, text] at read
    have whole : -(e.natAbs : Int) = e := by omega
    simp only [signedText, negative, if_true, text, readExponent, read, Except.map, bind,
      Except.bind, pure, Except.pure, whole]
  · have read := readBounded_digits (n := 0) (.exponentTooLarge) digits
      (show _ ≤ Nat.pow 2 127 - 1 by rw [worth]; exact Nat.le_sub_one_of_lt small)
    rw [worth, text] at read
    have whole : (e.natAbs : Int) = e := by omega
    simp only [signedText, negative, if_false, text, readExponent, read, Except.map,
      Int.ofNat_eq_natCast, whole]

theorem readMagnitude_digits {digits : List Char} (nonempty : digits ≠ [])
    (isDigits : Digits digits) :
    readMagnitude digits = .ok (digitsValue digits) := by
  obtain ⟨c, rest, rfl⟩ := List.exists_cons_of_ne_nil nonempty
  have other : c ≠ '_' := ne_of_isDigit isDigits.head rfl
  have kept : (c :: rest).filter (· ≠ '_') = c :: rest := by
    rw [List.filter_eq_self]
    intro d isMember
    exact decide_eq_true (ne_of_isDigit (isDigits d isMember) rfl)
  have all : (c :: rest).all Char.isDigit = true := List.all_eq_true.mpr isDigits
  unfold readMagnitude
  split
  · contradiction
  · next underscore => exact (other (List.cons.inj underscore).1).elim
  · simp only [kept, all, if_true]

/-- A text with a minus sign in front of it, if there is to be one. -/
def signed (negative : Bool) (text : List Char) : List Char :=
  if negative then '-' :: text else text

theorem mem_signed {negative : Bool} {text : List Char} {c : Char}
    (isMember : c ∈ signed negative text) :
    c = '-' ∨ c ∈ text := by
  cases negative with
  | true => exact List.mem_cons.mp isMember
  | false => exact .inr isMember

theorem readWhole_signed (negative : Bool) {digits : List Char} (nonempty : digits ≠ [])
    (isDigits : Digits digits) :
    readWhole (signed negative digits) =
      .ok (if negative then -(digitsValue digits : Int) else digitsValue digits) := by
  have read := readMagnitude_digits nonempty isDigits
  obtain ⟨c, rest, rfl⟩ := List.exists_cons_of_ne_nil nonempty
  have notMinus : c ≠ '-' := ne_of_isDigit isDigits.head rfl
  have notPlus : c ≠ '+' := ne_of_isDigit isDigits.head rfl
  have keeps : dropSign '+' (c :: rest) = none := by
    simp only [dropSign, notPlus, false_and, if_false]
  cases negative with
  | true =>
    have drops : dropSign '-' ('-' :: c :: rest) = some (c :: rest) := by
      simp [dropSign, notPlus]
    simp only [signed, if_true, readWhole, drops, keeps, Option.getD_none, read, Except.map, bind,
      Except.bind, pure, Except.pure]
  | false =>
    have stays : dropSign '-' (c :: rest) = none := by
      simp only [dropSign, notMinus, false_and, if_false]
    simp only [signed, Bool.false_eq_true, if_false, readWhole, stays, keeps, Option.getD_none,
      read, Except.map]
    rfl

/-! ## The form of a written number -/

/-- What stands behind the lead of a number: nothing, or a point and places. -/
inductive Point : List Char → List Char → Prop
  | none : Point [] []
  | places (trail : List Char) : Point ('.' :: trail) trail

/-- What stands behind the places of a number: nothing, or the letter of an exponent and the
exponent. -/
inductive Mark : List Char → Int → Prop
  | none : Mark [] 0
  | exponent {letter : Char} (isLetter : letter = 'e' ∨ letter = 'E') {e : Int}
      (small : e.natAbs < 2 ^ 127) :
    Mark (letter :: signedText e) e

theorem splitExponent_append {base tail : List Char} {e : Int}
    (plain : ∀ c ∈ base, c ≠ 'e' ∧ c ≠ 'E') (mark : Mark tail e) :
    splitExponent (base ++ tail) = .ok (base, e) := by
  have passes : ∀ c ∈ base, (c ≠ 'e' && c ≠ 'E') = true := by
    intro c isMember
    simpa using plain c isMember
  have parts : (base ++ tail).span (fun c => c ≠ 'e' && c ≠ 'E') = (base, tail) := by
    rw [List.span_eq_takeWhile_dropWhile, List.takeWhile_append_of_pos passes,
      List.dropWhile_append_of_pos passes]
    cases mark with
    | none => simp
    | exponent isLetter small => rcases isLetter with rfl | rfl <;> simp
  simp only [splitExponent, parts]
  cases mark with
  | none => rfl
  | exponent isLetter small => simp only [readExponent_signedText small, Except.map]

theorem splitPoint_append {lead point trail : List Char} (plain : ∀ c ∈ lead, c ≠ '.')
    (trails : Digits trail) (form : Point point trail) :
    splitPoint (lead ++ point) = (lead ++ trail, trail.length) := by
  have noPoint : '.' ∉ lead := fun isMember => plain '.' isMember rfl
  have cuts (after : List Char) : Text.cut '.' (lead ++ '.' :: after) = some (lead, after) :=
    Text.cut_eq_some_iff.mpr ⟨rfl, noPoint⟩
  cases form with
  | none =>
    simp only [splitPoint, List.append_nil, Text.cut_eq_none_iff.mpr noPoint, List.length_nil]
  | places =>
    have kept : trail.filter (· ≠ '_') = trail := by
      rw [List.filter_eq_self]
      exact fun c isMember => decide_eq_true (ne_of_isDigit (trails c isMember) rfl)
    cases trail with
    | nil => simp only [splitPoint, cuts, List.append_nil, List.length_nil]
    | cons c rest => simp only [splitPoint, cuts, kept]

/-- A text in the form of a number is read as the number of its digits with the places that it
has. -/
theorem read_form (negative : Bool) {lead point trail tail : List Char} {e : Int}
    (leads : Digits lead) (nonempty : lead ≠ []) (trails : Digits trail) (form : Point point trail)
    (mark : Mark tail e) (fits : FitsInt64 (trail.length - e)) :
    read (String.ofList (signed negative (lead ++ point ++ tail))) =
      .ok ⟨if negative then -(digitsValue (lead ++ trail) : Int) else digitsValue (lead ++ trail),
        trail.length - e⟩ := by
  have whole : signed negative (lead ++ point ++ tail) = signed negative lead ++ point ++ tail := by
    cases negative <;> simp only [signed, Bool.false_eq_true, if_true, if_false, List.cons_append]
  have digits : signed negative lead ++ trail = signed negative (lead ++ trail) := by
    cases negative <;> simp only [signed, Bool.false_eq_true, if_true, if_false, List.cons_append]
  have isPlain : ∀ letter : Char, letter.isDigit = false → letter ≠ '-' →
      ∀ c ∈ signed negative lead, c ≠ letter := by
    intro letter noDigit noSign c isMember
    rcases mem_signed isMember with rfl | inLead
    · exact noSign.symm
    · exact ne_of_isDigit (leads c inLead) noDigit
  have plain : ∀ c ∈ signed negative lead ++ point, c ≠ 'e' ∧ c ≠ 'E' := by
    intro c isMember
    rcases List.mem_append.mp isMember with inFront | inPoint
    · exact ⟨isPlain 'e' rfl (by decide) c inFront, isPlain 'E' rfl (by decide) c inFront⟩
    · cases form with
      | none => cases inPoint
      | places =>
        rcases List.mem_cons.mp inPoint with rfl | inTrail
        · decide
        · exact ⟨ne_of_isDigit (trails c inTrail) rfl, ne_of_isDigit (trails c inTrail) rfl⟩
  have occupied : (signed negative lead ++ point).isEmpty = false := by
    obtain ⟨c, rest, rfl⟩ := List.exists_cons_of_ne_nil nonempty
    cases negative <;> rfl
  have split := splitPoint_append (isPlain '.' rfl (by decide)) trails form
  have reads := readWhole_signed negative (List.append_ne_nil_of_left_ne_nil nonempty trail)
    (leads.append trails)
  simp only [read, String.toList_ofList, whole, splitExponent_append plain mark, bind, Except.bind,
    occupied, split, digits, reads, fits, not_true_eq_false, Bool.false_eq_true, if_false,
    pure, Except.pure]

/-! ## Reading what was written -/

/-- A text in the form of a number, which has the digits and the scale of a magnitude, or the digits
with the zeros that a negative scale stands for. -/
structure Writes (text digits : List Char) (scale : Int) (lead point trail tail : List Char)
    (e : Int) : Prop where
  text_eq : text = lead ++ point ++ tail
  leads : Digits lead
  nonempty : lead ≠ []
  trails : Digits trail
  form : Point point trail
  mark : Mark tail e
  worth : (trail.length - e = scale ∧ digitsValue (lead ++ trail) = digitsValue digits) ∨
    (trail.length - e = 0 ∧ scale ≤ 0 ∧
      digitsValue (lead ++ trail) = digitsValue digits * 10 ^ (-scale).toNat)

theorem writes_magnitudeText {digits : List Char} (isDigits : Digits digits)
    (nonempty : digits ≠ []) {scale : Int} (fits : FitsInt64 scale) :
    ∃ lead point trail tail e, Writes (magnitudeText digits scale) digits scale lead point
      trail tail e := by
  unfold FitsInt64 at fits
  obtain ⟨d, rest, rfl⟩ := List.exists_cons_of_ne_nil nonempty
  have long : (d :: rest).length = rest.length + 1 := rfl
  unfold magnitudeText
  split
  · -- One digit, the others behind the point, and an exponent.
    have isD : Digits [d] := fun c isMember => List.mem_singleton.mp isMember ▸ isDigits.head
    cases rest with
    | nil =>
      exact ⟨[d], [], [], _, _, rfl, isD, by simp, digits_nil, .none,
        .exponent (.inr rfl) (by omega), .inl ⟨by simp, rfl⟩⟩
    | cons next others =>
      exact ⟨[d], '.' :: next :: others, next :: others, _, _, rfl, isD, by simp, isDigits.tail,
        .places _, .exponent (.inr rfl) (by omega), .inl ⟨by rw [long]; push_cast; omega, rfl⟩⟩
  split
  · exact ⟨d :: rest, [], [], _, -scale, by simp, isDigits, nonempty, digits_nil, .none,
      .exponent (.inl rfl) (by omega), .inl ⟨by simp, by rw [List.append_nil]⟩⟩
  split
  · exact ⟨d :: rest ++ List.replicate (-scale).toNat '0', [], [], [], 0, by simp,
      isDigits.append (digits_replicate _), by simp, digits_nil, .none, .none,
      .inr ⟨by simp, by omega, by rw [List.append_nil, digitsValue_append_zeros]⟩⟩
  · have zero : Digits ['0'] := digits_replicate 1
    dsimp only
    split
    · -- Zeros in front.
      refine ⟨['0'], _, List.replicate (scale.toNat - (d :: rest).length) '0' ++ (d :: rest), [],
        0, by simp, zero, by simp, (digits_replicate _).append isDigits, .places _, .none,
        .inl ⟨?_, ?_⟩⟩
      · rw [List.length_append, List.length_replicate]
        omega
      · exact digitsValue_zeros_append (_ + 1) (d :: rest)
    · -- The point among the digits.
      refine ⟨(d :: rest).take ((d :: rest).length - scale.toNat), _,
        (d :: rest).drop ((d :: rest).length - scale.toNat), [], 0, by simp,
        fun c isMember => isDigits c (List.mem_of_mem_take isMember), ?_,
        fun c isMember => isDigits c (List.mem_of_mem_drop isMember), .places _, .none,
        .inl ⟨?_, ?_⟩⟩
      · rw [ne_eq, List.take_eq_nil_iff, not_or]
        exact ⟨by omega, nonempty⟩
      · rw [List.length_drop]
        omega
      · rw [List.take_append_drop]

theorem signed_natAbs (a : Int) (n : Nat) :
    (if decide (a < 0) = true then -((a.natAbs * n : Nat) : Int) else (a.natAbs * n : Nat)) =
      a * n := by
  by_cases negative : a < 0
  · have magnitude : (a.natAbs : Int) = -a := by omega
    rw [if_pos (decide_eq_true negative), Nat.cast_mul, magnitude, neg_mul, neg_neg]
  · have magnitude : (a.natAbs : Int) = a := by omega
    rw [if_neg (by simpa using negative), Nat.cast_mul, magnitude]

/-- The scale of what is read fits 64 bits. -/
theorem read_fits {text : String} {d : Decimal} (reads : read text = .ok d) :
    FitsInt64 d.scale := by
  simp only [read, bind, Except.bind] at reads
  cases split : splitExponent text.toList with
  | error e => simp only [split, reduceCtorEq] at reads
  | ok parts =>
    obtain ⟨base, exponent⟩ := parts
    by_cases empty : base.isEmpty = true
    · simp [split, empty, throw, throwThe, MonadExceptOf.throw] at reads
    by_cases fits : FitsInt64 ((splitPoint base).2 - exponent)
    · cases whole : readWhole (splitPoint base).1 with
      | error e => simp [split, empty, fits, whole] at reads
      | ok n =>
        simp [split, empty, fits, whole, pure, Except.pure] at reads
        rw [← reads]
        exact fits
    · simp [split, empty, fits, throw, throwThe, MonadExceptOf.throw] at reads

/-- What was written is read as the same number. -/
theorem read_text {d : Decimal} (fits : FitsInt64 d.scale) :
    ∃ again, read d.text = .ok again ∧ again.value = d.value := by
  by_cases zero : d.digits = 0
  · have none : d.text = String.ofList (signed false (['0'] ++ [] ++ [])) := by
      simp only [text, toChars, isZero, zero, decide_true, if_true]
      rfl
    refine ⟨_, none ▸ read_form false (digits_replicate 1) (by simp) digits_nil .none .none
      (by decide), ?_⟩
    simp [value, zero, digitsValue]
  · have isDigits := digits_decimalDigits d.digits.natAbs
    obtain ⟨lead, point, trail, tail, e, writes⟩ :=
      writes_magnitudeText isDigits (decimalDigits_ne_nil d.digits.natAbs) fits
    have written : d.text = String.ofList
        (signed (decide (d.digits < 0)) (lead ++ point ++ tail)) := by
      simp only [text, toChars, isZero, zero, decide_false, Bool.false_eq_true, if_false,
        writes.text_eq, signed, decide_eq_true_eq]
    have fits' : FitsInt64 (trail.length - e) := by
      rcases writes.worth with ⟨same, _⟩ | ⟨whole, _⟩
      · rw [same]; exact fits
      · rw [whole]; decide
    refine ⟨_, written ▸ read_form _ writes.leads writes.nonempty writes.trails writes.form
      writes.mark fits', ?_⟩
    have magnitude := digitsValue_decimalDigits d.digits.natAbs
    rcases writes.worth with ⟨same, worth⟩ | ⟨whole, small, worth⟩
    · have exact := signed_natAbs d.digits 1
      rw [Nat.mul_one, Nat.cast_one, mul_one] at exact
      simp only [value, worth, magnitude, same, exact]
    · have power : (10 : ℚ) ^ (-d.scale) = 10 ^ (-d.scale).toNat := by
        rw [← zpow_natCast, Int.toNat_of_nonneg (by omega)]
      have exact := signed_natAbs d.digits (10 ^ (-d.scale).toNat)
      simp only [value, worth, magnitude, whole, exact, power, neg_zero, zpow_zero, mul_one]
      push_cast
      rfl

end RowMapper.Number.Decimal
