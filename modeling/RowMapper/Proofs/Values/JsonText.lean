import RowMapper.Proofs.Values.Digits
import RowMapper.Proofs.Values.JsonOrder
/-!
Documents and their text. A document without floating point numbers, no deeper than the reader goes,
is read back as it was written.
-/

set_option autoImplicit false

namespace RowMapper.Json

open Number

/-! ## Properties of documents -/

mutual

/-- How deep lists and objects stand in one another. -/
def depth : Json → Nat
  | .array items => itemsDepth items + 1
  | .object members => membersDepth members + 1
  | _ => 0

def itemsDepth : List Json → Nat
  | [] => 0
  | item :: rest => max (depth item) (itemsDepth rest)

def membersDepth : List (String × Json) → Nat
  | [] => 0
  | (_, value) :: rest => max (depth value) (membersDepth rest)

end

mutual

/-- All numbers are integers of 64 bits, with or without a sign. -/
def Integral : Json → Prop
  | .int n => -9223372036854775808 ≤ n ∧ n < 18446744073709551616
  | .real _ => False
  | .array items => ItemsIntegral items
  | .object members => MembersIntegral members
  | _ => True

def ItemsIntegral : List Json → Prop
  | [] => True
  | item :: rest => Integral item ∧ ItemsIntegral rest

def MembersIntegral : List (String × Json) → Prop
  | [] => True
  | (_, value) :: rest => Integral value ∧ MembersIntegral rest

end

/-! ## Texts -/

theorem length_controlDigits : ∀ a < 2, ∀ b < 16,
    (Text.encodeUtf8 (String.ofList ['0', '0', Nat.digitChar a, Nat.digitChar b])).length = 4 := by
  decide +kernel

theorem hexValue?_digitChar : ∀ a < 16, hexValue? (Nat.digitChar a) = some a := by
  decide

theorem readUnits_control {n : Nat} (control : n < 32) (rest : List Char) :
    readUnits ('0' :: '0' :: Nat.digitChar (n / 16) :: Nat.digitChar (n % 16) :: rest) =
      .ok (Char.ofNat n, rest) := by
  have high : n / 16 < 2 := by omega
  have low : n % 16 < 16 := by omega
  have bytes := length_controlDigits (n / 16) high (n % 16) low
  have four : readFour ('0' :: '0' :: Nat.digitChar (n / 16) :: Nat.digitChar (n % 16) :: rest) =
      .ok (n, rest) := by
    have zero : hexValue? '0' = some 0 := rfl
    have value : ((0 * 16 + 0) * 16 + n / 16) * 16 + n % 16 = n := by omega
    simp only [readFour, List.take_succ_cons, List.take_zero, bytes, Nat.lt_irrefl, if_false, zero,
      hexValue?_digitChar _ (Nat.lt_trans high (by decide)), hexValue?_digitChar _ low, value]
  simp only [readUnits, four, bind, Except.bind]
  rw [if_neg (by omega), if_pos (by omega)]
  rfl

/-- A character stands in a text as itself or as an escape that is read as the character. -/
theorem textChar_cases (c : Char) :
    (textChar c = [c] ∧ c ≠ '"' ∧ c ≠ '\\' ∧ ¬c.toNat < 32) ∨
      ∃ escape, textChar c = '\\' :: escape ∧
      ∀ rest, readEscape (escape ++ rest) = .ok (c, rest) := by
  unfold textChar
  split
  case h_8 noQuote noBackslash _ _ _ _ _ =>
    split
    · next control =>
      refine .inr ⟨_, rfl, fun rest => ?_⟩
      simp only [List.cons_append, List.nil_append, readEscape, readUnits_control control,
        Char.ofNat_toNat]
    · next printed => exact .inl ⟨rfl, noQuote, noBackslash, printed⟩
  all_goals exact .inr ⟨_, rfl, fun _ => rfl⟩

/-- A written text is read again, after what was read before it. -/
theorem readText_chars (cs : List Char) {fuel : Nat} (enough : cs.length < fuel)
    (done rest : List Char) :
    readText fuel done (cs.flatMap textChar ++ '"' :: rest) =
      .ok (String.ofList (done.reverse ++ cs), rest) := by
  induction cs generalizing fuel done with
  | nil =>
    obtain ⟨fuel, rfl⟩ := Nat.exists_eq_succ_of_ne_zero (Nat.ne_of_gt enough)
    simp only [List.flatMap_nil, List.nil_append, readText, if_true, List.append_nil]
  | cons c cs ih =>
    obtain ⟨fuel, rfl⟩ := Nat.exists_eq_succ_of_ne_zero (Nat.ne_of_gt (Nat.zero_lt_of_lt enough))
    have remaining : cs.length < fuel := Nat.lt_of_succ_lt_succ enough
    have next := ih remaining (c :: done)
    rw [List.reverse_cons, List.append_assoc, List.singleton_append] at next
    rcases textChar_cases c with ⟨plain, noQuote, noBackslash, printed⟩ | ⟨escape, escaped, reads⟩
    · simp only [List.flatMap_cons, plain, List.cons_append, List.nil_append, readText, noQuote,
        noBackslash, printed, if_false, next]
    · have other : ('\\' : Char) ≠ '"' := by decide
      simp only [List.flatMap_cons, escaped, List.cons_append, List.append_assoc, readText, other,
        if_false, if_true, reads, bind, Except.bind, next]

/-! ## Numbers -/

/-- What may stand behind a value inside a document: nothing, a comma, or the end of a list or an
object. -/
def Ends (rest : List Char) : Prop := ∀ c, rest.head? = some c → c = ',' ∨ c = ']' ∨ c = '}'

theorem Ends.not_isDigit {c : Char} {rest : List Char} (ends : Ends (c :: rest)) :
    c.isDigit = false := by
  rcases ends c rfl with rfl | rfl | rfl <;> rfl

theorem takeDigits_append {text rest : List Char} {n : Nat} (count : Nat) (digits : Digits text)
    (ends : Ends rest) (small : Nat.ofDigitChars 10 text n < 18446744073709551616) :
    takeDigits n count (text ++ rest) =
      (Nat.ofDigitChars 10 text n, count + text.length, rest) := by
  induction text generalizing n count with
  | nil =>
    cases rest with
    | nil => rfl
    | cons c rest =>
      simp only [List.nil_append, takeDigits, ends.not_isDigit, Bool.false_eq_true, if_false,
        Nat.ofDigitChars_nil, List.length_nil, Nat.add_zero]
  | cons c text ih =>
    rw [ofDigitChars_next] at small ⊢
    have fits : n * 10 + (c.toNat - '0'.toNat) < 18446744073709551616 :=
      Nat.lt_of_le_of_lt (le_ofDigitChars text _) small
    simp only [List.cons_append, takeDigits, digits.head, if_true, fits,
      ih (count + 1) digits.tail small, List.length_cons]
    rw [Nat.add_assoc, Nat.add_comm 1]

/-- Behind its digits, an integer is at its end. -/
theorem readNumber_decimalDigits (negative : Bool) {n : Nat} (small : n < 18446744073709551616)
    {rest : List Char} (ends : Ends rest) :
    readNumber negative (decimalDigits n ++ rest) = readIntegerEnd negative n rest := by
  by_cases zero : n = 0
  · subst zero
    change readNumber negative ('0' :: rest) = _
    cases rest with
    | nil => rfl
    | cons c rest => simp only [readNumber, ends.not_isDigit, Bool.false_eq_true, if_false]
  · have digits := digits_decimalDigits n
    have worth : Nat.ofDigitChars 10 (decimalDigits n) 0 = n := Nat.ofDigitChars_ten_toDigits
    have taken := takeDigits_append 0 digits ends (by rw [worth]; exact small)
    obtain ⟨c, others, text⟩ := List.exists_cons_of_ne_nil (decimalDigits_ne_nil n)
    have leading := decimalDigits_head_ne_zero zero text
    rw [worth, text, List.cons_append] at taken
    rw [text] at digits
    rw [text, List.cons_append]
    cases rest with
    | nil => simp only [readNumber, digits.head, Bool.not_true, Bool.false_eq_true, if_false, taken]
    | cons d rest =>
      simp only [readNumber, digits.head, Bool.not_true, Bool.false_eq_true, if_false, taken,
        ends.not_isDigit]

theorem readIntegerEnd_ends {negative : Bool} {n : Nat} {rest : List Char} (ends : Ends rest)
    (fits : negative = true → n ≠ 0 ∧ n ≤ 9223372036854775808) :
    readIntegerEnd negative n rest = .ok (.int (if negative then -(n : Int) else n), rest) := by
  have plain : readIntegerEnd negative n rest =
      if !negative then .ok (.int n, rest)
      else if n = 0 ∨ 9223372036854775808 < n then .ok (.real (-(Float.ofNat n)), rest)
      else .ok (.int (-(n : Int)), rest) := by
    cases rest with
    | nil => rfl
    | cons c rest => rcases ends c rfl with rfl | rfl | rfl <;> rfl
  rw [plain]
  cases negative with
  | false => rfl
  | true =>
    obtain ⟨positive, small⟩ := fits rfl
    simp only [Bool.not_true, Bool.false_eq_true, if_false, if_true]
    rw [if_neg (by omega)]

/-! ## Documents -/

/-- The items behind the first ones, each with its comma. -/
def laterItems : List Json → List Char
  | [] => []
  | items => ',' :: itemChars items

theorem itemChars_cons (item : Json) (rest : List Json) :
    itemChars (item :: rest) = toChars item ++ laterItems rest := by
  cases rest with
  | nil => simp only [itemChars, laterItems, List.append_nil]
  | cons next others => simp only [itemChars, laterItems]

def laterMembers : List (String × Json) → List Char
  | [] => []
  | members => ',' :: memberChars members

theorem memberChars_cons (key : String) (value : Json) (rest : List (String × Json)) :
    memberChars ((key, value) :: rest) =
      textChars key ++ ':' :: (toChars value ++ laterMembers rest) := by
  cases rest with
  | nil => simp only [memberChars, laterMembers, List.append_nil]
  | cons next others => simp only [memberChars, laterMembers, List.append_assoc, List.cons_append]

theorem ends_laterItems (items : List Json) (rest : List Char) :
    Ends (laterItems items ++ ']' :: rest) := by
  intro c head
  cases items with
  | nil => exact .inr (.inl (Option.some.inj head).symm)
  | cons => exact .inl (Option.some.inj head).symm

theorem ends_laterMembers (members : List (String × Json)) (rest : List Char) :
    Ends (laterMembers members ++ '}' :: rest) := by
  intro c head
  cases members with
  | nil => exact .inr (.inr (Option.some.inj head).symm)
  | cons => exact .inl (Option.some.inj head).symm

theorem skipGap_cons {c : Char} (noGap : isGap c = false) (rest : List Char) :
    skipGap (c :: rest) = c :: rest := by
  simp only [skipGap, List.dropWhile_cons, noGap, Bool.false_eq_true, if_false]

theorem isGap_digit {c : Char} (digit : c.isDigit) : isGap c = false := by
  simp only [isGap, Bool.or_eq_false_iff, beq_eq_false_iff_ne]
  exact ⟨⟨⟨ne_of_isDigit digit rfl, ne_of_isDigit digit rfl⟩, ne_of_isDigit digit rfl⟩,
    ne_of_isDigit digit rfl⟩

/-- A value that begins with a digit is a number. -/
theorem readValue_digit {c : Char} (digit : c.isDigit) (fuel levels : Nat) (rest : List Char) :
    readValue (fuel + 1) levels (c :: rest) = readNumber false (c :: rest) := by
  rw [readValue, skipGap_cons (isGap_digit digit)]
  split
  case h_9 => simp_all
  -- The other values begin with a letter or a mark.
  all_goals simp_all [Char.isDigit]

/-- A document begins with a character that is no blank and ends no list. -/
theorem toChars_head {j : Json} (integral : j.Integral) :
    ∃ c rest, toChars j = c :: rest ∧ isGap c = false ∧ c ≠ ']' := by
  cases j with
  | null => exact ⟨_, _, rfl, rfl, by decide⟩
  | bool b => cases b <;> exact ⟨_, _, rfl, rfl, by decide⟩
  | int n =>
    by_cases negative : n < 0
    · exact ⟨_, _, by simp only [toChars, intChars, negative, if_true]; rfl, rfl, by decide⟩
    · obtain ⟨c, rest, text⟩ := List.exists_cons_of_ne_nil (decimalDigits_ne_nil n.natAbs)
      have digit := (text ▸ digits_decimalDigits n.natAbs).head
      exact ⟨c, rest, by simp only [toChars, intChars, negative, if_false, text], isGap_digit digit,
        ne_of_isDigit digit rfl⟩
  | real x => exact integral.elim
  | text s => exact ⟨_, _, rfl, rfl, by decide⟩
  | array items => exact ⟨_, _, rfl, rfl, by decide⟩
  | object members => exact ⟨_, _, rfl, rfl, by decide⟩

theorem readValue_int {n : Int} {fuel levels : Nat} {rest : List Char}
    (integral : -9223372036854775808 ≤ n ∧ n < 18446744073709551616) (ends : Ends rest) :
    readValue (fuel + 1) levels (intChars n ++ rest) = .ok (.int n, rest) := by
  by_cases negative : n < 0
  · have text : intChars n ++ rest = '-' :: (decimalDigits n.natAbs ++ rest) := by
      simp only [intChars, negative, if_true, List.cons_append]
    have noGap : isGap '-' = false := rfl
    have whole : -(n.natAbs : Int) = n := by omega
    have small : n.natAbs < 18446744073709551616 := by omega
    have fits : true = true → n.natAbs ≠ 0 ∧ n.natAbs ≤ 9223372036854775808 := fun _ => by omega
    simp only [text, readValue, skipGap_cons noGap, readNumber_decimalDigits true small ends,
      readIntegerEnd_ends ends fits, if_true, whole]
  · have text : intChars n = decimalDigits n.natAbs := by simp only [intChars, negative, if_false]
    have whole : (n.natAbs : Int) = n := by omega
    have small : n.natAbs < 18446744073709551616 := by omega
    have fits : false = true → n.natAbs ≠ 0 ∧ n.natAbs ≤ 9223372036854775808 :=
      fun same => by cases same
    have reads := readNumber_decimalDigits false small ends
    rw [readIntegerEnd_ends ends fits] at reads
    obtain ⟨c, others, digits⟩ := List.exists_cons_of_ne_nil (decimalDigits_ne_nil n.natAbs)
    have digit := (digits ▸ digits_decimalDigits n.natAbs).head
    rw [text, digits, List.cons_append]
    rw [digits, List.cons_append] at reads
    rw [readValue_digit digit, reads]
    simp only [Bool.false_eq_true, if_false, whole]

theorem length_le_flatMap_textChar (cs : List Char) : cs.length ≤ (cs.flatMap textChar).length := by
  induction cs with
  | nil => exact Nat.le_refl 0
  | cons c cs ih =>
    have one : 1 ≤ (textChar c).length := by
      rcases textChar_cases c with ⟨plain, _⟩ | ⟨escape, escaped, _⟩
      · rw [plain]
        exact Nat.le_refl 1
      · rw [escaped]
        exact Nat.succ_le_succ (Nat.zero_le _)
    rw [List.flatMap_cons, List.length_append, List.length_cons]
    omega

theorem readText_textChars (s : String) (rest : List Char) :
    readText ((s.toList.flatMap textChar ++ '"' :: rest).length + 1) []
      (s.toList.flatMap textChar ++ '"' :: rest) = .ok (s, rest) := by
  have enough : s.toList.length < (s.toList.flatMap textChar ++ '"' :: rest).length + 1 := by
    have atLeast := length_le_flatMap_textChar s.toList
    simp only [List.length_append, List.length_cons]
    omega
  rw [readText_chars s.toList enough]
  simp only [List.reverse_nil, List.nil_append, String.ofList_toList]

theorem readValue_text (s : String) (fuel levels : Nat) (rest : List Char) :
    readValue (fuel + 1) levels (textChars s ++ rest) = .ok (.text s, rest) := by
  have text : textChars s ++ rest = '"' :: (s.toList.flatMap textChar ++ '"' :: rest) := by
    simp only [textChars, List.cons_append, List.append_assoc, List.nil_append]
  have noGap : isGap '"' = false := rfl
  simp only [text, readValue, skipGap_cons noGap, readText_textChars, bind, Except.bind]
  rfl

/-- The list goes on with an item. -/
theorem readItems_item {fuel levels : Nat} {first : Bool} {source body rest last : List Char}
    {item : Json} {items : List Json} (starts : nextItem first source = .ok (some body))
    (reads : readValue fuel levels body = .ok (item, rest))
    (others : readItems fuel levels false rest = .ok (items, last)) :
    readItems (fuel + 1) levels first source = .ok (item :: items, last) := by
  simp only [readItems, starts, reads, others, bind, Except.bind]
  rfl

theorem readItems_end (fuel levels : Nat) (first : Bool) (rest : List Char) :
    readItems (fuel + 1) levels first (']' :: rest) = .ok ([], rest) := by
  have noGap : isGap ']' = false := rfl
  have ends : nextItem first (']' :: rest) = .ok none := by
    simp only [nextItem, skipGap_cons noGap]
  simp only [readItems, ends, bind, Except.bind, skipGap_cons noGap]
  rfl

theorem nextItem_first {j : Json} (integral : j.Integral) (rest : List Char) :
    nextItem true (toChars j ++ rest) = .ok (some (toChars j ++ rest)) := by
  obtain ⟨c, others, text, noGap, noEnd⟩ := toChars_head integral
  simp only [text, List.cons_append, nextItem, skipGap_cons noGap, if_true]

theorem nextItem_later {j : Json} (integral : j.Integral) (rest : List Char) :
    nextItem false (',' :: (toChars j ++ rest)) = .ok (some (toChars j ++ rest)) := by
  obtain ⟨c, others, text, noGap, noEnd⟩ := toChars_head integral
  have comma : isGap ',' = false := rfl
  have goesOn : (',' : Char) ≠ ']' := by decide
  simp only [text, List.cons_append, nextItem, skipGap_cons comma, skipGap_cons noGap,
    Bool.false_eq_true, if_false, ne_eq, not_true_eq_false]
  split
  · contradiction
  · next ends => exact (noEnd (List.cons.inj ends).1).elim
  · rfl

/-- The object goes on with a member. -/
theorem readMembers_member {fuel levels : Nat} {first : Bool} {done members : List (String × Json)}
    {source rest last : List Char} {key : String} {value : Json} {text : List Char}
    (starts : nextMember first source =
      .ok (some (key.toList.flatMap textChar ++ '"' :: ':' :: text)))
    (reads : readValue fuel levels text = .ok (value, rest))
    (others : readMembers fuel levels false (insertMember key value done) rest =
      .ok (members, last)) :
    readMembers (fuel + 1) levels first done source = .ok (members, last) := by
  have colon : isGap ':' = false := rfl
  simp only [readMembers, starts, readText_textChars, afterColon, skipGap_cons colon, reads, others,
    bind, Except.bind]

theorem readMembers_end (fuel levels : Nat) (first : Bool) (done : List (String × Json))
    (rest : List Char) :
    readMembers (fuel + 1) levels first done ('}' :: rest) = .ok (done, rest) := by
  have noGap : isGap '}' = false := rfl
  have ends : nextMember first ('}' :: rest) = .ok none := by
    simp only [nextMember, skipGap_cons noGap]
  simp only [readMembers, ends, bind, Except.bind, skipGap_cons noGap]
  rfl

theorem nextMember_first (key : String) (text : List Char) :
    nextMember true (textChars key ++ ':' :: text) =
      .ok (some (key.toList.flatMap textChar ++ '"' :: ':' :: text)) := by
  have quote : isGap '"' = false := rfl
  have goesOn : ('"' : Char) ≠ '}' := by decide
  simp only [textChars, List.cons_append, List.append_assoc, List.nil_append, nextMember,
    skipGap_cons quote, if_true]

theorem nextMember_later (key : String) (text : List Char) :
    nextMember false (',' :: (textChars key ++ ':' :: text)) =
      .ok (some (key.toList.flatMap textChar ++ '"' :: ':' :: text)) := by
  have quote : isGap '"' = false := rfl
  have comma : isGap ',' = false := rfl
  have goesOn : (',' : Char) ≠ '}' := by decide
  simp only [textChars, List.cons_append, List.append_assoc, List.nil_append, nextMember,
    skipGap_cons comma, skipGap_cons quote, Bool.false_eq_true, if_false, ne_eq, not_true_eq_false]

theorem readValue_array {fuel levels : Nat} {text rest : List Char} {items : List Json}
    (deep : 1 < levels) (reads : readItems fuel (levels - 1) true text = .ok (items, rest)) :
    readValue (fuel + 1) levels ('[' :: text) = .ok (.array items, rest) := by
  have noGap : isGap '[' = false := rfl
  simp only [readValue, skipGap_cons noGap, Nat.not_le.mpr deep, if_false, reads, bind, Except.bind]
  rfl

theorem readValue_object {fuel levels : Nat} {text rest : List Char}
    {members : List (String × Json)} (deep : 1 < levels)
    (reads : readMembers fuel (levels - 1) true [] text = .ok (members, rest)) :
    readValue (fuel + 1) levels ('{' :: text) = .ok (.object members, rest) := by
  have noGap : isGap '{' = false := rfl
  simp only [readValue, skipGap_cons noGap, Nat.not_le.mpr deep, if_false, reads, bind, Except.bind]
  rfl

mutual

/-- A document is read back, wherever it stands. -/
theorem readValue_toChars (j : Json) {fuel levels : Nat} {rest : List Char} (integral : j.Integral)
    (ordered : j.Ordered) (shallow : j.depth < levels) (enough : 2 * j.toChars.length ≤ fuel)
    (ends : Ends rest) :
    readValue fuel levels (j.toChars ++ rest) = .ok (j, rest) := by
  obtain ⟨c, others, text, _⟩ := toChars_head integral
  have positive : 0 < j.toChars.length := by rw [text]; exact Nat.succ_pos _
  obtain ⟨fuel, rfl⟩ := Nat.exists_eq_succ_of_ne_zero (n := fuel) (by omega)
  cases j with
  | null => rfl
  | bool b => cases b <;> rfl
  | int n => exact readValue_int integral ends
  | real x => exact integral.elim
  | text s => exact readValue_text s fuel levels rest
  | array items =>
    have text : (Json.array items).toChars ++ rest = '[' :: (itemChars items ++ ']' :: rest) := by
      simp only [toChars, List.cons_append, List.append_assoc, List.nil_append]
    have length : (Json.array items).toChars.length = (itemChars items).length + 2 := by
      simp only [toChars, List.cons_append, List.length_cons, List.length_append, List.length_nil]
    rw [length] at enough
    have deep : itemsDepth items + 1 < levels := shallow
    rw [text]
    refine readValue_array (by omega) ?_
    obtain ⟨fuel, rfl⟩ := Nat.exists_eq_succ_of_ne_zero (n := fuel) (by omega)
    cases items with
    | nil => exact readItems_end fuel _ true rest
    | cons item more =>
      simp only [itemsDepth] at deep
      rw [itemChars_cons, List.length_append] at enough
      rw [itemChars_cons, List.append_assoc]
      exact readItems_item (nextItem_first integral.1 _)
        (readValue_toChars item integral.1 ordered.1 (by omega) (by omega)
          (ends_laterItems more rest))
        (readItems_later more integral.2 ordered.2 (by omega) (by omega) rest)
  | object members =>
    have text : (Json.object members).toChars ++ rest =
        '{' :: (memberChars members ++ '}' :: rest) := by
      simp only [toChars, List.cons_append, List.append_assoc, List.nil_append]
    have length : (Json.object members).toChars.length = (memberChars members).length + 2 := by
      simp only [toChars, List.cons_append, List.length_cons, List.length_append, List.length_nil]
    rw [length] at enough
    have deep : membersDepth members + 1 < levels := shallow
    rw [text]
    refine readValue_object (by omega) ?_
    obtain ⟨fuel, rfl⟩ := Nat.exists_eq_succ_of_ne_zero (n := fuel) (by omega)
    cases members with
    | nil => exact readMembers_end fuel _ true [] rest
    | cons member more =>
      obtain ⟨key, value⟩ := member
      simp only [membersDepth] at deep
      rw [memberChars_cons, List.length_append, List.length_cons, List.length_append] at enough
      rw [memberChars_cons, List.append_assoc, List.cons_append, List.append_assoc]
      refine readMembers_member (nextMember_first key _)
        (readValue_toChars value integral.1 ordered.2.1 (by omega) (by omega)
          (ends_laterMembers more rest)) ?_
      refine readMembers_later more integral.2 ordered.2.2 (by omega) (by omega)
        [(key, value)] ?_ rest
      intro before isBefore member isMember
      obtain rfl := List.mem_singleton.mp isBefore
      exact ordered.1 member isMember

/-- Items behind a comma are read back. -/
theorem readItems_later (items : List Json) {fuel levels : Nat} (integral : ItemsIntegral items)
    (ordered : ItemsOrdered items) (shallow : itemsDepth items < levels)
    (enough : 2 * (laterItems items).length + 1 ≤ fuel) (rest : List Char) :
    readItems fuel levels false (laterItems items ++ ']' :: rest) = .ok (items, rest) := by
  obtain ⟨fuel, rfl⟩ := Nat.exists_eq_succ_of_ne_zero (n := fuel) (by omega)
  cases items with
  | nil => exact readItems_end fuel levels false rest
  | cons item more =>
    simp only [itemsDepth, Nat.max_lt] at shallow
    have text : laterItems (item :: more) = ',' :: (item.toChars ++ laterItems more) := by
      rw [← itemChars_cons]
      rfl
    rw [text, List.length_cons, List.length_append] at enough
    rw [text, List.cons_append, List.append_assoc]
    exact readItems_item (nextItem_later integral.1 _)
      (readValue_toChars item integral.1 ordered.1 shallow.1 (by omega) (ends_laterItems more rest))
      (readItems_later more integral.2 ordered.2 shallow.2 (by omega) rest)

/-- Members behind a comma are read back, after those that stand before it. -/
theorem readMembers_later (members : List (String × Json)) {fuel levels : Nat}
    (integral : MembersIntegral members) (ordered : MembersOrdered members)
    (shallow : membersDepth members < levels)
    (enough : 2 * (laterMembers members).length + 1 ≤ fuel) (done : List (String × Json))
    (greater : ∀ before ∈ done, ∀ member ∈ members, before.1 < member.1) (rest : List Char) :
    readMembers fuel levels false done (laterMembers members ++ '}' :: rest) =
      .ok (done ++ members, rest) := by
  obtain ⟨fuel, rfl⟩ := Nat.exists_eq_succ_of_ne_zero (n := fuel) (by omega)
  cases members with
  | nil => rw [List.append_nil]; exact readMembers_end fuel levels false done rest
  | cons member more =>
    obtain ⟨key, value⟩ := member
    simp only [membersDepth, Nat.max_lt] at shallow
    have text : laterMembers ((key, value) :: more) =
        ',' :: (textChars key ++ ':' :: (value.toChars ++ laterMembers more)) := by
      rw [← memberChars_cons]
      rfl
    rw [text, List.length_cons, List.length_append, List.length_cons, List.length_append] at enough
    rw [text, List.cons_append, List.append_assoc, List.cons_append, List.append_assoc]
    refine readMembers_member (nextMember_later key _)
      (readValue_toChars value integral.1 ordered.2.1 shallow.1 (by omega)
        (ends_laterMembers more rest)) ?_
    rw [insertMember_last value fun before isBefore => greater before isBefore (key,
      value) List.mem_cons_self]
    have moved : done ++ (key, value) :: more = done ++ [(key, value)] ++ more := by
      rw [List.append_assoc, List.singleton_append]
    rw [moved]
    refine readMembers_later more integral.2 ordered.2.2 shallow.2 (by omega)
      (done ++ [(key, value)]) ?_ rest
    intro before isBefore member isMember
    rcases List.mem_append.mp isBefore with isDone | isKey
    · exact greater before isDone member (List.mem_cons_of_mem _ isMember)
    · obtain rfl := List.mem_singleton.mp isKey
      exact ordered.1 member isMember

end

/-- A document that was written is read as the same document. -/
theorem read_write {j : Json} (integral : j.Integral) (ordered : j.Ordered)
    (shallow : j.depth ≤ 127) :
    read j.write = .ok j := by
  have ends : Ends [] := nofun
  have enough : 2 * j.toChars.length ≤ 2 * j.toChars.length + 2 := Nat.le_add_right _ 2
  have reads := readValue_toChars j integral ordered (Nat.lt_succ_of_le shallow) enough ends
  rw [List.append_nil] at reads
  have done : readDocument j.toChars = .ok j := by
    simp only [readDocument, reads, bind, Except.bind]
    rfl
  simp only [read, write, String.toList_ofList, done]

end RowMapper.Json
