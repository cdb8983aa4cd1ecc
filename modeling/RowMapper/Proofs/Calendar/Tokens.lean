import Mathlib.Data.List.TakeDrop
import RowMapper.Calendar.Interval
/-!
How a text is cut into the tokens of an interval. Every token is a clock, a number or a word, and
what the lexer takes away from a text stood at its start. The other way round, a clock or a number
is taken whole if nothing behind it could continue it, and a word if it ends where words end.
-/

set_option autoImplicit false

namespace RowMapper.Calendar.Interval

open Text (isBlank isDecimalDigit)

/-! ## The forms of tokens -/

/-- Characters of a class, at least one. -/
structure IsRun (p : Char → Bool) (text : List Char) : Prop where
  nonempty : text ≠ []
  within : ∀ c ∈ text, p c

instance (p : Char → Bool) (text : List Char) : Decidable (IsRun p text) :=
  decidable_of_iff (text ≠ [] ∧ text.all p)
    ⟨fun ⟨nonempty, within⟩ => ⟨nonempty, List.all_eq_true.mp within⟩,
      fun run => ⟨run.nonempty, List.all_eq_true.mpr run.within⟩⟩

/-- One digit or two. -/
structure IsPair (text : List Char) : Prop where
  digits : IsRun isDecimalDigit text
  short : text.length ≤ 2

instance (text : List Char) : Decidable (IsPair text) :=
  decidable_of_iff (IsRun isDecimalDigit text ∧ text.length ≤ 2)
    ⟨fun ⟨digits, short⟩ => ⟨digits, short⟩, fun pair => ⟨pair.digits, pair.short⟩⟩

/-- A sign, or none. -/
inductive IsSign : List Char → Prop
  | none : IsSign []
  | minus : IsSign ['-']
  | plus : IsSign ['+']

/-- A mark and a text of some form. -/
inductive Behind (mark : Char) (Form : List Char → Prop) : List Char → Prop
  | mark {text : List Char} (form : Form text) : Behind mark Form (mark :: text)

/-- Nothing, or a text of some form. -/
inductive Optionally (Form : List Char → Prop) : List Char → Prop
  | none : Optionally Form []
  | some {text : List Char} (form : Form text) : Optionally Form text

/-- Digits and perhaps a fraction. -/
inductive IsNumeral (p : Char → Bool) : List Char → Prop
  | intro {digits fraction : List Char} (whole : IsRun p digits)
      (places : Optionally (Behind '.' (IsRun p)) fraction) :
      IsNumeral p (digits ++ fraction)

/-- Hours and minutes, perhaps seconds, perhaps a fraction. -/
inductive IsFace : List Char → Prop
  | intro {hour minute second fraction : List Char} (hours : IsPair hour)
      (minutes : Behind ':' IsPair minute) (seconds : Optionally (Behind ':' IsPair) second)
      (places : Optionally (Behind '.' (IsRun isDecimalDigit)) fraction) :
      IsFace (hour ++ (minute ++ (second ++ fraction)))

/-- A text of some form, perhaps with a sign in front. -/
inductive Signed (Form : List Char → Prop) : List Char → Prop
  | intro {mark text : List Char} (isSign : IsSign mark) (form : Form text) :
      Signed Form (mark ++ text)

/-- A number: digits of the class, perhaps a fraction, perhaps a sign. -/
abbrev IsNumber (p : Char → Bool) : List Char → Prop := Signed (IsNumeral p)

/-- A clock: hours and minutes, perhaps seconds, perhaps a fraction, perhaps a sign. -/
abbrev IsClockText : List Char → Prop := Signed IsFace

/-- A word does not start with a sign. -/
inductive IsWord : List Char → Prop
  | intro {c : Char} {more : List Char} (first : inWord c ∧ c ≠ '+' ∧ c ≠ '-')
      (within : ∀ d ∈ more, inWord d) :
      IsWord (c :: more)

/-- A token: a clock, a number or a word. -/
inductive IsToken : List Char → Prop
  | clock {token : List Char} (isClock : IsClockText token) : IsToken token
  | number {token : List Char} (isNumber : IsNumber isDecimalDigit token) : IsToken token
  | word {token : List Char} (isWord : IsWord token) : IsToken token

section

variable {p q : Char → Bool} {text rest token : List Char}

theorem IsRun.cons (run : IsRun p text) : ∃ c more, text = c :: more ∧ p c := by
  obtain ⟨c, more, rfl⟩ := List.exists_cons_of_ne_nil run.nonempty
  exact ⟨c, more, rfl, run.within c List.mem_cons_self⟩

theorem IsRun.not_mem (run : IsRun p text) {c : Char} (other : p c = false) : c ∉ text := by
  intro isMember
  have inside := run.within c isMember
  rw [other] at inside
  cases inside

theorem Optionally.not_mem {mark c : Char} {Form : List Char → Prop}
    (part : Optionally (Behind mark Form) text) (differs : c ≠ mark)
    (apart : ∀ text, Form text → c ∉ text) : c ∉ text := by
  cases part with
  | none => exact List.not_mem_nil
  | some behind =>
    obtain ⟨form⟩ := behind
    exact List.not_mem_cons_of_ne_of_not_mem differs (apart _ form)

theorem IsNumeral.cons (isNumeral : IsNumeral p text) : ∃ c more, text = c :: more ∧ p c := by
  obtain ⟨whole, -⟩ := isNumeral
  obtain ⟨c, more, rfl, inside⟩ := whole.cons
  exact ⟨c, _, List.cons_append, inside⟩

theorem IsNumeral.mem (isNumeral : IsNumeral p text) {c : Char} (isMember : c ∈ text) :
    p c ∨ c = '.' := by
  obtain ⟨whole, places⟩ := isNumeral
  rcases List.mem_append.mp isMember with inWhole | inPlaces
  · exact .inl (whole.within c inWhole)
  · cases places with
    | none => cases inPlaces
    | some behind =>
      obtain ⟨run⟩ := behind
      exact (List.mem_cons.mp inPlaces).symm.imp (run.within c) id

theorem IsNumeral.not_mem (isNumeral : IsNumeral p text) {c : Char} (other : p c = false)
    (point : c ≠ '.') :
    c ∉ text := by
  intro isMember
  rcases isNumeral.mem isMember with inside | isPoint
  · rw [other] at inside
    cases inside
  · exact point isPoint

theorem IsNumber.not_mem (isNumber : IsNumber p text) {c : Char} (other : p c = false)
    (mark : c ≠ '-' ∧ c ≠ '+' ∧ c ≠ '.') : c ∉ text := by
  obtain ⟨isSign, isNumeral⟩ := isNumber
  rw [List.mem_append, not_or]
  exact ⟨by cases isSign <;> simp [mark], isNumeral.not_mem other mark.2.2⟩

theorem IsFace.cons (isFace : IsFace text) : ∃ c more, text = c :: more ∧ isDecimalDigit c := by
  obtain ⟨hours, -, -, -⟩ := isFace
  obtain ⟨c, more, rfl, digit⟩ := hours.digits.cons
  exact ⟨c, _, List.cons_append, digit⟩

theorem IsFace.colon (isFace : IsFace text) : ':' ∈ text := by
  obtain ⟨-, ⟨-⟩, -, -⟩ := isFace
  simp

theorem IsClockText.colon (isClock : IsClockText text) : ':' ∈ text := by
  obtain ⟨-, isFace⟩ := isClock
  exact List.mem_append_right _ isFace.colon

theorem inWord_digit {c : Char} (inside : inWord c) : isDecimalDigit c = false := by
  simp only [inWord, Bool.and_eq_true, Bool.not_eq_true'] at inside
  exact inside.2

theorem IsWord.noDigit (isWord : IsWord text) {c : Char} (isMember : c ∈ text) :
    isDecimalDigit c = false := by
  obtain ⟨first, within⟩ := isWord
  rcases List.mem_cons.mp isMember with rfl | later
  · exact inWord_digit first.1
  · exact inWord_digit (within c later)

theorem isDecimalDigit_of_isDigit {c : Char} (digit : c.isDigit) : isDecimalDigit c := by
  have small : c.toNat < 128 := by
    simp only [Char.isDigit, Bool.and_eq_true, decide_eq_true_eq, UInt32.le_iff_toNat_le] at digit
    have high : c.toNat ≤ 57 := digit.2
    omega
  rw [isDecimalDigit, if_pos small, digit]

theorem isDigit_of_not_isDecimalDigit {c : Char} (other : isDecimalDigit c = false) :
    c.isDigit = false := by
  by_contra digit
  rw [isDecimalDigit_of_isDigit (by simpa using digit)] at other
  cases other

/-! ## What the lexer takes -/

/-- The part takes texts of some form from the start of a text. -/
def Takes (part : List Char → Lexed) (Form : List Char → Prop) : Prop :=
  ∀ text taken rest, part text = some (taken, rest) → text = taken ++ rest ∧ Form taken

theorem takes_digitPair : Takes digitPair IsPair := by
  intro text taken rest takes
  unfold digitPair at takes
  split at takes
  · split at takes
    · cases takes
    · next digit =>
      simp only [Bool.not_eq_true, Bool.not_eq_false'] at digit
      split at takes
      · next next =>
        cases takes
        exact ⟨rfl, ⟨List.cons_ne_nil _ _, by simp [digit, next]⟩, by simp⟩
      · cases takes
        exact ⟨rfl, ⟨List.cons_ne_nil _ _, by simp [digit]⟩, by simp⟩
  · split at takes
    · next digit =>
      cases takes
      exact ⟨rfl, ⟨List.cons_ne_nil _ _, by simp [digit]⟩, by simp⟩
    · cases takes
  · cases takes

theorem takes_digitRun : Takes digitRun (IsRun isDecimalDigit) := by
  intro text taken rest takes
  have whole := List.takeWhile_append_dropWhile (p := isDecimalDigit) (l := text)
  have within := List.all_eq_true.mp (List.all_takeWhile (p := isDecimalDigit) (l := text))
  simp only [digitRun, List.span_eq_takeWhile_dropWhile] at takes
  split at takes
  · cases takes
  · next nonempty =>
    cases takes
    exact ⟨whole.symm, fun empty => nonempty _ (by rw [empty]), within⟩

theorem takes_colonPair : Takes colonPair (Behind ':' IsPair) := by
  intro text taken rest takes
  unfold colonPair at takes
  split at takes
  · obtain ⟨⟨digits, rest⟩, found, same⟩ := Option.map_eq_some_iff.mp takes
    cases same
    obtain ⟨rfl, pair⟩ := takes_digitPair _ _ _ found
    exact ⟨rfl, .mark pair⟩
  · cases takes

theorem takes_fraction : Takes fraction (Behind '.' (IsRun isDecimalDigit)) := by
  intro text taken rest takes
  unfold fraction at takes
  split at takes
  · obtain ⟨⟨digits, rest⟩, found, same⟩ := Option.map_eq_some_iff.mp takes
    cases same
    obtain ⟨rfl, run⟩ := takes_digitRun _ _ _ found
    exact ⟨rfl, .mark run⟩
  · cases takes

theorem Takes.orEmpty {part : List Char → Lexed} {Form : List Char → Prop} (takes : Takes part Form)
    (text : List Char) :
    ∃ taken rest, orEmpty part text = (taken, rest) ∧ text = taken ++ rest ∧
      Optionally Form taken := by
  unfold Interval.orEmpty
  cases taken : part text with
  | none => exact ⟨[], text, rfl, rfl, .none⟩
  | some found =>
    obtain ⟨whole, form⟩ := takes _ _ _ taken
    exact ⟨found.1, found.2, rfl, whole, .some form⟩

theorem sign_takes (text : List Char) :
    ∃ mark rest, sign text = (mark, rest) ∧ text = mark ++ rest ∧ IsSign mark := by
  unfold sign
  split
  · exact ⟨_, _, rfl, rfl, .minus⟩
  · exact ⟨_, _, rfl, rfl, .plus⟩
  · exact ⟨_, _, rfl, rfl, .none⟩

theorem takes_clockToken : Takes clockToken IsClockText := by
  intro text taken rest takes
  obtain ⟨mark, afterSign, signed, rfl, isSign⟩ := sign_takes text
  simp only [clockToken, signed] at takes
  obtain ⟨⟨hour, afterHour⟩, hours, behindHour⟩ := Option.bind_eq_some_iff.mp takes
  obtain ⟨⟨minute, afterMinute⟩, minutes, behindMinute⟩ := Option.bind_eq_some_iff.mp behindHour
  obtain ⟨rfl, isHour⟩ := takes_digitPair _ _ _ hours
  obtain ⟨rfl, isMinute⟩ := takes_colonPair _ _ _ minutes
  obtain ⟨second, afterSecond, seconds, rfl, isSecond⟩ := takes_colonPair.orEmpty afterMinute
  obtain ⟨places, afterPlaces, counted, rfl, arePlaces⟩ := takes_fraction.orEmpty afterSecond
  simp only [seconds, counted] at behindMinute
  cases behindMinute
  have face := Signed.intro isSign (IsFace.intro isHour isMinute isSecond arePlaces)
  simpa only [List.append_assoc, true_and] using face

theorem takes_numberToken : Takes numberToken (IsNumber isDecimalDigit) := by
  intro text taken rest takes
  obtain ⟨mark, afterSign, signed, rfl, isSign⟩ := sign_takes text
  simp only [numberToken, signed] at takes
  obtain ⟨⟨digits, afterDigits⟩, found, behindDigits⟩ := Option.bind_eq_some_iff.mp takes
  obtain ⟨rfl, areDigits⟩ := takes_digitRun _ _ _ found
  obtain ⟨places, afterPlaces, counted, rfl, arePlaces⟩ := takes_fraction.orEmpty afterDigits
  simp only [counted] at behindDigits
  cases behindDigits
  have number := Signed.intro isSign (IsNumeral.intro areDigits arePlaces)
  simpa only [List.append_assoc, true_and] using number

theorem takes_wordToken : Takes wordToken IsWord := by
  intro text taken rest takes
  cases text with
  | nil => cases takes
  | cons c more =>
    have whole := List.takeWhile_append_dropWhile (p := inWord) (l := more)
    have within := List.all_eq_true.mp (List.all_takeWhile (p := inWord) (l := more))
    simp only [wordToken, List.span_eq_takeWhile_dropWhile] at takes
    split at takes
    · next first =>
      cases takes
      simp only [Bool.and_eq_true, decide_eq_true_eq, and_assoc] at first
      exact ⟨by rw [List.cons_append, whole], .intro first within⟩
    · cases takes

theorem takes_firstToken : Takes firstToken IsToken := by
  intro text taken rest takes
  simp only [firstToken, HOrElse.hOrElse, OrElse.orElse, Option.orElse_eq_or,
    Option.or_eq_some_iff] at takes
  rcases takes with clock | ⟨-, number | ⟨-, word⟩⟩
  · obtain ⟨whole, form⟩ := takes_clockToken _ _ _ clock
    exact ⟨whole, .clock form⟩
  · obtain ⟨whole, form⟩ := takes_numberToken _ _ _ number
    exact ⟨whole, .number form⟩
  · obtain ⟨whole, form⟩ := takes_wordToken _ _ _ word
    exact ⟨whole, .word form⟩

theorem IsToken.ne_nil (isToken : IsToken token) : token ≠ [] := by
  cases isToken with
  | clock isClock => exact List.ne_nil_of_mem isClock.colon
  | number isNumber =>
    obtain ⟨-, ⟨whole, -⟩⟩ := isNumber
    simp [whole.nonempty]
  | word isWord =>
    obtain ⟨-, -⟩ := isWord
    exact List.cons_ne_nil _ _

theorem isToken_of_mem_tokens (isMember : token ∈ tokens text) : IsToken token := by
  induction text using tokens.induct with
  | case1 => simp [tokens] at isMember
  | case2 c text first rest found shorter ih =>
    simp only [tokens, found, shorter, if_true, List.mem_cons] at isMember
    rcases isMember with rfl | later
    · exact (takes_firstToken _ _ _ found).2
    · exact ih later
  | case3 c text first rest found longer ih =>
    simp only [tokens, found, longer, if_false] at isMember
    exact ih isMember
  | case4 c text none ih =>
    simp only [tokens, none] at isMember
    exact ih isMember

theorem tokens_of_firstToken (found : firstToken text = some (token, rest)) :
    tokens text = token :: tokens rest := by
  obtain ⟨rfl, isToken⟩ := takes_firstToken _ _ _ found
  obtain ⟨c, more, rfl⟩ := List.exists_cons_of_ne_nil isToken.ne_nil
  have shorter : rest.length < (more ++ rest).length + 1 := by
    rw [List.length_append]
    omega
  rw [List.cons_append] at found ⊢
  simp only [tokens, found, shorter, if_true]

/-! ## What the lexer is given -/

/-- No character of the class stands at the start of the text. -/
def Halts (p : Char → Bool) (text : List Char) : Prop := ∀ c ∈ text.head?, p c = false

theorem halts_nil : Halts p [] := nofun

theorem halts_cons {c : Char} : Halts p (c :: text) ↔ p c = false := by simp [Halts]

theorem Halts.mono (halts : Halts q text) (imp : ∀ c, q c = false → p c = false) : Halts p text :=
  fun c isHead => imp c (halts c isHead)

/-- The character could continue a number or a clock. -/
def continues (c : Char) : Bool := isDecimalDigit c || c = '.' || c = ':'

theorem continues_eq_false {c : Char} : continues c = false ↔
    isDecimalDigit c = false ∧ c ≠ '.' ∧ c ≠ ':' := by
  simp [continues, and_assoc]

theorem Halts.digit (halts : Halts continues text) : Halts isDecimalDigit text :=
  halts.mono fun _ other => (continues_eq_false.mp other).1

theorem digitRun_append (run : IsRun isDecimalDigit text) (halts : Halts isDecimalDigit rest) :
    digitRun (text ++ rest) = some (text, rest) := by
  have stop : rest.takeWhile isDecimalDigit = [] ∧ rest.dropWhile isDecimalDigit = rest := by
    cases rest with
    | nil => exact ⟨rfl, rfl⟩
    | cons c more => simp [halts_cons.mp halts]
  have whole : (text ++ rest).span isDecimalDigit = (text, rest) := by
    rw [List.span_eq_takeWhile_dropWhile, List.takeWhile_append_of_pos run.within,
      List.dropWhile_append_of_pos run.within, stop.1, stop.2, List.append_nil]
  unfold digitRun
  rw [whole]
  split
  · next empty =>
    cases empty
    exact (run.nonempty rfl).elim
  · rfl

theorem digitPair_append (pair : IsPair text) (halts : Halts isDecimalDigit rest) :
    digitPair (text ++ rest) = some (text, rest) := by
  obtain ⟨⟨nonempty, within⟩, short⟩ := pair
  match text, nonempty with
  | [a], _ =>
    have digit := within a List.mem_cons_self
    cases rest with
    | nil => simp [digitPair, digit]
    | cons c more => simp [digitPair, digit, halts_cons.mp halts]
  | [a, b], _ =>
    have digit := within a List.mem_cons_self
    have next := within b (by simp)
    simp [digitPair, digit, next]
  | _ :: _ :: _ :: _, _ => simp at short

theorem colonPair_append (isMinute : Behind ':' IsPair text) (halts : Halts isDecimalDigit rest) :
    colonPair (text ++ rest) = some (text, rest) := by
  obtain ⟨pair⟩ := isMinute
  rw [List.cons_append, colonPair, digitPair_append pair halts, Option.map_some]

theorem fraction_append (places : Behind '.' (IsRun isDecimalDigit) text)
    (halts : Halts isDecimalDigit rest) :
    fraction (text ++ rest) = some (text, rest) := by
  obtain ⟨run⟩ := places
  rw [List.cons_append, fraction, digitRun_append run halts, Option.map_some]

theorem colonPair_of_halts (halts : Halts (· = ':') text) : colonPair text = none := by
  unfold colonPair
  split
  · simp [halts_cons] at halts
  · rfl

theorem fraction_of_halts (halts : Halts (· = '.') text) : fraction text = none := by
  unfold fraction
  split
  · simp [halts_cons] at halts
  · rfl

theorem halts_append {mark : Char} {Form : List Char → Prop}
    (part : Optionally (Behind mark Form) text) (notMark : p mark = false) (halts : Halts p rest) :
    Halts p (text ++ rest) := by
  cases part with
  | none => exact halts
  | some behind =>
    obtain ⟨-⟩ := behind
    exact halts_cons.mpr notMark

theorem orEmpty_colonPair (second : Optionally (Behind ':' IsPair) text)
    (digit : Halts isDecimalDigit rest) (colon : Halts (· = ':') rest) :
    orEmpty colonPair (text ++ rest) = (text, rest) := by
  cases second with
  | none => rw [orEmpty, List.nil_append, colonPair_of_halts colon, Option.getD_none]
  | some pair => rw [orEmpty, colonPair_append pair digit, Option.getD_some]

theorem orEmpty_fraction (places : Optionally (Behind '.' (IsRun isDecimalDigit)) text)
    (ends : Halts continues rest) : orEmpty fraction (text ++ rest) = (text, rest) := by
  have point : Halts (· = '.') rest :=
    ends.mono fun _ other => by simp [continues_eq_false.mp other]
  cases places with
  | none => rw [orEmpty, List.nil_append, fraction_of_halts point, Option.getD_none]
  | some run => rw [orEmpty, fraction_append run ends.digit, Option.getD_some]

theorem sign_cons {c : Char} (minus : c ≠ '-') (plus : c ≠ '+') :
    sign (c :: text) = ([], c :: text) := by
  unfold sign
  split
  · next same => exact (minus (List.cons.inj same).1).elim
  · next same => exact (plus (List.cons.inj same).1).elim
  · rfl

theorem ne_of_isDecimalDigit {c d : Char} (digit : isDecimalDigit c)
    (other : isDecimalDigit d = false) : c ≠ d := by
  rintro rfl
  rw [digit] at other
  cases other

/-- A sign is taken off digits. -/
theorem sign_append {mark : List Char} (isSign : IsSign mark) {c : Char}
    (digit : isDecimalDigit c) :
    sign (mark ++ c :: rest) = (mark, c :: rest) := by
  cases isSign with
  | minus => rfl
  | plus => rfl
  | none => exact sign_cons (ne_of_isDecimalDigit digit rfl) (ne_of_isDecimalDigit digit rfl)

theorem IsWord.sign (isWord : IsWord text) : sign text = ([], text) := by
  obtain ⟨⟨-, plus, minus⟩, -⟩ := isWord
  exact sign_cons minus plus

theorem firstToken_clock (isClock : IsClockText token) (ends : Halts continues rest) :
    firstToken (token ++ rest) = some (token, rest) := by
  obtain @⟨mark, _, isSign, @⟨hour, minute, second, fraction, hours, minutes, seconds, places⟩⟩ :=
    isClock
  have digit : Halts isDecimalDigit (fraction ++ rest) := halts_append places rfl ends.digit
  have colon : Halts (· = ':') (fraction ++ rest) :=
    halts_append places rfl (ends.mono fun _ other => by simp [continues_eq_false.mp other])
  have afterHour : Halts isDecimalDigit (minute ++ (second ++ (fraction ++ rest))) := by
    obtain ⟨-⟩ := minutes
    exact halts_cons.mpr rfl
  obtain ⟨c, more, hour_eq, isDigit⟩ := hours.digits.cons
  have signed : sign (mark ++ (hour ++ (minute ++ (second ++ (fraction ++ rest))))) =
      (mark, hour ++ (minute ++ (second ++ (fraction ++ rest)))) := by
    rw [hour_eq, List.cons_append, sign_append isSign isDigit]
  have clock : clockToken (mark ++ (hour ++ (minute ++ (second ++ (fraction ++ rest))))) =
      some (mark ++ hour ++ minute ++ second ++ fraction, rest) := by
    simp only [clockToken, signed, digitPair_append hours afterHour,
      colonPair_append minutes (halts_append seconds rfl digit),
      orEmpty_colonPair seconds digit colon, orEmpty_fraction places ends, bind, Option.bind, pure]
  simp only [List.append_assoc] at clock ⊢
  simp only [firstToken, clock]
  rfl

theorem firstToken_number (isNumber : IsNumber isDecimalDigit token) (ends : Halts continues rest) :
    firstToken (token ++ rest) = some (token, rest) := by
  obtain @⟨mark, _, isSign, @⟨digits, fraction, whole, places⟩⟩ := isNumber
  have digit : Halts isDecimalDigit (fraction ++ rest) := halts_append places rfl ends.digit
  have colon : Halts (· = ':') (fraction ++ rest) :=
    halts_append places rfl (ends.mono fun _ other => by simp [continues_eq_false.mp other])
  obtain ⟨a, more, rfl, isDigit⟩ := whole.cons
  have signed : sign (mark ++ a :: (more ++ (fraction ++ rest))) =
      (mark, a :: (more ++ (fraction ++ rest))) :=
    sign_append isSign isDigit
  -- A clock would need a colon behind the first digit or the first two.
  have noClock : clockToken (mark ++ a :: (more ++ (fraction ++ rest))) = none := by
    have noColon : ∃ pair after, digitPair (a :: (more ++ (fraction ++ rest))) =
        some (pair, after) ∧
        Halts (· = ':') after := by
      cases more with
      | nil =>
        refine ⟨[a], fraction ++ rest, ?_, colon⟩
        exact digitPair_append ⟨whole, by simp⟩ digit
      | cons b others =>
        have next := whole.within b (by simp)
        refine ⟨[a, b], others ++ (fraction ++ rest), by simp [digitPair, isDigit, next], ?_⟩
        cases others with
        | nil => exact colon
        | cons c others =>
          have third := whole.within c (by simp)
          exact halts_cons.mpr (decide_eq_false (ne_of_isDecimalDigit third rfl))
    obtain ⟨pair, after, found, halts⟩ := noColon
    simp only [clockToken, signed, found, colonPair_of_halts halts, bind, Option.bind]
  have number : numberToken (mark ++ a :: (more ++ (fraction ++ rest))) =
      some (mark ++ a :: more ++ fraction, rest) := by
    have run := digitRun_append whole digit
    rw [List.cons_append] at run
    simp only [numberToken, signed, run, orEmpty_fraction places ends, bind, Option.bind, pure]
  simp only [List.append_assoc, List.cons_append] at number noClock ⊢
  simp only [firstToken, noClock, number]
  rfl

/-- Neither a clock nor a number starts with a character that is no sign and no digit. -/
theorem firstToken_other {c : Char} (digit : isDecimalDigit c = false) (minus : c ≠ '-')
    (plus : c ≠ '+') :
    firstToken (c :: text) = wordToken (c :: text) := by
  have signed := @sign_cons text c minus plus
  have noPair : digitPair (c :: text) = none := by
    cases text <;> simp [digitPair, digit]
  have noRun : digitRun (c :: text) = none := by
    simp [digitRun, List.span_eq_takeWhile_dropWhile, digit]
  simp only [firstToken, clockToken, numberToken, signed, noPair, noRun, bind, Option.bind]
  rfl

theorem firstToken_word (isWord : IsWord token) (ends : Halts inWord rest) :
    firstToken (token ++ rest) = some (token, rest) := by
  obtain @⟨c, more, ⟨inside, plus, minus⟩, within⟩ := isWord
  have stop : rest.takeWhile inWord = [] ∧ rest.dropWhile inWord = rest := by
    cases rest with
    | nil => exact ⟨rfl, rfl⟩
    | cons d others => simp [halts_cons.mp ends]
  rw [List.cons_append, firstToken_other (inWord_digit inside) minus plus, wordToken]
  simp [inside, plus, minus, List.span_eq_takeWhile_dropWhile, List.takeWhile_append_of_pos within,
    List.dropWhile_append_of_pos within, stop]

theorem inWord_blank : inWord ' ' = false := by decide +kernel

theorem tokens_blank (rest : List Char) : tokens (' ' :: rest) = tokens rest := by
  have none : firstToken (' ' :: rest) = none := by
    rw [firstToken_other rfl (by decide) (by decide), wordToken]
    simp [inWord_blank]
  simp only [tokens, none]

end

end RowMapper.Calendar.Interval
