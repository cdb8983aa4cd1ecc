import Mathlib.Data.List.Chain
import RowMapper.Proofs.Calendar.Phrases
/-!
Intervals with a minus sign in front of every number and every clock. The sign of a number counts
for all of it, that of a clock for its hours only: the length that is read is the negated one but
for the minutes, seconds and fractions of the clocks, which keep their sign. The two texts are cut
into the same tokens but for the signs, and reading them runs in step: at every token the sum
without signs bounds the other one, so this one stays in range as well.
-/

set_option autoImplicit false

namespace RowMapper.Calendar.Interval

open Text (isDecimalDigit)

/-! ## Signs in front of tokens -/

section

variable {text : List Char} {amount : Amount} {numbers : ClockNumbers}

def Amount.negated (amount : Amount) : Amount := ⟨true, amount.magnitude⟩

/-- The numbers of a clock with a minus sign: only the hours are negative. -/
def negatedHours (numbers : ClockNumbers) : ClockNumbers := { numbers with hour := -numbers.hour }

/-- No number of a clock is negative. -/
structure Unsigned (numbers : ClockNumbers) : Prop where
  hour : 0 ≤ numbers.hour
  minute : 0 ≤ numbers.minute
  second : 0 ≤ numbers.second
  micro : 0 ≤ numbers.micro

theorem readAmount_negated (isNumeral : IsNumeral isDecimalDigit text)
    (reads : readAmount text = some amount) :
    amount.negative = false ∧ readAmount ('-' :: text) = some amount.negated := by
  have plain : sign text = ([], text) := isNumeral.sign .none fun _ => id
  have signed : sign ('-' :: text) = (['-'], text) := isNumeral.sign .minus fun _ => id
  rw [readAmount_eq, plain] at reads
  obtain ⟨size, magnitude, rfl⟩ := Option.map_eq_some_iff.mp reads
  rw [readAmount_eq, signed, magnitude]
  exact ⟨rfl, rfl⟩

theorem IsFace.no_minus (isFace : IsFace text) : '-' ∉ text := by
  obtain ⟨hours, ⟨minutes⟩, seconds, places⟩ := isFace
  simp only [List.mem_append, List.mem_cons, not_or]
  exact ⟨hours.digits.not_mem rfl, ⟨by decide, minutes.digits.not_mem rfl⟩,
    seconds.not_mem (by decide) fun _ pair => pair.digits.not_mem rfl,
    places.not_mem (by decide) fun _ digits => digits.not_mem rfl⟩

/-- A minus sign in front of a clock counts for its hours. -/
theorem readNumbers_negated (isFace : IsFace text) (reads : Clock.readNumbers text = some numbers) :
    Unsigned numbers ∧ Clock.readNumbers ('-' :: text) = some (negatedHours numbers) := by
  obtain ⟨fraction, spells, counts, hourFits, minuteFits, secondFits⟩ :=
    Clock.readNumbers_eq_some_iff.mp reads
  obtain ⟨⟨hour, minute, second⟩, places⟩ := spells.nonneg isFace.no_minus
  refine ⟨⟨hour, minute, second, Clock.fractionMicros_nonneg counts places⟩, ?_⟩
  obtain ⟨c, rest, rfl, digit⟩ := isFace.cons
  have negated := spells.negated (ne_of_isDecimalDigit digit rfl) (ne_of_isDecimalDigit digit rfl)
  refine Clock.readNumbers_eq_some_iff.mpr ⟨fraction, negated, counts, ?_, minuteFits, secondFits⟩
  unfold Number.FitsInt64 at hourFits ⊢
  simp only [negatedHours]
  omega

end

/-! ## Sums that run in step -/

/-- The length is no longer than the bound, whatever its sign. -/
def Within (bound length : Duration) : Prop :=
  -bound.nanos ≤ length.nanos ∧ length.nanos ≤ bound.nanos

/-- Lengths that bound others one by one bound their sum as well, so it is in range wherever theirs
is. -/
theorem sumUp_within {sum sum' all : Duration} {lengths lengths' : List Duration}
    (within : Within sum sum') (pairs : List.Forall₂ Within lengths lengths')
    (adds : sumUp sum lengths = .ok all) :
    ∃ all', sumUp sum' lengths' = .ok all' ∧ Within all all' ∧
      all.nanos + all'.nanos = sum.nanos + sum'.nanos + (total lengths + total lengths') := by
  induction pairs generalizing sum sum' with
  | nil =>
    cases adds
    exact ⟨sum', rfl, within, by simp [total]⟩
  | @cons length length' rest rest' bounded _ ih =>
    rw [sumUp] at adds
    cases added : sum.add? length with
    | none =>
      rw [added] at adds
      cases adds
    | some next =>
      rw [added] at adds
      obtain ⟨same, low, high⟩ := add?_eq_some_iff.mp added
      unfold Within at within bounded
      obtain ⟨next', same'⟩ : ∃ next' : Duration, next'.nanos = sum'.nanos + length'.nanos :=
        ⟨⟨_⟩, rfl⟩
      have added' : sum'.add? length' = some next' :=
        add?_eq_some_iff.mpr ⟨same', by omega, by omega⟩
      have bounds : Within next next' := by
        unfold Within
        omega
      obtain ⟨all', adds', inside, sums⟩ := ih bounds adds
      refine ⟨all', ?_, inside, ?_⟩
      · rw [sumUp, added']
        exact adds'
      · simp only [total, List.map_cons, List.sum_cons] at sums ⊢
        omega

/-- The amount in this unit is no more than the largest count of microseconds. -/
def Amount.Fits (amount : Amount) (unit : Float) : Prop :=
  nearestNat (amount.magnitude * unit) ≤ 9223372036854775807

theorem toDuration_negated {amount : Amount} {unit : Float} (positive : amount.negative = false)
    (fits : amount.Fits unit) :
    (amount.negated.toDuration unit).nanos = -(amount.toDuration unit).nanos ∧
      0 ≤ (amount.toDuration unit).nanos := by
  unfold Amount.Fits at fits
  simp only [Amount.toDuration, Amount.negated, positive, Duration.micros,
    Number.clampInt64, if_true, Bool.false_eq_true, if_false]
  generalize nearestNat (amount.magnitude * unit) = size at fits ⊢
  omega

/-! ## Reading that runs in step -/

/-- The seconds that a clock has behind its hours, in nanoseconds; nothing else has any. -/
def behindHour (token : List Char) : Int :=
  match Clock.readNumbers token with
  | none => 0
  | some numbers => (numbers.minute * 60 + numbers.second) * 1000000000 + numbers.micro * 1000

/-- The seconds that all clocks have behind their hours, in nanoseconds. -/
def behindHours (tokens : List (List Char)) : Int := (tokens.map behindHour).sum

/-- The unit that an amount has for what stands behind it: a clock makes it days, and nothing makes
it seconds. -/
def scale? : Option (List Char) → Option Float
  | none => some second
  | some token => if ':' ∈ token then some day else unit? (String.ofList token)

/-- Every amount fits the unit that it has for the token behind it. -/
def AllFit : List (List Char) → Prop
  | [] => True
  | number :: behind =>
    (∀ amount unit, readAmount number = some amount → scale? behind.head? = some unit →
      amount.Fits unit) ∧
      AllFit behind

/-- A token and the same with a minus sign in front, or a unit, which has none. -/
inductive Opposite : List Char → List Char → Prop
  | number {text : List Char} (isNumeral : IsNumeral isDecimalDigit text) :
      Opposite text ('-' :: text)
  | clock {text : List Char} (isFace : IsFace text) : Opposite text ('-' :: text)
  | unit {word : List Char} (isUnitWord : IsUnitWord word) : Opposite word word

/-- The sum with the signs is within the sum without, and the same amount waits, with a sign. -/
structure Mirrors (p q : Progress) : Prop where
  sum : Within p.sum q.sum
  waiting : q.waiting = p.waiting.map Amount.negated
  positive : ∀ amount ∈ p.waiting, amount.negative = false

section

variable {token token' : List Char} {tokens tokens' : List (List Char)} {p q next : Progress}

theorem readNumbers_of_no_colon (noColon : ':' ∉ token) : Clock.readNumbers token = none := by
  cases reads : Clock.readNumbers token with
  | none => rfl
  | some numbers =>
    obtain ⟨fraction, spells, -⟩ := Clock.readNumbers_eq_some_iff.mp reads
    obtain ⟨hour, rest, rfl, -⟩ := spells.hour
    simp at noColon

theorem behindHour_of_no_colon (noColon : ':' ∉ token) : behindHour token = 0 := by
  rw [behindHour, readNumbers_of_no_colon noColon]

theorem behindHours_cons (token : List Char) (rest : List (List Char)) :
    behindHours (token :: rest) = behindHour token + behindHours rest := by
  rw [behindHours, List.map_cons, List.sum_cons, ← behindHours]

theorem total_clockLengths (numbers : ClockNumbers) :
    total (clockLengths numbers) + total (clockLengths (negatedHours numbers)) =
      2 * ((numbers.minute * 60 + numbers.second) * 1000000000 + numbers.micro * 1000) := by
  simp only [total, clockLengths, negatedHours, Duration.seconds, Duration.micros, List.map_cons,
    List.map_nil, List.sum_cons, List.sum_nil]
  omega

theorem Unsigned.within {numbers : ClockNumbers} (unsigned : Unsigned numbers) :
    List.Forall₂ Within (clockLengths numbers) (clockLengths (negatedHours numbers)) := by
  obtain ⟨hour, minute, second, micro⟩ := unsigned
  simp only [clockLengths, negatedHours, Duration.seconds, Duration.micros]
  refine .cons ?_ (.cons ?_ (.cons ?_ (.cons ?_ .nil)))
  all_goals
    simp only [Within]
    omega

/-- What an amount that waits adds, with and without the sign. -/
theorem within_waiting {waiting : Option Amount} {unit : Float}
    (positive : ∀ amount ∈ waiting, amount.negative = false)
    (fits : ∀ amount ∈ waiting, amount.Fits unit) :
    List.Forall₂ Within (waiting.map fun amount => amount.toDuration unit).toList
        ((waiting.map Amount.negated).map fun amount => amount.toDuration unit).toList ∧
      total (waiting.map fun amount => amount.toDuration unit).toList +
        total ((waiting.map Amount.negated).map fun amount => amount.toDuration unit).toList
        = 0 := by
  cases waiting with
  | none => exact ⟨.nil, rfl⟩
  | some amount =>
    obtain ⟨opposite, nonneg⟩ := toDuration_negated (positive amount rfl) (fits amount rfl)
    simp only [Option.map_some, Option.toList_some, total, List.map_cons, List.map_nil,
      List.sum_cons, List.sum_nil]
    refine ⟨.cons ?_ .nil, by omega⟩
    unfold Within
    omega

theorem IsNumeral.no_colon (isNumeral : IsNumeral isDecimalDigit token) : ':' ∉ token :=
  isNumeral.not_mem rfl (by decide)

/-- One token: what is taken in without sign is taken in with one, and of the sum of the two sums
only the seconds behind the hours of a clock are left. -/
theorem Mirrors.step (mirrors : Mirrors p q) (opposite : Opposite token token')
    (taken : Step token p next)
    (fits : ∀ amount ∈ p.waiting, ∀ unit, scale? (some token) = some unit → amount.Fits unit) :
    ∃ next', Step token' q next' ∧ Mirrors next next' ∧
      next.sum.nanos + next'.sum.nanos = p.sum.nanos + q.sum.nanos + 2 * behindHour token := by
  obtain ⟨sum', waiting'⟩ := q
  obtain ⟨within, rfl, positive⟩ := mirrors
  cases taken with
  | @clock _ numbers all colon reads adds =>
    cases opposite with
    | number isNumeral => exact (isNumeral.no_colon colon).elim
    | unit isUnitWord => exact (isUnitWord.no_colon colon).elim
    | clock isFace =>
      obtain ⟨unsigned, reads'⟩ := readNumbers_negated isFace reads
      have days := within_waiting positive fun amount waits =>
        fits amount waits day (by rw [scale?, if_pos colon])
      obtain ⟨all', adds', inside, sums⟩ :=
        sumUp_within within (List.rel_append days.1 unsigned.within) adds
      refine ⟨⟨all', none⟩, .clock (List.mem_cons_of_mem _ colon) reads' adds',
        ⟨inside, rfl, nofun⟩, ?_⟩
      have behind := total_clockLengths numbers
      rw [total_append, total_append] at sums
      rw [behindHour, reads]
      dsimp only at sums ⊢
      omega
  | @amount sum amount noColon reads =>
    cases opposite with
    | clock isFace => exact (noColon isFace.colon).elim
    | unit isUnitWord =>
      rw [isUnitWord.noAmount] at reads
      cases reads
    | number isNumeral =>
      obtain ⟨unsigned, reads'⟩ := readAmount_negated isNumeral reads
      have noColon' : ':' ∉ '-' :: token := by simp [noColon]
      refine ⟨⟨sum', some amount.negated⟩, .amount noColon' reads', ⟨within, rfl, ?_⟩, ?_⟩
      · rintro _ ⟨⟩
        exact unsigned
      · rw [behindHour_of_no_colon noColon, Int.mul_zero, Int.add_zero]
  | @unit sum all amount unit noColon isUnit adds =>
    cases opposite with
    | clock isFace => exact (noColon isFace.colon).elim
    | number isNumeral =>
      -- A number is no unit: it has a digit.
      obtain ⟨c, rest, rfl, digit⟩ := isNumeral.cons
      rw [(isUnitWord_of_unit isUnit).isWord.noDigit List.mem_cons_self] at digit
      cases digit
    | unit isUnitWord =>
      have scaled : scale? (some token) = some unit := by rw [scale?, if_neg noColon, isUnit]
      obtain ⟨bounds, opposite⟩ :=
        within_waiting positive fun amount waits => fits amount waits unit scaled
      obtain ⟨all', adds', inside, sums⟩ := sumUp_within within bounds adds
      refine ⟨⟨all', none⟩, .unit noColon isUnit adds', ⟨inside, rfl, nofun⟩, ?_⟩
      rw [opposite] at sums
      rw [behindHour_of_no_colon noColon]
      exact sums

/-- All tokens. The induction is on them; the amount that waits fits the unit that the first of them
gives it. -/
theorem Mirrors.run (mirrors : Mirrors p q) (opposite : List.Forall₂ Opposite tokens tokens')
    (fit : AllFit tokens) (fits : ∀ amount ∈ p.waiting, ∀ unit, scale? tokens.head? = some unit →
      amount.Fits unit) {d : Duration}
    (reads : readFrom p tokens = .ok d) :
    ∃ d', readFrom q tokens' = .ok d' ∧
      d.nanos + d'.nanos = p.sum.nanos + q.sum.nanos + 2 * behindHours tokens := by
  induction opposite generalizing p q with
  | nil =>
    obtain ⟨sum', waiting'⟩ := q
    obtain ⟨within, rfl, positive⟩ := mirrors
    obtain ⟨bounds, opposite⟩ :=
      within_waiting positive fun amount waits => fits amount waits second rfl
    obtain ⟨d', adds', -, sums⟩ := sumUp_within within bounds reads
    refine ⟨d', adds', ?_⟩
    rw [behindHours, List.map_nil, List.sum_nil]
    omega
  | @cons token token' rest rest' first _ ih =>
    obtain ⟨next, taken, reads⟩ := readFrom_cons_eq_ok_iff.mp reads
    obtain ⟨next', taken', mirrors', sums⟩ := mirrors.step first taken fits
    have waits : ∀ amount ∈ next.waiting, ∀ unit, scale? rest.head? = some unit →
        amount.Fits unit := by
      cases taken with
      | clock => nofun
      | unit => nofun
      | amount _ isAmount =>
        rintro _ ⟨⟩ unit scaled
        exact fit.1 _ unit isAmount scaled
    obtain ⟨d', reads', ends⟩ := ih mirrors' fit.2 waits reads
    refine ⟨d', readFrom_cons_eq_ok_iff.mpr ⟨next', taken', reads'⟩, ?_⟩
    rw [behindHours_cons]
    omega

theorem Opposite.unsigned (opposite : Opposite token token') {numbers : ClockNumbers}
    (reads : Clock.readNumbers token = some numbers) : Unsigned numbers := by
  cases opposite with
  | clock isFace => exact (readNumbers_negated isFace reads).1
  | number isNumeral =>
    rw [readNumbers_of_no_colon isNumeral.no_colon] at reads
    cases reads
  | unit isUnitWord =>
    rw [isUnitWord.isWord.no_clock] at reads
    cases reads

/-- The seconds behind the hours are never negative, and none only if every clock is at a full
hour. -/
theorem behindHours_eq_zero_iff (opposite : List.Forall₂ Opposite tokens tokens') :
    0 ≤ behindHours tokens ∧ (behindHours tokens = 0 ↔ ∀ token ∈ tokens, ∀ numbers,
      Clock.readNumbers token = some numbers → numbers.minute = 0 ∧ numbers.second = 0 ∧
      numbers.micro = 0) := by
  induction opposite with
  | nil => exact ⟨Int.le_refl 0, fun _ => nofun, fun _ => rfl⟩
  | @cons token token' rest rest' first _ ih =>
    obtain ⟨nonneg, full⟩ := ih
    have one : 0 ≤ behindHour token ∧ (behindHour token = 0 ↔
        ∀ numbers, Clock.readNumbers token = some numbers → numbers.minute = 0 ∧
        numbers.second = 0 ∧ numbers.micro = 0) := by
      unfold behindHour
      cases reads : Clock.readNumbers token with
      | none => exact ⟨Int.le_refl 0, fun _ => nofun, fun _ => rfl⟩
      | some numbers =>
        obtain ⟨hour, minute, second, micro⟩ := first.unsigned reads
        simp only [Option.some.injEq, forall_eq']
        omega
    rw [behindHours_cons, List.forall_mem_cons, ← one.2, ← full]
    omega

end

/-! ## Texts without signs -/

/-- A part of an interval without signs: a blank, a number, a clock or the name of a unit. -/
inductive Part where
  | blank
  | number (text : List Char) (isNumeral : IsNumeral isDecimalDigit text)
  | clock (text : List Char) (isFace : IsFace text)
  | unit (word : List Char) (isUnit : (unit? (String.ofList word)).isSome)

namespace Part

/-- The second part may stand right behind the first: one of them is a blank, or they are a number
and its unit. -/
def Apart : Part → Part → Prop
  | .blank, _ => True
  | _, .blank => True
  | .number .., .unit .. => True
  | _, _ => False

/-- The token of the part, with this mark in front if it is a number or a clock. -/
def token? (mark : List Char) : Part → Option (List Char)
  | .blank => none
  | .number text _ => some (mark ++ text)
  | .clock text _ => some (mark ++ text)
  | .unit word _ => some word

/-- The characters that would continue the part. -/
def goesOn : Part → Char → Bool
  | .blank => fun _ => false
  | .number .. => continues
  | .clock .. => continues
  | .unit .. => inWord

def text (mark : List Char) (part : Part) : List Char := (part.token? mark).getD [' ']

end Part

/-- The text of an interval, with this mark in front of every number and every clock. -/
def written (mark : List Char) (parts : List Part) : List Char := parts.flatMap (Part.text mark)

section

variable {mark : List Char} {parts : List Part}

theorem isUnitWord_of_isSome {word : List Char} (isUnit : (unit? (String.ofList word)).isSome) :
    IsUnitWord word := by
  obtain ⟨unit, isUnit⟩ := Option.isSome_iff_exists.mp isUnit
  exact isUnitWord_of_unit isUnit

/-- What may stand right behind a part does not continue it. -/
theorem halts_written {part : Part} (apart : ∀ next ∈ parts.head?, part.Apart next) :
    Halts part.goesOn (written mark parts) := by
  cases parts with
  | nil => exact halts_nil
  | cons next rest =>
    have apart := apart next rfl
    cases part with
    | blank => exact fun _ _ => rfl
    | number =>
      cases next with
      | blank => exact halts_cons.mpr rfl
      | number => exact apart.elim
      | clock => exact apart.elim
      | unit word isUnit =>
        have isUnitWord := isUnitWord_of_isSome isUnit
        obtain @⟨c, more, -, -⟩ := isUnitWord.isWord
        exact halts_cons.mpr (isUnitWord.apart c List.mem_cons_self)
    | clock =>
      cases next with
      | blank => exact halts_cons.mpr rfl
      | number => exact apart.elim
      | clock => exact apart.elim
      | unit => exact apart.elim
    | unit =>
      cases next with
      | blank => exact halts_cons.mpr inWord_blank
      | number => exact apart.elim
      | clock => exact apart.elim
      | unit => exact apart.elim

theorem tokens_written (isSign : IsSign mark) (apart : parts.IsChain Part.Apart) :
    tokens (written mark parts) = parts.filterMap (Part.token? mark) := by
  induction parts with
  | nil => simp [written, tokens]
  | cons part rest ih =>
    obtain ⟨next, others⟩ := List.isChain_cons.mp apart
    have halts : Halts part.goesOn (written mark rest) := halts_written next
    have behind := ih others
    cases part with
    | blank => exact (tokens_blank _).trans behind
    | number text isNumeral =>
      have found := tokens_of_firstToken (firstToken_number (.intro isSign isNumeral) halts)
      rwa [behind] at found
    | clock text isFace =>
      have found := tokens_of_firstToken (firstToken_clock (.intro isSign isFace) halts)
      rwa [behind] at found
    | unit word isUnit =>
      have found :=
        tokens_of_firstToken (firstToken_word (isUnitWord_of_isSome isUnit).isWord halts)
      rwa [behind] at found

theorem opposite_written (parts : List Part) :
    List.Forall₂ Opposite (parts.filterMap (Part.token? []))
      (parts.filterMap (Part.token? ['-'])) := by
  induction parts with
  | nil => exact .nil
  | cons part rest ih =>
    cases part with
    | blank => exact ih
    | number text isNumeral => exact .cons (.number isNumeral) ih
    | clock text isFace => exact .cons (.clock isFace) ih
    | unit word isUnit => exact .cons (.unit (isUnitWord_of_isSome isUnit)) ih

end

end RowMapper.Calendar.Interval

namespace RowMapper

open Calendar (Duration ClockNumbers Clock)
open Calendar.Interval

/-- Minus signs in front of all numbers and clocks. If an interval without signs is read and every
amount fits its unit, then the interval with the signs is read too, and as the negated length but
for the minutes, seconds and fractions of the clocks, which keep their sign. So it is the negated
length exactly if every clock is at a full hour. -/
theorem signed_interval_is_read (parts : List Part) (apart : parts.IsChain Part.Apart)
    (d : Duration) (reads : Kind.readInterval (String.ofList (written [] parts)) = .ok d)
    (fit : AllFit (tokens (written [] parts))) :
    Kind.readInterval (String.ofList (written ['-'] parts)) =
        .ok ⟨2 * behindHours (tokens (written [] parts)) - d.nanos⟩ ∧
      0 ≤ behindHours (tokens (written [] parts)) ∧
      (Kind.readInterval (String.ofList (written ['-'] parts)) = .ok ⟨-d.nanos⟩ ↔
        ∀ token ∈ tokens (written [] parts), ∀ numbers, Clock.readNumbers token = some numbers →
          numbers.minute = 0 ∧ numbers.second = 0 ∧ numbers.micro = 0) := by
  have plain := tokens_written .none apart
  have signed := tokens_written .minus apart
  have opposite := opposite_written parts
  rw [Kind.readInterval_eq_ok_iff, String.toList_ofList, parse_eq_readFrom] at reads
  rw [plain] at reads fit ⊢
  have start : Mirrors ⟨.zero, none⟩ ⟨.zero, none⟩ := ⟨⟨Int.le_refl 0, Int.le_refl 0⟩, rfl, nofun⟩
  obtain ⟨d', reads', sums⟩ := start.run opposite fit nofun reads
  obtain ⟨nonneg, full⟩ := behindHours_eq_zero_iff opposite
  have result : Kind.readInterval (String.ofList (written ['-'] parts)) = .ok d' := by
    rw [Kind.readInterval_eq_ok_iff, String.toList_ofList, parse_eq_readFrom, signed]
    exact reads'
  have value : d'.nanos = 2 * behindHours (parts.filterMap (Part.token? [])) - d.nanos := by
    simp only [Duration.zero] at sums
    omega
  refine ⟨?_, nonneg, ?_⟩
  · rw [result, ← value]
  · rw [result, ← full, Except.ok.injEq]
    constructor
    · rintro rfl
      dsimp only at value
      omega
    · intro none
      obtain ⟨nanos⟩ := d'
      dsimp only at value
      congr
      omega

/-- Two hours, three minutes and four seconds with a minus sign are two hours less, and three
minutes and four seconds more. -/
theorem signed_clock_keeps_minutes :
    Kind.readInterval "02:03:04" = .ok ⟨7384000000000⟩ ∧
      Kind.readInterval "-02:03:04" = .ok ⟨-7016000000000⟩ := by
  have plain : tokens "02:03:04".toList = ["02:03:04".toList] := by decide +kernel
  have signed : tokens "-02:03:04".toList = ["-02:03:04".toList] := by decide +kernel
  constructor
  · rw [Kind.readInterval_eq_ok_iff, parse_eq_readFrom, plain]
    rfl
  · rw [Kind.readInterval_eq_ok_iff, parse_eq_readFrom, signed]
    rfl

def dayAndClock : List Part :=
  [.number ['1'] (@IsNumeral.intro _ ['1'] [] (by decide) .none), .blank,
    .unit ['d', 'a', 'y'] (by decide), .blank,
    .clock "02:03:04".toList
      (@IsFace.intro ['0', '2'] [':', '0', '3'] [':', '0', '4'] [] (by decide)
        (.mark (by decide)) (.some (.mark (by decide))) .none)]

theorem tokens_dayAndClock :
    tokens (written [] dayAndClock) = [['1'], ['d', 'a', 'y'], "02:03:04".toList] := by
  decide +kernel

theorem signed_dayAndClock_is_read :
    Kind.readInterval "1 day 02:03:04" = .ok ⟨93784000000000⟩ ∧
      Kind.readInterval "-1 day -02:03:04" = .ok ⟨-93416000000000⟩ := by
  have plain : String.ofList (written [] dayAndClock) = "1 day 02:03:04" := by decide +kernel
  have signs : String.ofList (written ['-'] dayAndClock) = "-1 day -02:03:04" := by decide +kernel
  have reads : Kind.readInterval (String.ofList (written [] dayAndClock)) =
      .ok ⟨93784000000000⟩ := by
    rw [Kind.readInterval_eq_ok_iff, String.toList_ofList, parse_eq_readFrom, tokens_dayAndClock]
    rfl
  have apart : dayAndClock.IsChain Part.Apart :=
    .cons_cons trivial (.cons_cons trivial (.cons_cons trivial (.cons_cons trivial (.singleton _))))
  have fit : AllFit (tokens (written [] dayAndClock)) := by
    rw [tokens_dayAndClock]
    refine ⟨?_, ?_, ?_, trivial⟩
    · rintro amount unit ⟨⟩ ⟨⟩
      unfold Amount.Fits
      decide +kernel
    · intro amount unit isAmount
      rw [(isUnitWord_of_unit (rfl : unit? (String.ofList ['d', 'a', 'y']) = some day)).noAmount]
        at isAmount
      cases isAmount
    · intro amount unit isAmount
      have noAmount : (readAmount "02:03:04".toList).isNone := by decide +kernel
      rw [isAmount] at noAmount
      cases noAmount
  have signed := (signed_interval_is_read dayAndClock apart _ reads fit).1
  have behind : 2 * behindHours [['1'], ['d', 'a', 'y'], "02:03:04".toList] - 93784000000000 =
      -93416000000000 := by
    decide +kernel
  rw [signs, tokens_dayAndClock, behind] at signed
  rw [plain] at reads
  exact ⟨reads, signed⟩

end RowMapper
