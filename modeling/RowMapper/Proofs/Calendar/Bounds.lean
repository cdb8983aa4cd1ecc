import Mathlib.Algebra.Order.BigOperators.Group.List
import Mathlib.Algebra.Order.Ring.Nat
import RowMapper.Proofs.Calendar.Additions
/-!
Why the arithmetic of the readers does not leave its bounds. The fraction of a second fits a machine
word however it is scaled. In an interval amounts are cut off at the bounds of 64 bits and clocks
are short. An amount takes two tokens, its number and its unit or a clock, so a text of a thousand
tokens adds about half of what a sum may come to.
-/

set_option autoImplicit false

namespace RowMapper.Calendar.Clock

open Number (readInteger readInt64 FitsInt64)

/-- The microseconds of a fraction in machine words, from the characters that count and their
number. There are none if the characters have more than six bytes, or if the power of ten or the
product does not fit 64 bits. -/
def scaled? (counted : List Char) (n : Int) : Option Int :=
  let bytes := (String.ofList counted).utf8ByteSize
  let power : Nat := 10 ^ (6 - bytes)
  if bytes ≤ 6 ∧ FitsInt64 power ∧ FitsInt64 (n * power) then some (n * power) else none

/-- The seconds and the fraction of a text of seconds, read in machine words. Nothing comes out if
the arithmetic fails, and no seconds if the text has no such form. -/
def readSecondInWords (text : List Char) : Option (Option (List Char × Int)) :=
  match Text.cut '.' text with
  | none => some (some (text, 0))
  | some (whole, fraction) =>
    let counted := fraction.take 6
    match readInt64 counted with
    | none => some none
    | some n => (scaled? counted n).map fun micro => some (whole, micro)

/-- The numbers of a time, read in machine words. -/
def readNumbersInWords (text : List Char) : Option (Option ClockNumbers) :=
  match clockFields text with
  | none => some none
  | some (hour, minute, second) => (readSecondInWords second).map fun seconds => do
    let (second, micro) ← seconds
    return {
      hour := ← readInt64 hour
      minute := ← readInt64 minute
      second := ← readInt64 second
      micro }

section

variable {text : List Char} {n : Int}

theorem utf8ByteSize_of_ascii (ascii : ∀ c ∈ text, c.val ≤ 127) :
    (String.ofList text).utf8ByteSize = text.length := by
  induction text with
  | nil => rfl
  | cons c rest ih =>
    obtain ⟨first, others⟩ := List.forall_mem_cons.mp ascii
    rw [String.ofList_cons, String.utf8ByteSize_append, String.utf8ByteSize_singleton,
      Char.utf8Size_eq_one_iff.mpr first, ih others, List.length_cons, Nat.add_comm]

theorem ascii_of_readInteger (reads : readInteger text = some n) : ∀ c ∈ text, c.val ≤ 127 := by
  intro c isMember
  rcases Number.mem_of_readInteger reads isMember with (rfl | rfl) | digit
  · decide
  · decide
  · simp only [Char.isDigit, Bool.and_eq_true, decide_eq_true_eq] at digit
    exact UInt32.le_trans digit.2 (by decide)

/-- What is read as an integer has a byte for each character, and no more than six of them stand for
less than a second. -/
theorem scaled?_eq (short : text.length ≤ 6) (reads : readInteger text = some n) :
    scaled? text n = some (n * (10 ^ (6 - text.length) : Nat)) := by
  have counts : fractionMicros (some text) = some (n * (10 ^ (6 - text.length) : Nat)) := by
    rw [fractionMicros, List.take_of_length_le short, reads, Option.map_some]
  have bounded := fractionMicros_bounded counts
  have small : 10 ^ (6 - text.length) ≤ 10 ^ 6 := Nat.pow_le_pow_right (by decide) (Nat.sub_le 6 _)
  unfold scaled?
  dsimp only
  rw [utf8ByteSize_of_ascii (ascii_of_readInteger reads)]
  generalize 10 ^ (6 - text.length) = power at bounded small ⊢
  refine if_pos ⟨short, ?_, ?_⟩ <;> unfold FitsInt64 <;> omega

theorem readSecondInWords_eq (text : List Char) :
    readSecondInWords text = some (readSecond text) := by
  unfold readSecondInWords readSecond
  cases Text.cut '.' text with
  | none => rfl
  | some parts =>
    have short := List.length_take_le 6 parts.2
    dsimp only
    cases reads : readInt64 (parts.2.take 6) with
    | none => rfl
    | some n =>
      dsimp only
      rw [scaled?_eq short (Number.readInt64_eq_some_iff.mp reads).1]
      rfl

/-- The arithmetic of a time never fails. -/
theorem readNumbersInWords_eq (text : List Char) :
    readNumbersInWords text = some (readNumbers text) := by
  unfold readNumbersInWords readNumbers clockFields
  rcases Text.fields ':' text with _ | ⟨hour, _ | ⟨minute, _ | ⟨second, _ | ⟨other, rest⟩⟩⟩⟩
  · rfl
  · rfl
  · rfl
  · dsimp only
    rw [readSecondInWords_eq]
    rfl
  · rfl

end

end RowMapper.Calendar.Clock

namespace RowMapper.Calendar.Interval

open Text (isDecimalDigit)
open Number (readInteger FitsInt64)

/-! ## Lengths of amounts and clocks -/

/-- The nanoseconds of lengths, whatever their signs. -/
def size (lengths : List Duration) : Nat := (lengths.map fun length => length.nanos.natAbs).sum

section

variable {token text : List Char} {waiting : Option Amount} {lengths : List Duration}
    {numbers : ClockNumbers}

theorem size_singleton (length : Duration) : size [length] = length.nanos.natAbs := by
  simp only [size, List.map_singleton, List.sum_singleton]

theorem size_append (front back : List Duration) :
    size (front ++ back) = size front + size back := by
  simp only [size, List.map_append, List.sum_append]

theorem natAbs_le_size {length : Duration} (isMember : length ∈ lengths) :
    length.nanos.natAbs ≤ size lengths :=
  List.le_sum_of_mem (List.mem_map_of_mem isMember)

theorem natAbs_total_le (lengths : List Duration) : (total lengths).natAbs ≤ size lengths := by
  induction lengths with
  | nil => exact Nat.le_refl 0
  | cons length rest ih =>
    rw [total_cons]
    exact Nat.le_trans (Int.natAbs_add_le _ _) (Nat.add_le_add_left ih _)

/-- Lengths that come to no more than the limit even without their signs stay in range. -/
theorem staysInRange_of_size (small : (size lengths : Int) ≤ Duration.limit) :
    StaysInRange 0 lengths := by
  rintro first ⟨rest, rfl⟩
  have bounded := natAbs_total_le first
  rw [size_append] at small
  unfold InRange
  omega

/-- An amount is cut off at the bounds of 64 bits. -/
theorem exists_micros (amount : Amount) (unit : Float) :
    ∃ n, FitsInt64 n ∧ amount.toDuration unit = .micros n := by
  refine ⟨_, ?_, rfl⟩
  unfold FitsInt64 Number.clampInt64
  omega

/-- The most nanoseconds that an amount adds: so many microseconds as a signed word of 64 bits can
count down. -/
def longestAmount : Nat := 9223372036854775808000

theorem natAbs_toDuration_le (amount : Amount) (unit : Float) :
    (amount.toDuration unit).nanos.natAbs ≤ longestAmount := by
  obtain ⟨n, fits, micros⟩ := exists_micros amount unit
  rw [micros]
  simp only [Duration.micros, longestAmount]
  unfold FitsInt64 at fits
  omega

theorem natAbs_lt_of_short {n : Int} {count : Nat} (reads : readInteger text = some n)
    (short : text.length ≤ count) :
    n.natAbs < 10 ^ count :=
  Nat.lt_of_lt_of_le (Number.natAbs_lt_of_readInteger reads)
    (Nat.pow_le_pow_right (by decide) short)

theorem IsSign.bounded (isSign : IsSign text) : ':' ∉ text ∧ text.length ≤ 1 := by
  cases isSign <;> decide

/-- The fields of a clock are short, but for the fraction. It stands behind the minutes if there are
no seconds. -/
theorem IsClockText.fields (isClock : IsClockText token) :
    ∃ hour minute second, Clock.clockFields token = some (hour, minute, second) ∧
      hour.length ≤ 3 ∧ (minute.length ≤ 2 ∨ '.' ∈ minute) ∧
      (Clock.secondParts second).1.length ≤ 2 := by
  obtain @⟨mark, _, isSign, isFace⟩ := isClock
  obtain @⟨hour, _, _, fraction, hours, @⟨minute, minutes⟩, seconds, places⟩ := isFace
  have inHour : ':' ∉ mark ++ hour := by
    simp [isSign.bounded.1, hours.digits.not_mem (c := ':') rfl]
  have inMinute : ':' ∉ minute := minutes.digits.not_mem rfl
  have inFraction : ':' ∉ fraction := places.not_mem (by decide) fun _ digits => digits.not_mem rfl
  have hourShort : (mark ++ hour).length ≤ 3 := by
    rw [List.length_append]
    exact Nat.add_le_add isSign.bounded.2 hours.short
  cases seconds with
  | none =>
    have behind : ':' ∉ minute ++ fraction := by simp [inMinute, inFraction]
    refine ⟨mark ++ hour, minute ++ fraction, ['0'], ?_, hourShort, ?_, by decide⟩
    · exact Clock.clockFields_eq_some_iff.mpr ⟨⟨inHour, behind⟩, .inl ⟨by simp, rfl⟩⟩
    · cases places with
      | none => exact .inl (by simpa using minutes.short)
      | some behind =>
        obtain ⟨-⟩ := behind
        exact .inr (by simp)
  | some behind =>
    obtain @⟨second, isSecond⟩ := behind
    have inSecond : ':' ∉ second ++ fraction := by
      simp [isSecond.digits.not_mem (c := ':') rfl, inFraction]
    refine ⟨mark ++ hour, minute, second ++ fraction, ?_, hourShort, .inl minutes.short, ?_⟩
    · exact Clock.clockFields_eq_some_iff.mpr ⟨⟨inHour, inMinute⟩, .inr ⟨by simp, inSecond⟩⟩
    · have noPoint : '.' ∉ second := isSecond.digits.not_mem rfl
      cases places with
      | none => simpa [Clock.secondParts_of_not_mem noPoint] using isSecond.short
      | some behind =>
        obtain ⟨-⟩ := behind
        rw [Clock.secondParts_append noPoint]
        exact isSecond.short

/-- A clock has two digits for the minutes and the seconds and a sign and two digits for the
hours. -/
theorem IsClockText.bounded (isClock : IsClockText token)
    (reads : Clock.readNumbers token = some numbers) :
    (numbers.hour.natAbs < 10 ^ 3 ∧ numbers.minute.natAbs < 10 ^ 2 ∧
      numbers.second.natAbs < 10 ^ 2) ∧
      numbers.micro.natAbs < 1000000 := by
  obtain ⟨fraction, spells, counts, -⟩ := Clock.readNumbers_eq_some_iff.mp reads
  obtain ⟨hour, minute, second, fields, hours, minutes, seconds, -⟩ := Clock.spells_iff.mp spells
  obtain ⟨_, _, _, same, hourShort, minuteShort, secondShort⟩ := isClock.fields
  rw [fields] at same
  cases same
  have noPoint : '.' ∉ minute := Number.not_mem_of_readInteger minutes (by decide) rfl
  have micro := Clock.fractionMicros_bounded counts
  exact ⟨⟨natAbs_lt_of_short hours hourShort,
    natAbs_lt_of_short minutes (minuteShort.resolve_right noPoint),
    natAbs_lt_of_short seconds secondShort⟩, by omega⟩

/-- The most nanoseconds that a clock adds. -/
def longestClock : Nat := 3602500000000000

theorem size_clockLengths_le (isClock : IsClockText token)
    (reads : Clock.readNumbers token = some numbers) :
    size (clockLengths numbers) ≤ longestClock := by
  obtain ⟨⟨hour, minute, second⟩, micro⟩ := isClock.bounded reads
  simp only [size, clockLengths, Duration.seconds, Duration.micros, List.map_cons, List.map_nil,
    List.sum_cons, List.sum_nil, longestClock]
  omega

/-! ## What a token adds -/

/-- A token adds half of this at most, if a number and the token behind it share what they add. -/
def share : Nat := longestAmount + longestClock

/-- The share of a number that waits. -/
def left : Except Fault (Option Amount) → Nat
  | .ok (some _) => share
  | .ok none => 0
  | .error _ => 0

/-- A token adds no more than its share and that of the number in front of it. A number leaves its
share to the token behind it. -/
theorem entry_size {next : Except Fault (Option Amount)} (isToken : IsToken token)
    (taken : entry waiting token = (lengths, next)) :
    2 * size lengths + left next ≤ left (.ok waiting) + share := by
  by_cases colon : ':' ∈ token
  · rw [entry_colon colon] at taken
    have days : 2 * size (waiting.map fun amount => amount.toDuration day).toList +
        2 * longestClock ≤ left (.ok waiting) + share := by
      cases waiting with
      | none => decide
      | some amount =>
        have amountSize := natAbs_toDuration_le amount day
        simp only [Option.map_some, Option.toList_some, size_singleton, left, share]
        omega
    split at taken
    · cases taken
      exact Nat.le_trans (Nat.add_le_add_left (Nat.zero_le _) _) days
    · next numbers reads =>
      cases taken
      have clock := size_clockLengths_le (isClockText_of_readNumbers isToken colon reads) reads
      have nothing : left (.ok none) = 0 := rfl
      rw [size_append, nothing]
      omega
  cases waiting with
  | none =>
    rw [entry_first colon] at taken
    split at taken
    · cases taken
      exact Nat.zero_le _
    · cases taken
      exact Nat.le_refl _
  | some amount =>
    rw [entry_second colon] at taken
    split at taken
    · cases taken
      exact Nat.zero_le _
    · next unit isUnit =>
      cases taken
      have amountSize := natAbs_toDuration_le amount unit
      simp only [size_singleton, left, share]
      omega

/-- Every token has its share, and so has the end of the text. The induction is on the tokens, with
what waits in front of them. -/
theorem tally_size (waiting : Option Amount) {tokens : List (List Char)}
    (areTokens : ∀ token ∈ tokens, IsToken token) :
    2 * size (tally waiting tokens).lengths ≤ left (.ok waiting) + (tokens.length + 1) * share := by
  induction tokens generalizing waiting with
  | nil =>
    cases waiting with
    | none => decide
    | some amount =>
      have amountSize := natAbs_toDuration_le amount second
      simp only [tally, Option.map_some, Option.toList_some, size_singleton, left, share,
        List.length_nil]
      omega
  | cons token rest ih =>
    obtain ⟨isToken, others⟩ := List.forall_mem_cons.mp areTokens
    rw [List.length_cons, Nat.succ_mul (rest.length + 1)]
    rcases taken : entry waiting token with ⟨lengths, fault | next⟩
    · have added := entry_size isToken taken
      rw [tally_of_error taken]
      dsimp only
      omega
    · have added := entry_size isToken taken
      have behind := ih next others
      rw [tally_of_ok taken, size_append]
      omega

/-- A thousand tokens, and what waits at their end, add hardly more than half of the limit. -/
theorem staysInRange_of_short (short : (tokens text).length ≤ 1000) :
    StaysInRange 0 (tallyOf text).lengths := by
  have bounded : 2 * size (tallyOf text).lengths ≤ left (.ok none) +
      ((tokens text).length + 1) * share :=
    tally_size none fun _ => isToken_of_mem_tokens
  have shares : ((tokens text).length + 1) * share ≤ 1001 * share :=
    Nat.mul_le_mul_right share (Nat.add_le_add_right short 1)
  refine staysInRange_of_size ?_
  simp only [left, share, longestAmount, longestClock, Duration.limit] at bounded shares ⊢
  omega

end

end RowMapper.Calendar.Interval

namespace RowMapper

open Calendar (Duration)
open Calendar.Interval

/-- The readers of dates, times and intervals do not overflow. Whatever the text, a date and a time
are read or are a wrong value, and the fraction of a second is scaled within machine words. What a
clock in an interval adds is a length of time, and an amount in any unit is cut off at the bounds of
64 bits. If the text has no more than a thousand tokens, then no sum of an interval leaves the
range, and the interval is read or is a wrong value. -/
theorem readers_stay_in_range (text : String) :
    ((∃ d, Kind.readDate text = .ok d) ∨
      ∃ cause, Kind.readDate text = .error (.value (.notADate text cause))) ∧
    ((∃ t, Kind.readClock text = .ok t) ∨
      ∃ cause, Kind.readClock text = .error (.value (.notAClock text cause))) ∧
    Calendar.Clock.readNumbersInWords text.toList = some (Calendar.Clock.readNumbers text.toList) ∧
    (∀ numbers, IsClockText text.toList → Calendar.Clock.readNumbers text.toList = some numbers →
      ∀ length ∈ clockLengths numbers, InRange length.nanos) ∧
    (∀ (amount : Amount) (unit : Float), ∃ n, Number.FitsInt64 n ∧
      amount.toDuration unit = .micros n) ∧
    ((tokens text.toList).length ≤ 1000 →
      StaysInRange 0 (tallyOf text.toList).lengths ∧
        ((∃ d, Kind.readInterval text = .ok d) ∨
          ∃ fault, Kind.readInterval text = .error (.value fault))) := by
  refine ⟨Kind.readDate_cases text, Kind.readClock_cases text,
    Calendar.Clock.readNumbersInWords_eq text.toList, ?_, exists_micros, fun short => ?_⟩
  · intro numbers isClock reads length isMember
    have clock := Nat.le_trans (natAbs_le_size isMember) (size_clockLengths_le isClock reads)
    unfold InRange
    simp only [longestClock, Duration.limit] at clock ⊢
    omega
  · have stays := staysInRange_of_short short
    exact ⟨stays, Kind.readInterval_cases stays⟩

/-- Days that are cut off at the bound, and a clock behind them. -/
theorem endlessInterval_stays_in_range :
    StaysInRange 0 (tallyOf "99999999999999999999 days -1:00".toList).lengths ∧
      ∀ length ∈ clockLengths ⟨-1, 0, 0, 0⟩, InRange length.nanos := by
  have short : (tokens "99999999999999999999 days -1:00".toList).length ≤ 1000 := by decide +kernel
  have isClock : IsClockText "-1:00".toList :=
    @Signed.intro _ ['-'] "1:00".toList .minus
      (@IsFace.intro ['1'] [':', '0', '0'] [] [] (by decide) (.mark (by decide)) .none .none)
  obtain ⟨-, -, -, -, -, interval⟩ := readers_stay_in_range "99999999999999999999 days -1:00"
  obtain ⟨-, -, -, clock, -, -⟩ := readers_stay_in_range "-1:00"
  exact ⟨(interval short).1, clock _ isClock (by decide +kernel)⟩

end RowMapper
