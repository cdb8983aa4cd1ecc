import Mathlib.Data.Nat.Digits.Defs
import RowMapper.Proofs.Calendar.DateText
/-!
Printed dates and times. Their numbers are padded with zeros, and what is printed is read back: a
date as itself, a time with its fraction cut to microseconds.
-/

set_option autoImplicit false

namespace RowMapper.Number

/-- The digits that stand in front of others are worth what is left of the whole without their
places. -/
theorem digitsValue_take {text : List Char} (digits : Digits text) (count : Nat) :
    digitsValue (text.take count) = digitsValue text / 10 ^ (text.length - count) := by
  have rest : digitsValue (text.drop count) < 10 ^ (text.drop count).length :=
    digitsValue_lt fun c isMember => digits c (List.mem_of_mem_drop isMember)
  have split : digitsValue text =
      10 ^ (text.drop count).length * digitsValue (text.take count) + digitsValue
        (text.drop count) := by
    rw [digitsValue_eq, digitsValue_eq, digitsValue_eq, ← Nat.ofDigitChars_eq_ofDigitChars_zero,
      ← Nat.ofDigitChars_append, List.take_append_drop]
  rw [split, ← List.length_drop, Nat.mul_add_div (Nat.pow_pos (by decide)), Nat.div_eq_of_lt rest,
    Nat.add_zero]

/-! ## Padded numbers -/

section

variable {width n : Nat}

theorem toList_padded (width n : Nat) : (Text.padded width n).toList =
    List.replicate (width - (decimalDigits n).length) '0' ++ decimalDigits n := by
  have digits : (toString n).toList = decimalDigits n := Nat.toList_repr
  rw [Text.padded, String.toList_append, String.toList_ofList, digits, ← digits,
    String.length_toList]

theorem digits_padded (width n : Nat) : Digits (Text.padded width n).toList := by
  rw [toList_padded]
  exact (digits_replicate _).append (digits_decimalDigits n)

theorem padded_ne_nil (width n : Nat) : (Text.padded width n).toList ≠ [] := by
  rw [toList_padded]
  exact List.append_ne_nil_of_right_ne_nil _ (decimalDigits_ne_nil n)

theorem digitsValue_padded (width n : Nat) : digitsValue (Text.padded width n).toList = n := by
  rw [toList_padded, digitsValue_zeros_append, digitsValue_decimalDigits]

/-- A number that has no more places than it is padded to has as many. -/
theorem length_padded (positive : 0 < width) (small : n < 10 ^ width) :
    (Text.padded width n).toList.length = width := by
  have short : (decimalDigits n).length ≤ width := Nat.toDigits_length 10 n width positive small
  rw [toList_padded, List.length_append, List.length_replicate, Nat.sub_add_cancel short]

theorem isNatural_padded (width n : Nat) : IsNatural (Text.padded width n).toList n := by
  have plain := IsNatural.plain (padded_ne_nil width n) (digits_padded width n)
  rwa [digitsValue_padded] at plain

theorem readInteger_padded (width n : Nat) :
    readInteger (Text.padded width n).toList = some (n : Int) := by
  rw [readInteger_digits ⟨padded_ne_nil width n, digits_padded width n⟩, digitsValue_padded]

end

end RowMapper.Number

namespace RowMapper.Calendar

open Number (IsNatural readInteger Digits FitsInt32 FitsUInt32)

/-! ## Dates -/

namespace Date

theorem isNatural_yearText {year : Int} (past : 0 ≤ year) :
    IsNatural (yearText year).toList year.toNat := by
  unfold yearText
  split
  · exact Number.isNatural_padded 4 year.toNat
  · have size : year.natAbs = year.toNat := by omega
    have plus := IsNatural.plus (Number.padded_ne_nil 4 year.toNat)
      (Number.digits_padded 4 year.toNat)
    rw [Number.digitsValue_padded] at plus
    rw [if_neg (Int.not_lt.mpr past), size, String.toList_append]
    exact plus

/-- A printed date spells its numbers. -/
theorem spells_text (d : Date) (past : 0 ≤ d.year) : Spells d.text.toList d.year d.month d.day := by
  obtain ⟨span, ⟨-, isMonth⟩, -, isDay⟩ := d.isDay
  have short : daysInMonth d.year d.month ≤ 31 := by
    unfold daysInMonth
    split_ifs <;> decide
  have whole : ((d.year.toNat : Nat) : Int) = d.year := Int.toNat_of_nonneg past
  have yearFits : FitsInt32 (d.year.toNat : Nat) := by
    unfold FitsInt32
    omega
  have monthFits : FitsUInt32 d.month := by
    unfold FitsUInt32
    omega
  have dayFits : FitsUInt32 d.day := by
    unfold FitsUInt32
    omega
  have spells := Spells.intro (isNatural_yearText past) (Number.isNatural_padded 2 d.month)
    (Number.isNatural_padded 2 d.day) yearFits monthFits dayFits
  rw [whole] at spells
  simpa only [text, String.toList_append, String.reduceToList, List.append_assoc, List.cons_append,
    List.nil_append] using spells

theorem Spells.no_blank {text : List Char} {y : Int} {m d : Nat} (spells : Spells text y m d) :
    ' ' ∉ text := by
  obtain @⟨year, month, day, y, m, d, isYear, isMonth, isDay, -, -, -⟩ := spells
  have inYear : ' ' ∉ year := isYear.not_mem (by decide) rfl
  have inMonth : ' ' ∉ month := isMonth.not_mem (by decide) rfl
  have inDay : ' ' ∉ day := isDay.not_mem (by decide) rfl
  simp [inYear, inMonth, inDay]

theorem parse_text (d : Date) (past : 0 ≤ d.year) : parse d.text.toList = .ok d :=
  parse_eq_ok_iff.mpr (d.spells_text past)

end Date

/-! ## Times -/

namespace Clock

/-- The time without what its fraction has beyond microseconds. -/
def truncated (t : Clock) : Clock where
  hour := t.hour
  minute := t.minute
  second := t.second
  nano := t.nano / 1000 * 1000
  isClock := by
    obtain ⟨places, small, leap⟩ := t.isClock
    exact ⟨places, by omega, by omega⟩

/-- Of a padded number six digits count as a fraction. -/
theorem isFraction_padded (width n : Nat) {nano : Nat} (positive : 0 < width)
    (small : n < 10 ^ width) (scaled : nano * 10 ^ min 6 width = n / 10 ^ (width - 6) * 10 ^ 9) :
    IsFraction (some (Text.padded width n).toList) nano := by
  have length := Number.length_padded positive small
  have digits := Number.digits_padded width n
  have counted : ((Text.padded width n).toList.take 6).length = min 6 width := by
    rw [List.length_take, length]
  have nonempty : (Text.padded width n).toList.take 6 ≠ [] := by
    intro empty
    rw [empty, List.length_nil] at counted
    omega
  have front : Digits ((Text.padded width n).toList.take 6) :=
    fun c isMember => digits c (List.mem_of_mem_take isMember)
  have value : Number.digitsValue ((Text.padded width n).toList.take 6) = n / 10 ^ (width - 6) := by
    rw [Number.digitsValue_take digits, Number.digitsValue_padded, length]
  refine ⟨_, Number.readInteger_digits ⟨nonempty, front⟩, ?_⟩
  rw [value, counted]
  exact_mod_cast scaled

/-- The fraction that is printed, if there is one, counts the whole microseconds. -/
theorem exists_fraction {nano : Nat} (small : nano < 1000000000) : ∃ fraction : Option (List Char),
    (fractionText nano).toList = fraction.elim [] ('.' :: ·) ∧
      (∀ digits ∈ fraction, Digits digits) ∧
      IsFraction fraction (nano / 1000 * 1000) := by
  have padded {width n : Nat} : ∀ digits ∈ some (Text.padded width n).toList, Digits digits := by
    intro digits isMember
    rw [← Option.mem_some.mp isMember]
    exact Number.digits_padded width n
  unfold fractionText
  split_ifs with none millis micros
  · refine ⟨Option.none, rfl, nofun, ?_⟩
    rw [none]
    rfl
  · have scaled : nano / 1000 * 1000 * 10 ^ 3 = nano / 1000000 * 10 ^ 9 := by omega
    have isFraction :=
      isFraction_padded 3 (nano / 1000000) (by decide) (by omega) (by simpa using scaled)
    exact ⟨some (Text.padded 3 (nano / 1000000)).toList, String.toList_append, padded, isFraction⟩
  · have scaled : nano / 1000 * 1000 * 10 ^ 6 = nano / 1000 * 10 ^ 9 := by omega
    have isFraction :=
      isFraction_padded 6 (nano / 1000) (by decide) (by omega) (by simpa using scaled)
    exact ⟨some (Text.padded 6 (nano / 1000)).toList, String.toList_append, padded, isFraction⟩
  · have scaled : nano / 1000 * 1000 * 10 ^ 6 = nano / 10 ^ 3 * 10 ^ 9 := by omega
    have isFraction := isFraction_padded 9 nano (by decide) small (by simpa using scaled)
    exact ⟨some (Text.padded 9 nano).toList, String.toList_append, padded, isFraction⟩

/-- A printed time spells its numbers and the digits of its fraction. -/
theorem spells_text (t : Clock) (noLeap : t.nano < 1000000000) : ∃ fraction,
    Spells t.text.toList t.hour t.minute t.second fraction ∧ (∀ digits ∈ fraction, Digits digits) ∧
      IsFraction fraction t.truncated.nano := by
  obtain ⟨fraction, printed, digits, isFraction⟩ := exists_fraction noLeap
  refine ⟨fraction, ?_, digits, isFraction⟩
  have text_eq : t.text.toList =
      (Text.padded 2 t.hour).toList ++ ':' :: ((Text.padded 2 t.minute).toList ++
        ':' :: ((Text.padded 2 t.second).toList ++ fraction.elim [] ('.' :: ·))) := by
    have ordinary : ¬ 1000000000 ≤ t.nano := Nat.not_le.mpr noLeap
    simp only [text, ordinary, if_false, String.toList_append, String.reduceToList, printed,
      List.append_assoc, List.cons_append, List.nil_append]
  rw [text_eq]
  cases fraction with
  | none =>
    rw [Option.elim_none, List.append_nil]
    exact .seconds (Number.readInteger_padded 2 t.hour) (Number.readInteger_padded 2 t.minute)
      (Number.readInteger_padded 2 t.second)
  | some places =>
    have last : ':' ∉ places := fun isMember => by cases digits places rfl _ isMember
    exact .fraction (Number.readInteger_padded 2 t.hour) (Number.readInteger_padded 2 t.minute)
      (Number.readInteger_padded 2 t.second) last

theorem Spells.no_blank {text : List Char} {h m s : Int} {fraction : Option (List Char)}
    (spells : Spells text h m s fraction) (digits : ∀ places ∈ fraction, Digits places) :
    ' ' ∉ text := by
  have apart {field : List Char} {n : Int} (reads : readInteger field = some n) : ' ' ∉ field :=
    Number.not_mem_of_readInteger reads (by decide) rfl
  cases spells with
  | minutes hours minutes => simp [apart hours, apart minutes]
  | seconds hours minutes seconds => simp [apart hours, apart minutes, apart seconds]
  | @fraction _ _ _ places _ _ _ hours minutes seconds =>
    have inPlaces : ' ' ∉ places := fun isMember => by cases digits places rfl _ isMember
    simp [apart hours, apart minutes, apart seconds, inPlaces]

theorem parse_text (t : Clock) (noLeap : t.nano < 1000000000) :
    parse t.text.toList = .ok t.truncated := by
  obtain ⟨fraction, spells, -, isFraction⟩ := t.spells_text noLeap
  obtain ⟨⟨hour, minute, second⟩, -⟩ := t.isClock
  have fits {n : Nat} (small : n < 60) : Number.FitsInt64 n ∧ n = lowWord n := by
    unfold Number.FitsInt64 lowWord
    omega
  obtain ⟨hourFits, hour_eq⟩ := fits (Nat.lt_trans hour (by decide))
  obtain ⟨minuteFits, minute_eq⟩ := fits minute
  obtain ⟨secondFits, second_eq⟩ := fits second
  exact parse_eq_ok_iff.mpr ⟨_, _, _, fraction, spells, ⟨hourFits, minuteFits, secondFits⟩,
    ⟨hour_eq, minute_eq, second_eq⟩, isFraction⟩

end Clock

end RowMapper.Calendar

namespace RowMapper

open Calendar (DateTime Clock)

namespace Kind

section

variable {text before after : String}

theorem parts_append (text_eq : text.toList = before.toList ++ ' ' :: after.toList)
    (first : ' ' ∉ before.toList) :
    datePart text = before ∧ clockPart text = after := by
  have cuts := Text.cut_eq_some_iff.mpr ⟨text_eq, first⟩
  simp only [datePart, clockPart, cuts, String.ofList_toList, and_self]

theorem parts_of_no_blank (blank : ' ' ∉ text.toList) :
    datePart text = text ∧ clockPart text = text := by
  have whole := Text.cut_eq_none_iff.mpr blank
  simp only [datePart, clockPart, whole, and_self]

end

theorem readDate_text (d : Calendar.Date) (past : 0 ≤ d.year) : readDate d.text = .ok d :=
  readDate_eq_ok_iff.mpr (d.parse_text past)

theorem readClock_text (t : Clock) (noLeap : t.nano < 1000000000) :
    readClock t.text = .ok t.truncated :=
  readClock_eq_ok_iff.mpr (t.parse_text noLeap)

end Kind

/-- What is printed is read back. From the text of a moment whose year is not negative and whose
second is no leap second, a cell for moments reads the moment, a cell for dates its date and a cell
for times its time, each time with the fraction cut to whole microseconds. The texts of the date and
of the time alone are read as well. -/
theorem printed_moments_are_read (d : DateTime) (past : 0 ≤ d.date.year)
    (noLeap : d.clock.nano < 1000000000) :
    Kind.dateTime.accept .database (.text (Value.dateTime d).display) =
      .ok (.dateTime ⟨d.date, d.clock.truncated⟩) ∧
    Kind.date.accept .database (.text (Value.dateTime d).display) = .ok (.date d.date) ∧
    Kind.clock.accept .database (.text (Value.dateTime d).display) =
      .ok (.clock d.clock.truncated) ∧
    Kind.date.accept .database (.text (Value.date d.date).display) = .ok (.date d.date) ∧
    Kind.clock.accept .database (.text (Value.clock d.clock).display) =
      .ok (.clock d.clock.truncated) := by
  have inDate : ' ' ∉ d.date.text.toList := (d.date.spells_text past).no_blank
  have inTime : ' ' ∉ d.clock.text.toList := by
    obtain ⟨fraction, spells, digits, -⟩ := d.clock.spells_text noLeap
    exact spells.no_blank digits
  have text_eq : d.text.toList = d.date.text.toList ++ ' ' :: d.clock.text.toList := by
    simp only [DateTime.text, String.toList_append, String.reduceToList, List.append_assoc,
      List.cons_append, List.nil_append]
  have day := Kind.readDate_text d.date past
  have time := Kind.readClock_text d.clock noLeap
  obtain ⟨front, back⟩ := Kind.parts_append text_eq inDate
  have moment : Kind.readDateTime d.text = .ok ⟨d.date, d.clock.truncated⟩ := by
    rw [Kind.readDateTime_append text_eq inDate, day, time]
    rfl
  refine ⟨?_, ?_, ?_, ?_, ?_⟩
  · change (Kind.readDateTime d.text).map Value.dateTime = _
    rw [moment]
    rfl
  · change (Kind.readDate (Kind.datePart d.text)).map Value.date = _
    rw [front, day]
    rfl
  · change (Kind.readClock (Kind.clockPart d.text)).map Value.clock = _
    rw [back, time]
    rfl
  · change (Kind.readDate (Kind.datePart d.date.text)).map Value.date = _
    rw [(Kind.parts_of_no_blank inDate).1, day]
    rfl
  · change (Kind.readClock (Kind.clockPart d.clock.text)).map Value.clock = _
    rw [(Kind.parts_of_no_blank inTime).2, time]
    rfl

/-- A moment beyond the years of four digits, with more places than are read. -/
def farMoment : DateTime :=
  ⟨⟨262142, 2, 28, by decide⟩, ⟨23, 59, 59, 999999999, by decide⟩⟩

theorem farMoment_is_read :
    (0 ≤ farMoment.date.year ∧ farMoment.clock.nano < 1000000000) ∧
      (Value.dateTime farMoment).display = "+262142-02-28 23:59:59.999999999" ∧
      Kind.dateTime.accept .database (.text "+262142-02-28 23:59:59.999999999") =
        .ok (.dateTime ⟨⟨262142, 2, 28, by decide⟩, ⟨23, 59, 59, 999999000, by decide⟩⟩) := by
  have printed : (Value.dateTime farMoment).display = "+262142-02-28 23:59:59.999999999" := by
    decide +kernel
  have reads := (printed_moments_are_read farMoment (by decide) (by decide)).1
  rw [printed] at reads
  exact ⟨by decide, printed, reads⟩

end RowMapper
