import Mathlib.Tactic.IntervalCases
import RowMapper.Proofs.Calendar.ClockText
/-!
The texts that are dates. A text spells year, month and day as literals of natural numbers with
dashes between, and it is a date exactly if the calendar has a day with these numbers. The calendar
is the Gregorian one, carried on without end to both sides, within the span of years that dates
cover.
-/

set_option autoImplicit false

namespace RowMapper.Calendar

open Number (IsNatural readNatural readInteger FitsInt32 FitsUInt32)

/-! ## The calendar -/

/-- Every fourth year is a leap year, but of the full centuries only every fourth. -/
def IsLeapYear (year : Int) : Prop := 4 ∣ year ∧ (100 ∣ year → 400 ∣ year)

instance (year : Int) : Decidable (IsLeapYear year) := inferInstanceAs (Decidable (_ ∧ (_ → _)))

def monthLengths (year : Int) : List Nat :=
  [31, if IsLeapYear year then 29 else 28, 31, 30, 31, 30, 31, 31, 30, 31, 30, 31]

/-- The calendar has a day with these numbers: months count from one, and so do the days of a month
up to its length. -/
def InCalendar (year : Int) (month day : Nat) : Prop :=
  (-262143 ≤ year ∧ year ≤ 262142) ∧ 1 ≤ month ∧
    ∃ length, (monthLengths year)[month - 1]? = some length ∧ 1 ≤ day ∧ day ≤ length

theorem isLeapYear_iff {year : Int} : isLeapYear year = true ↔ IsLeapYear year := by
  simp only [isLeapYear, IsLeapYear, Bool.and_eq_true, Bool.or_eq_true, decide_eq_true_eq]
  omega

theorem length_monthLengths (year : Int) : (monthLengths year).length = 12 := rfl

theorem monthLengths_eq {year : Int} {month : Nat} (first : 1 ≤ month) (last : month ≤ 12) :
    (monthLengths year)[month - 1]? = some (daysInMonth year month) := by
  by_cases leap : IsLeapYear year
  all_goals
    interval_cases month
    all_goals simp [monthLengths, daysInMonth, isLeapYear_iff, leap]

theorem isDay_iff {year : Int} {month day : Nat} : IsDay year month day ↔
    InCalendar year month day := by
  constructor
  · rintro ⟨span, ⟨first, last⟩, days⟩
    exact ⟨span, first, _, monthLengths_eq first last, days⟩
  · rintro ⟨span, first, length, found, days⟩
    have last : month ≤ 12 := by
      have inside := (List.getElem?_eq_some_iff.mp found).1
      rw [length_monthLengths] at inside
      omega
    rw [monthLengths_eq first last] at found
    cases found
    exact ⟨span, ⟨first, last⟩, days⟩

namespace Date

/-- The text writes three numbers with dashes between, the year a signed word of 32 bits, month and
day unsigned ones. No dash stands in a literal, so these are the first two dashes of the text, and
there are no others. -/
inductive Spells : List Char → Int → Nat → Nat → Prop
  | intro {year month day : List Char} {y m d : Nat} (isYear : IsNatural year y)
      (isMonth : IsNatural month m) (isDay : IsNatural day d) (yearFits : FitsInt32 y)
      (monthFits : FitsUInt32 m) (dayFits : FitsUInt32 d) :
      Spells (year ++ '-' :: (month ++ '-' :: day)) y m d

section

variable {text : List Char}

theorem parts_eq_some_iff {year month day : List Char} : parts text = some (year, month, day) ↔
    text = year ++ '-' :: (month ++ '-' :: day) ∧ '-' ∉ year ∧ '-' ∉ month := by
  simp only [parts, bind, Option.bind_eq_some_iff, Prod.exists, Text.cut_eq_some_iff]
  constructor
  · rintro ⟨_, _, ⟨rfl, inYear⟩, _, _, ⟨rfl, inMonth⟩, ⟨⟩⟩
    exact ⟨rfl, inYear, inMonth⟩
  · rintro ⟨rfl, inYear, inMonth⟩
    exact ⟨_, _, ⟨rfl, inYear⟩, _, _, ⟨rfl, inMonth⟩, rfl⟩

theorem readYear_eq_some_iff (noDash : '-' ∉ text) {y : Int} :
    ((readInteger text).filter fun n => FitsInt32 n) = some y ↔
      (∃ n : Nat, IsNatural text n ∧ (n : Int) = y) ∧ FitsInt32 y := by
  rw [Option.filter_eq_some_iff, Number.readInteger_of_no_minus noDash, Option.map_eq_some_iff,
    decide_eq_true_iff]
  simp only [Number.readNatural_eq_some_iff, Int.ofNat_eq_natCast]

theorem readWord_eq_some_iff {n : Nat} :
    ((readNatural text).filter fun n => FitsUInt32 n) = some n ↔
      IsNatural text n ∧ FitsUInt32 n := by
  rw [Option.filter_eq_some_iff, Number.readNatural_eq_some_iff, decide_eq_true_iff]

theorem readNumbers_eq_some_iff {y : Int} {m d : Nat} : readNumbers text = some (y, m, d) ↔
    Spells text y m d := by
  constructor
  · intro reads
    unfold readNumbers at reads
    obtain ⟨⟨year, month, day⟩, cuts, behindCuts⟩ := Option.bind_eq_some_iff.mp reads
    obtain ⟨_, years, behindYear⟩ := Option.bind_eq_some_iff.mp behindCuts
    obtain ⟨_, months, behindMonth⟩ := Option.bind_eq_some_iff.mp behindYear
    obtain ⟨_, days, ⟨⟩⟩ := Option.bind_eq_some_iff.mp behindMonth
    obtain ⟨rfl, inYear, -⟩ := parts_eq_some_iff.mp cuts
    obtain ⟨⟨n, isYear, rfl⟩, yearFits⟩ := (readYear_eq_some_iff inYear).mp years
    obtain ⟨isMonth, monthFits⟩ := readWord_eq_some_iff.mp months
    obtain ⟨isDay, dayFits⟩ := readWord_eq_some_iff.mp days
    exact .intro isYear isMonth isDay yearFits monthFits dayFits
  · rintro @⟨year, month, day, y, m, d, isYear, isMonth, isDay, yearFits, monthFits, dayFits⟩
    have inYear : '-' ∉ year := isYear.not_mem (by decide) rfl
    have inMonth : '-' ∉ month := isMonth.not_mem (by decide) rfl
    have cuts : parts (year ++ '-' :: (month ++ '-' :: day)) = some (year, month, day) :=
      parts_eq_some_iff.mpr ⟨rfl, inYear, inMonth⟩
    have years := (readYear_eq_some_iff inYear).mpr ⟨⟨y, isYear, rfl⟩, yearFits⟩
    have months := readWord_eq_some_iff.mpr ⟨isMonth, monthFits⟩
    have days := readWord_eq_some_iff.mpr ⟨isDay, dayFits⟩
    simp only [readNumbers, cuts, years, months, days, bind, Option.bind, pure]

theorem ofNumbers?_eq_some_iff {y : Int} {m d : Nat} {date : Date} :
    ofNumbers? y m d = some date ↔ date.year = y ∧ date.month = m ∧ date.day = d := by
  constructor
  · intro made
    unfold ofNumbers? at made
    split at made
    · cases made
      exact ⟨rfl, rfl, rfl⟩
    · cases made
  · rintro ⟨rfl, rfl, rfl⟩
    exact dif_pos date.isDay

theorem ofNumbers?_eq_none_iff {y : Int} {m d : Nat} : ofNumbers? y m d = none ↔
    ¬ InCalendar y m d := by
  rw [← isDay_iff]
  unfold ofNumbers?
  split <;> simp [*]

theorem parse_eq_ok_iff {date : Date} : parse text = .ok date ↔
    Spells text date.year date.month date.day := by
  rw [← readNumbers_eq_some_iff]
  unfold parse
  constructor
  · intro reads
    split at reads
    · cases reads
    · next numbers =>
      split at reads
      · cases reads
      · next made =>
        cases reads
        obtain ⟨rfl, rfl, rfl⟩ := ofNumbers?_eq_some_iff.mp made
        exact numbers
  · intro numbers
    rw [numbers]
    dsimp only
    rw [ofNumbers?_eq_some_iff.mpr ⟨rfl, rfl, rfl⟩]

theorem parse_eq_invalid_iff : parse text = .error .invalid ↔
    ∃ y m d, Spells text y m d ∧ ¬ InCalendar y m d := by
  simp only [← readNumbers_eq_some_iff, ← ofNumbers?_eq_none_iff]
  unfold parse
  rcases readNumbers text with _ | ⟨y, m, d⟩
  · simp
  · cases made : ofNumbers? y m d <;> simp [made]

theorem parse_eq_unknownFormat_iff : parse text = .error .unknownFormat ↔
    ∀ y m d, ¬ Spells text y m d := by
  simp only [← readNumbers_eq_some_iff]
  unfold parse
  rcases readNumbers text with _ | ⟨y, m, d⟩
  · simp
  · cases made : ofNumbers? y m d <;> simp [made]

end

end Date

end RowMapper.Calendar

namespace RowMapper

open Calendar (InCalendar)
open Calendar.Date (Spells)

namespace Kind

theorem readDate_eq_ok_iff {text : String} {d : Calendar.Date} :
    readDate text = .ok d ↔ Calendar.Date.parse text.toList = .ok d := by
  unfold readDate
  cases Calendar.Date.parse text.toList <;> simp [Except.mapError]

theorem readDate_eq_error_iff {text : String} {cause : Calendar.DateFault} :
    readDate text = .error (.value (.notADate text cause)) ↔
      Calendar.Date.parse text.toList = .error cause := by
  unfold readDate
  cases Calendar.Date.parse text.toList <;> simp [Except.mapError]

end Kind

/-- Reading a date. A date is read from a text exactly if the text spells its numbers. So a text is
a date exactly if it spells the numbers of a day of the calendar. Every other text is a wrong value:
there is no such day, or it does not spell three numbers that fit their words. -/
theorem date_text_is_read (text : String) :
    (∀ d, Kind.readDate text = .ok d ↔
      Spells text.toList d.year d.month d.day ∧ InCalendar d.year d.month d.day) ∧
    ((∃ d, Kind.readDate text = .ok d) ↔
      ∃ year month day, Spells text.toList year month day ∧ InCalendar year month day) ∧
    (Kind.readDate text = .error (.value (.notADate text .invalid)) ↔
      ∃ year month day, Spells text.toList year month day ∧ ¬ InCalendar year month day) ∧
    (Kind.readDate text = .error (.value (.notADate text .unknownFormat)) ↔
      ∀ year month day, ¬ Spells text.toList year month day) := by
  have exactly (d : Calendar.Date) : Kind.readDate text = .ok d ↔
      Spells text.toList d.year d.month d.day ∧ InCalendar d.year d.month d.day := by
    rw [Kind.readDate_eq_ok_iff, Calendar.Date.parse_eq_ok_iff,
      and_iff_left (Calendar.isDay_iff.mp d.isDay)]
  refine ⟨exactly, ?_, ?_, ?_⟩
  · constructor
    · rintro ⟨d, reads⟩
      exact ⟨_, _, _, (exactly d).mp reads⟩
    · rintro ⟨year, month, day, spells, inCalendar⟩
      exact ⟨⟨year, month, day, Calendar.isDay_iff.mpr inCalendar⟩,
        (exactly _).mpr ⟨spells, inCalendar⟩⟩
  · rw [Kind.readDate_eq_error_iff, Calendar.Date.parse_eq_invalid_iff]
  · rw [Kind.readDate_eq_error_iff, Calendar.Date.parse_eq_unknownFormat_iff]

-- Zeros in front do not count, and there may be a plus sign.
example : Kind.readDate "+02020-2-029" = .ok ⟨2020, 2, 29, by decide⟩ := rfl

end RowMapper
