import Mathlib.Algebra.Ring.Int.Defs
import RowMapper.Kind
import RowMapper.Proofs.Values.Digits
/-!
The texts that are times. A text spells hours, minutes and perhaps seconds as integer literals with
colons between, and perhaps a fraction of a second. Of the literals the low words of 32 bits are
read, so a literal that is out of range far enough may be read as a number that is not its own.
-/

set_option autoImplicit false

namespace RowMapper.Calendar.Clock

open Number (readInteger readInt64 digitsValue FitsInt64 Digits)

/-- The text writes hours, minutes and perhaps seconds with colons between, as integer literals with
these values, and perhaps a fraction behind the seconds. -/
inductive Spells : List Char → Int → Int → Int → Option (List Char) → Prop
  | minutes {hour minute : List Char} {h m : Int} (hours : readInteger hour = some h)
      (minutes : readInteger minute = some m) : Spells (hour ++ ':' :: minute) h m 0 none
  | seconds {hour minute second : List Char} {h m s : Int} (hours : readInteger hour = some h)
      (minutes : readInteger minute = some m) (seconds : readInteger second = some s) :
      Spells (hour ++ ':' :: (minute ++ ':' :: second)) h m s none
  | fraction {hour minute second fraction : List Char} {h m s : Int}
      (hours : readInteger hour = some h) (minutes : readInteger minute = some m)
      (seconds : readInteger second = some s) (last : ':' ∉ fraction) :
      Spells (hour ++ ':' :: (minute ++ ':' :: (second ++ '.' :: fraction))) h m s (some fraction)

/-- The nanoseconds are those of the fraction. The first six characters of a fraction count: they
are an integer literal, and each of them stands for one place of ten. -/
def IsFraction (fraction : Option (List Char)) (nano : Nat) : Prop :=
  match fraction with
  | none => nano = 0
  | some fraction => ∃ n, readInteger (fraction.take 6) = some n ∧
      (nano : Int) * 10 ^ (fraction.take 6).length = n * 10 ^ 9

/-- The microseconds of a fraction: of its first six characters, an integer literal, each stands for
one place. -/
def fractionMicros : Option (List Char) → Option Int
  | none => some 0
  | some fraction =>
    let counted := fraction.take 6
    (readInteger counted).map fun n => n * (10 ^ (6 - counted.length) : Nat)

/-- The fields of a time text; seconds that are not there are zero. -/
def clockFields (text : List Char) : Option (List Char × List Char × List Char) :=
  match Text.fields ':' text with
  | [hour, minute] => some (hour, minute, ['0'])
  | [hour, minute, second] => some (hour, minute, second)
  | _ => none

theorem clockFields_eq_some_iff {text hour minute second : List Char} :
    clockFields text = some (hour, minute, second) ↔ (':' ∉ hour ∧ ':' ∉ minute) ∧
      (text = hour ++ ':' :: minute ∧ second = ['0'] ∨
        text = hour ++ ':' :: (minute ++ ':' :: second) ∧ ':' ∉ second) := by
  constructor
  · intro found
    unfold clockFields at found
    split at found
    · next fields =>
      cases found
      obtain ⟨inHour, ⟨-, ⟨⟩⟩ | ⟨_, rfl, rest⟩⟩ := Text.fields_eq_cons_iff.mp fields
      obtain ⟨rfl, inMinute⟩ := Text.fields_eq_singleton_iff.mp rest
      exact ⟨⟨inHour, inMinute⟩, .inl ⟨rfl, rfl⟩⟩
    · next fields =>
      cases found
      obtain ⟨inHour, ⟨-, ⟨⟩⟩ | ⟨_, rfl, rest⟩⟩ := Text.fields_eq_cons_iff.mp fields
      obtain ⟨inMinute, ⟨-, ⟨⟩⟩ | ⟨_, rfl, last⟩⟩ := Text.fields_eq_cons_iff.mp rest
      obtain ⟨rfl, inSecond⟩ := Text.fields_eq_singleton_iff.mp last
      exact ⟨⟨inHour, inMinute⟩, .inr ⟨rfl, inSecond⟩⟩
    · cases found
  · rintro ⟨⟨inHour, inMinute⟩, ⟨rfl, rfl⟩ | ⟨rfl, inSecond⟩⟩
    · have fields : Text.fields ':' (hour ++ ':' :: minute) = [hour, minute] :=
        Text.fields_eq_cons_iff.mpr ⟨inHour,
          .inr ⟨_, rfl, Text.fields_eq_singleton_iff.mpr ⟨rfl, inMinute⟩⟩⟩
      rw [clockFields, fields]
    · have fields : Text.fields ':' (hour ++ ':' :: (minute ++ ':' :: second)) =
          [hour, minute, second] :=
        Text.fields_eq_cons_iff.mpr ⟨inHour, .inr ⟨_, rfl, Text.fields_eq_cons_iff.mpr
          ⟨inMinute, .inr ⟨_, rfl, Text.fields_eq_singleton_iff.mpr ⟨rfl, inSecond⟩⟩⟩⟩⟩
      rw [clockFields, fields]

/-- The whole seconds of a text and the fraction behind its first point, if it has one. -/
def secondParts (text : List Char) : List Char × Option (List Char) :=
  match Text.cut '.' text with
  | none => (text, none)
  | some (whole, fraction) => (whole, some fraction)

theorem secondParts_of_not_mem {text : List Char} (plain : '.' ∉ text) :
    secondParts text = (text, none) := by
  rw [secondParts, Text.cut_eq_none_iff.mpr plain]

theorem secondParts_append {whole : List Char} (plain : '.' ∉ whole) (fraction : List Char) :
    secondParts (whole ++ '.' :: fraction) = (whole, some fraction) := by
  rw [secondParts, Text.cut_eq_some_iff.mpr ⟨rfl, plain⟩]

theorem readSecond_eq (text : List Char) :
    readSecond text = (fractionMicros (secondParts text).2).map ((secondParts text).1, ·) := by
  unfold readSecond secondParts
  cases Text.cut '.' text with
  | none => rfl
  | some parts =>
    dsimp only
    rw [Number.readInt64_of_short (List.length_take_le 6 parts.2), fractionMicros, Option.map_map]
    rfl

/-- A text spells what stands in its fields. -/
theorem spells_iff {text : List Char} {h m s : Int} {fraction : Option (List Char)} :
    Spells text h m s fraction ↔
      ∃ hour minute second, clockFields text = some (hour, minute, second) ∧
      readInteger hour = some h ∧ readInteger minute = some m ∧
        readInteger (secondParts second).1 = some s ∧
      (secondParts second).2 = fraction := by
  -- No colon and no point stands in an integer literal.
  have noColon {field : List Char} {n : Int} (reads : readInteger field = some n) : ':' ∉ field :=
    Number.not_mem_of_readInteger reads (by decide) rfl
  have noPoint {field : List Char} {n : Int} (reads : readInteger field = some n) : '.' ∉ field :=
    Number.not_mem_of_readInteger reads (by decide) rfl
  simp only [clockFields_eq_some_iff]
  constructor
  · intro spells
    cases spells with
    | minutes hours minutes =>
      exact ⟨_, _, ['0'], ⟨⟨noColon hours, noColon minutes⟩, .inl ⟨rfl, rfl⟩⟩, hours,
        minutes, rfl, rfl⟩
    | @seconds _ _ second _ _ _ hours minutes seconds =>
      have parts := secondParts_of_not_mem (noPoint seconds)
      refine ⟨_, _, second, ⟨⟨noColon hours, noColon minutes⟩, .inr ⟨rfl, noColon seconds⟩⟩, hours,
        minutes, ?_, ?_⟩
      · rw [parts, seconds]
      · rw [parts]
    | @fraction _ _ second fraction _ _ _ hours minutes seconds last =>
      have parts := secondParts_append (noPoint seconds) fraction
      have plain : ':' ∉ second ++ '.' :: fraction := by simp [noColon seconds, last]
      refine ⟨_, _, _, ⟨⟨noColon hours, noColon minutes⟩, .inr ⟨rfl, plain⟩⟩, hours,
        minutes, ?_, ?_⟩
      · rw [parts, seconds]
      · rw [parts]
  · rintro ⟨hour, minute, second, ⟨-, ⟨rfl, rfl⟩ | ⟨rfl, last⟩⟩, hours, minutes, seconds, rfl⟩
    · cases seconds
      exact .minutes hours minutes
    · cases cuts : Text.cut '.' second with
      | none =>
        have parts := secondParts_of_not_mem (Text.cut_eq_none_iff.mp cuts)
        rw [parts] at seconds ⊢
        exact .seconds hours minutes seconds
      | some cut =>
        obtain ⟨rfl, plain⟩ := Text.cut_eq_some_iff.mp cuts
        rw [secondParts_append plain] at seconds ⊢
        exact .fraction hours minutes seconds fun isMember => last (by simp [isMember])

/-- A text spells its numbers in one way. -/
theorem Spells.unique {text : List Char} {h m s h' m' s' : Int}
    {fraction fraction' : Option (List Char)} (spells : Spells text h m s fraction)
    (spells' : Spells text h' m' s' fraction') :
    (h = h' ∧ m = m' ∧ s = s') ∧ fraction = fraction' := by
  obtain ⟨hour, minute, second, fields, hours, minutes, seconds, rfl⟩ := spells_iff.mp spells
  obtain ⟨hour', minute', second', fields', hours', minutes', seconds', rfl⟩ :=
    spells_iff.mp spells'
  rw [fields] at fields'
  cases fields'
  rw [hours] at hours'
  rw [minutes] at minutes'
  rw [seconds] at seconds'
  exact ⟨⟨Option.some.inj hours', Option.some.inj minutes', Option.some.inj seconds'⟩, rfl⟩

theorem Spells.hour {text : List Char} {h m s : Int} {fraction : Option (List Char)}
    (spells : Spells text h m s fraction) :
    ∃ hour rest, text = hour ++ ':' :: rest ∧ readInteger hour = some h := by
  cases spells with
  | minutes hours => exact ⟨_, _, rfl, hours⟩
  | seconds hours => exact ⟨_, _, rfl, hours⟩
  | fraction hours => exact ⟨_, _, rfl, hours⟩

/-- A minus sign in front of a text without sign belongs to the hours. -/
theorem Spells.negated {c : Char} {rest : List Char} {h m s : Int} {fraction : Option (List Char)}
    (spells : Spells (c :: rest) h m s fraction) (minus : c ≠ '-') (plus : c ≠ '+') :
    Spells ('-' :: c :: rest) (-h) m s fraction := by
  generalize whole : c :: rest = text at spells
  cases spells with
  | @minutes hour _ _ _ hours minutes =>
    cases hour with
    | nil => cases hours
    | cons d more =>
      cases whole
      have hours := Number.readInteger_negated hours minus plus
      exact @Spells.minutes ('-' :: c :: more) _ _ _ hours minutes
  | @seconds hour _ _ _ _ _ hours minutes seconds =>
    cases hour with
    | nil => cases hours
    | cons d more =>
      cases whole
      have hours := Number.readInteger_negated hours minus plus
      exact @Spells.seconds ('-' :: c :: more) _ _ _ _ _ hours minutes seconds
  | @fraction hour _ _ _ _ _ _ hours minutes seconds last =>
    cases hour with
    | nil => cases hours
    | cons d more =>
      cases whole
      have hours := Number.readInteger_negated hours minus plus
      exact @Spells.fraction ('-' :: c :: more) _ _ _ _ _ _ hours minutes seconds last

theorem Spells.nonneg {text : List Char} {h m s : Int} {fraction : Option (List Char)}
    (spells : Spells text h m s fraction) (noMinus : '-' ∉ text) :
    (0 ≤ h ∧ 0 ≤ m ∧ 0 ≤ s) ∧ ∀ places ∈ fraction, '-' ∉ places := by
  cases spells with
  | minutes hours minutes =>
    simp only [List.mem_append, List.mem_cons, not_or] at noMinus
    exact ⟨⟨Number.readInteger_nonneg hours noMinus.1,
      Number.readInteger_nonneg minutes noMinus.2.2, Int.le_refl 0⟩, nofun⟩
  | seconds hours minutes seconds =>
    simp only [List.mem_append, List.mem_cons, not_or] at noMinus
    obtain ⟨inHour, -, inMinute, -, inSecond⟩ := noMinus
    exact ⟨⟨Number.readInteger_nonneg hours inHour, Number.readInteger_nonneg minutes inMinute,
      Number.readInteger_nonneg seconds inSecond⟩, nofun⟩
  | fraction hours minutes seconds last =>
    simp only [List.mem_append, List.mem_cons, not_or] at noMinus
    obtain ⟨inHour, -, inMinute, -, inSecond, -, inFraction⟩ := noMinus
    refine ⟨⟨Number.readInteger_nonneg hours inHour, Number.readInteger_nonneg minutes inMinute,
      Number.readInteger_nonneg seconds inSecond⟩, ?_⟩
    rintro places ⟨⟩
    exact inFraction

theorem fractionMicros_nonneg {fraction : Option (List Char)} {micro : Int}
    (counts : fractionMicros fraction = some micro) (noMinus : ∀ places ∈ fraction, '-' ∉ places) :
    0 ≤ micro := by
  cases fraction with
  | none =>
    cases counts
    exact Int.le_refl 0
  | some places =>
    obtain ⟨n, read, rfl⟩ := Option.map_eq_some_iff.mp counts
    have positive := Number.readInteger_nonneg read fun isMember =>
      noMinus places rfl (List.mem_of_mem_take isMember)
    exact Int.mul_nonneg positive (Int.natCast_nonneg _)

/-- The numbers of a time text are those that it spells, if they fit 64 bits. -/
theorem readNumbers_eq_some_iff {text : List Char} {n : ClockNumbers} :
    readNumbers text = some n ↔ ∃ fraction, Spells text n.hour n.minute n.second fraction ∧
      fractionMicros fraction = some n.micro ∧ FitsInt64 n.hour ∧ FitsInt64 n.minute ∧
      FitsInt64 n.second := by
  have unfolded : readNumbers text =
      (clockFields text).bind fun fields => (readSecond fields.2.2).bind fun parts =>
        (readInt64 fields.1).bind fun hour => (readInt64 fields.2.1).bind fun minute =>
          (readInt64 parts.1).bind fun second => some ⟨hour, minute, second, parts.2⟩ := by
    unfold readNumbers clockFields
    rcases Text.fields ':' text with _ | ⟨hour, _ | ⟨minute, _ | ⟨second, _ | ⟨other, rest⟩⟩⟩⟩ <;>
      rfl
  rw [unfolded]
  simp only [spells_iff]
  constructor
  · intro reads
    obtain ⟨⟨hour, minute, second⟩, fields, reads⟩ := Option.bind_eq_some_iff.mp reads
    rw [readSecond_eq] at reads
    obtain ⟨_, parts, reads⟩ := Option.bind_eq_some_iff.mp reads
    obtain ⟨micro, counts, rfl⟩ := Option.map_eq_some_iff.mp parts
    obtain ⟨h, hours, reads⟩ := Option.bind_eq_some_iff.mp reads
    obtain ⟨m, minutes, reads⟩ := Option.bind_eq_some_iff.mp reads
    obtain ⟨s, seconds, reads⟩ := Option.bind_eq_some_iff.mp reads
    cases reads
    obtain ⟨hours, hoursFit⟩ := Number.readInt64_eq_some_iff.mp hours
    obtain ⟨minutes, minutesFit⟩ := Number.readInt64_eq_some_iff.mp minutes
    obtain ⟨seconds, secondsFit⟩ := Number.readInt64_eq_some_iff.mp seconds
    exact ⟨_, ⟨hour, minute, second, fields, hours, minutes, seconds, rfl⟩, counts, hoursFit,
      minutesFit, secondsFit⟩
  · rintro ⟨_, ⟨hour, minute, second, fields, hours, minutes, seconds, rfl⟩, counts, hoursFit,
      minutesFit, secondsFit⟩
    have hours := Number.readInt64_eq_some_iff.mpr ⟨hours, hoursFit⟩
    have minutes := Number.readInt64_eq_some_iff.mpr ⟨minutes, minutesFit⟩
    have seconds := Number.readInt64_eq_some_iff.mpr ⟨seconds, secondsFit⟩
    simp only [fields, readSecond_eq, counts, Option.map_some, hours, minutes, seconds, Option.bind]

/-! ## The time with these numbers -/

/-- The places that a fraction lacks of six, and those that it has. -/
theorem places_split {count : Nat} (short : count ≤ 6) :
    (10 ^ (6 - count) * 10 ^ count : Nat) = 1000000 := by
  rw [← Nat.pow_add, Nat.sub_add_cancel short]

theorem fractionMicros_bounded {fraction : Option (List Char)} {micro : Int}
    (counts : fractionMicros fraction = some micro) : -1000000 < micro ∧ micro < 1000000 := by
  cases fraction with
  | none =>
    cases counts
    decide
  | some fraction =>
    obtain ⟨n, read, rfl⟩ := Option.map_eq_some_iff.mp counts
    have places := places_split (List.length_take_le 6 fraction)
    have small := Number.natAbs_lt_of_readInteger read
    generalize (fraction.take 6).length = count at places small ⊢
    have bounded : (n * (10 ^ (6 - count) : Nat)).natAbs < 1000000 := by
      rw [Int.natAbs_mul, Int.natAbs_natCast, ← places, Nat.mul_comm]
      exact Nat.mul_lt_mul_of_pos_left small (Nat.pow_pos (by decide))
    omega

theorem isFraction_iff {fraction : Option (List Char)} {nano : Nat} :
    IsFraction fraction nano ↔ ∃ micro, fractionMicros fraction = some micro ∧
      (nano : Int) = micro * 1000 := by
  cases fraction with
  | none => simp [IsFraction, fractionMicros]
  | some fraction =>
    have places := places_split (List.length_take_le 6 fraction)
    simp only [IsFraction, fractionMicros, Option.map_eq_some_iff]
    generalize (fraction.take 6).length = count at places ⊢
    have power : (10 : Int) ^ 9 = (10 ^ (6 - count) : Nat) * 1000 * 10 ^ count := by
      have whole : ((10 ^ (6 - count) : Nat) : Int) * 10 ^ count = 1000000 := by
        have cast : ((10 ^ (6 - count) * 10 ^ count : Nat) : Int) = 1000000 :=
          congrArg Int.ofNat places
        rwa [Int.natCast_mul, Int.natCast_pow 10 count] at cast
      rw [Int.mul_right_comm, whole]
      rfl
    constructor
    · rintro ⟨n, read, scaled⟩
      refine ⟨_, ⟨n, read, rfl⟩, ?_⟩
      have positive : (10 : Int) ^ count ≠ 0 := Int.pow_ne_zero (by decide)
      apply Int.eq_of_mul_eq_mul_right positive
      rw [scaled, power]
      simp only [Int.mul_assoc]
    · rintro ⟨_, ⟨n, read, rfl⟩, scaled⟩
      refine ⟨n, read, ?_⟩
      rw [scaled, power]
      simp only [Int.mul_assoc]

/-- Without a sign in front, the characters of a fraction that count are digits. -/
theorem isFraction_unsigned_iff {fraction : List Char} (minus : fraction.head? ≠ some '-')
    (plus : fraction.head? ≠ some '+') {nano : Nat} :
    IsFraction (some fraction) nano ↔ (fraction.take 6 ≠ [] ∧ Digits (fraction.take 6)) ∧
      nano * 10 ^ (fraction.take 6).length = digitsValue (fraction.take 6) * 10 ^ 9 := by
  have reads {n : Int} : readInteger (fraction.take 6) = some n ↔
      (fraction.take 6 ≠ [] ∧ Digits (fraction.take 6)) ∧
      (digitsValue (fraction.take 6) : Int) = n := by
    cases fraction with
    | nil => simp [readInteger, Number.readNatural, Number.readDigits]
    | cons c rest =>
      have notMinus : c ≠ '-' := by simpa using minus
      have notPlus : c ≠ '+' := by simpa using plus
      rw [List.take_succ_cons, Number.readInteger_unsigned notMinus notPlus]
      simp only [Option.map_eq_some_iff, Number.readDigits_eq_some_iff]
      constructor
      · rintro ⟨_, ⟨digits, rfl⟩, rfl⟩
        exact ⟨digits, rfl⟩
      · rintro ⟨digits, rfl⟩
        exact ⟨_, ⟨digits, rfl⟩, rfl⟩
  simp only [IsFraction, reads]
  constructor
  · rintro ⟨_, ⟨digits, rfl⟩, scaled⟩
    exact ⟨digits, Int.ofNat_inj.mp (by simpa using scaled)⟩
  · rintro ⟨digits, scaled⟩
    exact ⟨_, ⟨digits, rfl⟩, by simpa using congrArg Int.ofNat scaled⟩

theorem ofClockNumbers?_eq_some_iff {n : ClockNumbers} {t : Clock} :
    ofClockNumbers? n = some t ↔ t.hour = lowWord n.hour ∧ t.minute = lowWord n.minute ∧
      t.second = lowWord n.second ∧ t.nano = lowWord n.micro * 1000 := by
  constructor
  · intro made
    unfold ofClockNumbers? at made
    split at made
    · unfold ofNumbers? at made
      split at made
      · cases made
        exact ⟨rfl, rfl, rfl, rfl⟩
      · cases made
    · cases made
  · obtain ⟨hour, minute, second, nano, isClock⟩ := t
    rintro ⟨rfl, rfl, rfl, rfl⟩
    have small : lowWord n.micro * 1000 < 4294967296 := by
      have := isClock.2.1
      omega
    rw [ofClockNumbers?, if_pos small, ofNumbers?, dif_pos isClock]

/-- The low word of microseconds counts as nanoseconds only if they are not negative. -/
theorem lowWord_micro_iff {micro : Int} (bounded : -1000000 < micro ∧ micro < 1000000) {nano : Nat}
    (small : nano < 2000000000) : nano = lowWord micro * 1000 ↔ (nano : Int) = micro * 1000 := by
  unfold lowWord
  omega

theorem parse_eq_ok_iff {text : List Char} {t : Clock} :
    parse text = .ok t ↔ ∃ h m s fraction, Spells text h m s fraction ∧
      (FitsInt64 h ∧ FitsInt64 m ∧ FitsInt64 s) ∧ (t.hour = lowWord h ∧ t.minute = lowWord m ∧
        t.second = lowWord s) ∧ IsFraction fraction t.nano := by
  have small : t.nano < 2000000000 := t.isClock.2.1
  have parsed : parse text = .ok t ↔
      ∃ n, readNumbers text = some n ∧ ofClockNumbers? n = some t := by
    unfold parse
    cases readNumbers text with
    | none => simp
    | some n => cases made : ofClockNumbers? n <;> simp [made]
  rw [parsed]
  constructor
  · rintro ⟨n, reads, made⟩
    obtain ⟨fraction, spells, counts, fits⟩ := readNumbers_eq_some_iff.mp reads
    obtain ⟨hours, minutes, seconds, nanos⟩ := ofClockNumbers?_eq_some_iff.mp made
    have scaled := (lowWord_micro_iff (fractionMicros_bounded counts) small).mp nanos
    exact ⟨_, _, _, fraction, spells, fits, ⟨hours, minutes, seconds⟩,
      isFraction_iff.mpr ⟨_, counts, scaled⟩⟩
  · rintro ⟨h, m, s, fraction, spells, fits, ⟨hours, minutes, seconds⟩, isFraction⟩
    obtain ⟨micro, counts, scaled⟩ := isFraction_iff.mp isFraction
    have nanos := (lowWord_micro_iff (fractionMicros_bounded counts) small).mpr scaled
    exact ⟨⟨h, m, s, micro⟩, readNumbers_eq_some_iff.mpr ⟨fraction, spells, counts, fits⟩,
      ofClockNumbers?_eq_some_iff.mpr ⟨hours, minutes, seconds, nanos⟩⟩

/-! ## Numbers that narrowing leaves alone -/

/-- The low word of the number is the number, or it is beyond fifty-nine as the number is out of
range. -/
def Unwrapped (n : Int) : Prop := -4294967236 ≤ n ∧ n < 4294967296

instance (n : Int) : Decidable (Unwrapped n) := inferInstanceAs (Decidable (_ ∧ _))

theorem lowWord_eq_iff {n : Int} (unwrapped : Unwrapped n) {m : Nat} (small : m < 60) :
    m = lowWord n ↔ (m : Int) = n := by
  unfold Unwrapped at unwrapped
  unfold lowWord
  omega

theorem Unwrapped.fits {n : Int} (unwrapped : Unwrapped n) : FitsInt64 n := by
  unfold Unwrapped at unwrapped
  unfold FitsInt64
  omega

end RowMapper.Calendar.Clock

namespace RowMapper

open Calendar (Clock)
open Calendar.Clock (Spells IsFraction Unwrapped lowWord)
open Number (FitsInt64 Digits digitsValue)

/-- What stands behind the first blank of a text, or the whole text if it has none. -/
inductive BehindBlank : List Char → List Char → Prop
  | behind {before part : List Char} (first : ' ' ∉ before) :
      BehindBlank (before ++ ' ' :: part) part
  | whole {text : List Char} (none : ' ' ∉ text) : BehindBlank text text

namespace Kind

theorem readClock_eq_ok_iff {text : String} {t : Clock} :
    readClock text = .ok t ↔ Clock.parse text.toList = .ok t := by
  unfold readClock
  cases Clock.parse text.toList <;> simp [Except.mapError]

theorem readClock_cases (text : String) :
    (∃ t, readClock text = .ok t) ∨
      ∃ cause, readClock text = .error (.value (.notAClock text cause)) := by
  unfold readClock
  cases Clock.parse text.toList with
  | ok t => exact .inl ⟨t, rfl⟩
  | error cause => exact .inr ⟨cause, rfl⟩

theorem readDate_cases (text : String) :
    (∃ d, readDate text = .ok d) ∨
      ∃ cause, readDate text = .error (.value (.notADate text cause)) := by
  unfold readDate
  cases Calendar.Date.parse text.toList with
  | ok d => exact .inl ⟨d, rfl⟩
  | error cause => exact .inr ⟨cause, rfl⟩

theorem behindBlank_clockPart (text : String) :
    BehindBlank text.toList (clockPart text).toList := by
  unfold clockPart
  cases cuts : Text.cut ' ' text.toList with
  | none => exact .whole (Text.cut_eq_none_iff.mp cuts)
  | some parts =>
    obtain ⟨text_eq, first⟩ := Text.cut_eq_some_iff.mp cuts
    rw [text_eq, String.toList_ofList]
    exact .behind first

theorem readDateTime_cases (text : String) :
    (∃ d, readDateTime text = .ok d) ∨ ∃ fault, readDateTime text = .error (.value fault) := by
  unfold readDateTime
  cases Text.cut ' ' text.toList with
  | none => exact .inr ⟨_, rfl⟩
  | some parts =>
    rcases readDate_cases (String.ofList parts.1) with ⟨day, isDay⟩ | ⟨cause, noDay⟩
    · rcases readClock_cases (String.ofList parts.2) with ⟨time, isTime⟩ | ⟨cause, noTime⟩
      · exact .inl ⟨⟨day, time⟩, by simp only [isDay, isTime, bind, Except.bind, pure, Except.pure]⟩
      · exact .inr ⟨_, by simp only [isDay, noTime, bind, Except.bind]; rfl⟩
    · exact .inr ⟨_, by simp only [noDay, bind, Except.bind]; rfl⟩

/-- A date and a time are read apart, the time behind the first blank. -/
theorem readDateTime_append {text before after : String}
    (text_eq : text.toList = before.toList ++ ' ' :: after.toList) (first : ' ' ∉ before.toList) :
    readDateTime text = (do
      let day ← readDate before
      let time ← readClock after
      return ⟨day, time⟩) := by
  rw [readDateTime, Text.cut_eq_some_iff.mpr ⟨text_eq, first⟩]
  simp only [String.ofList_toList]

end Kind

/-- Reading a time. It is read from a text exactly if the text spells hours, minutes and perhaps
seconds as integer literals of 64 bits whose low words of 32 bits are its numbers, and a fraction
that it has. So wherever the literals are numbers that narrowing leaves alone, they are its numbers,
and a text with such numbers out of range is refused. Without a sign in front, a fraction counts
with its first six digits. What is refused is a wrong value. Cells for times and for moments read
the part behind the blank in this way. -/
theorem time_text_is_read (text : String) :
    (∀ t, Kind.readClock text = .ok t ↔ ∃ h m s fraction, Spells text.toList h m s fraction ∧
      (FitsInt64 h ∧ FitsInt64 m ∧ FitsInt64 s) ∧
      (t.hour = lowWord h ∧ t.minute = lowWord m ∧ t.second = lowWord s) ∧
        IsFraction fraction t.nano) ∧
    (∀ h m s fraction, Spells text.toList h m s fraction → Unwrapped h → Unwrapped m → Unwrapped s →
      ∀ t, Kind.readClock text = .ok t ↔
        ((t.hour : Int) = h ∧ (t.minute : Int) = m ∧ (t.second : Int) = s) ∧
          IsFraction fraction t.nano) ∧
    (∀ fraction nano, fraction.head? ≠ some '-' → fraction.head? ≠ some '+' →
      (IsFraction (some fraction) nano ↔ (fraction.take 6 ≠ [] ∧ Digits (fraction.take 6)) ∧
        nano * 10 ^ (fraction.take 6).length = digitsValue (fraction.take 6) * 10 ^ 9)) ∧
    ((∃ t, Kind.readClock text = .ok t) ∨
      ∃ cause, Kind.readClock text = .error (.value (.notAClock text cause))) ∧
    (∃ part : String, BehindBlank text.toList part.toList ∧
      Kind.clock.accept .database (.text text) = (Kind.readClock part).map .clock) ∧
    (∀ before after : String, text.toList = before.toList ++ ' ' :: after.toList →
      ' ' ∉ before.toList → Kind.dateTime.accept .database (.text text) = (do
        let day ← Kind.readDate before
        let time ← Kind.readClock after
        return .dateTime ⟨day, time⟩)) ∧
    ((∃ d, Kind.dateTime.accept .database (.text text) = .ok (.dateTime d)) ∨
      ∃ fault, Kind.dateTime.accept .database (.text text) = .error (.value fault)) := by
  refine ⟨?_, ?_, fun _ _ minus plus => Clock.isFraction_unsigned_iff minus plus,
    Kind.readClock_cases text, ⟨Kind.clockPart text, Kind.behindBlank_clockPart text, rfl⟩, ?_, ?_⟩
  · intro t
    rw [Kind.readClock_eq_ok_iff, Clock.parse_eq_ok_iff]
  · intro h m s fraction spells hours minutes seconds t
    obtain ⟨⟨hourSmall, minuteSmall, secondSmall⟩, -⟩ := t.isClock
    rw [Kind.readClock_eq_ok_iff, Clock.parse_eq_ok_iff, ← Clock.lowWord_eq_iff hours (by omega),
      ← Clock.lowWord_eq_iff minutes minuteSmall, ← Clock.lowWord_eq_iff seconds secondSmall]
    constructor
    · rintro ⟨h', m', s', fraction', spells', -, words, isFraction⟩
      obtain ⟨⟨rfl, rfl, rfl⟩, rfl⟩ := spells'.unique spells
      exact ⟨words, isFraction⟩
    · rintro ⟨words, isFraction⟩
      exact ⟨h, m, s, fraction, spells, ⟨hours.fits, minutes.fits, seconds.fits⟩, words, isFraction⟩
  · intro before after text_eq first
    change (Kind.readDateTime text).map Value.dateTime = _
    rw [Kind.readDateTime_append text_eq first]
    rcases Kind.readDate before with _ | _
    · rfl
    · rcases Kind.readClock after with _ | _ <;> rfl
  · change (∃ d, (Kind.readDateTime text).map Value.dateTime = _) ∨
      ∃ fault, (Kind.readDateTime text).map _ = _
    rcases Kind.readDateTime_cases text with ⟨d, read⟩ | ⟨fault, refused⟩
    · exact .inl ⟨d, by rw [read]; rfl⟩
    · exact .inr ⟨fault, by rw [refused]; rfl⟩

/-- An hour beyond 32 bits is read as its low word. -/
theorem hugeHour_is_read_as_one :
    Spells "4294967297:00".toList 4294967297 0 0 none ∧
      Kind.readClock "4294967297:00" = .ok ⟨1, 0, 0, 0, by decide⟩ :=
  ⟨@Spells.minutes "4294967297".toList "00".toList 4294967297 0 rfl rfl, rfl⟩

/-- A time with leading zeros, a sign, and more behind the six places that count. -/
def looseTime : String := "007:+8:59.0625004z"

theorem spells_looseTime : Spells looseTime.toList 7 8 59 (some "0625004z".toList) :=
  @Spells.fraction "007".toList "+8".toList "59".toList "0625004z".toList 7 8 59
    rfl rfl rfl (by decide)

theorem looseTime_is_read :
    Kind.readClock looseTime = .ok ⟨7, 8, 59, 62500000, by decide⟩ ∧
      (∀ t, Kind.readClock "24:00" ≠ .ok t) ∧
      Kind.dateTime.accept .database (.text ("2021-02-03 " ++ looseTime)) =
        .ok (.dateTime ⟨⟨2021, 2, 3, by decide⟩, ⟨7, 8, 59, 62500000, by decide⟩⟩) := by
  obtain ⟨-, exactly, fraction, -⟩ := time_text_is_read looseTime
  have places : IsFraction (some "0625004z".toList) 62500000 :=
    (fraction _ _ (by decide) (by decide)).mpr ⟨⟨by decide, List.all_eq_true.mp rfl⟩, by decide⟩
  have time : Kind.readClock looseTime = .ok ⟨7, 8, 59, 62500000, by decide⟩ :=
    (exactly _ _ _ _ spells_looseTime (by decide) (by decide) (by decide) _).mpr
      ⟨⟨rfl, rfl, rfl⟩, places⟩
  refine ⟨time, ?_, ?_⟩
  · intro t reads
    obtain ⟨-, exactly, -⟩ := time_text_is_read "24:00"
    have midnight : Spells "24:00".toList 24 0 0 none :=
      @Spells.minutes "24".toList "00".toList 24 0 rfl rfl
    have hours := ((exactly _ _ _ _ midnight (by decide) (by decide) (by decide) t).mp reads).1.1
    have := t.isClock.1.1
    omega
  · obtain ⟨-, -, -, -, -, moment, -⟩ := time_text_is_read ("2021-02-03 " ++ looseTime)
    have day : Kind.readDate "2021-02-03" = .ok ⟨2021, 2, 3, by decide⟩ := rfl
    rw [moment "2021-02-03" looseTime rfl (by decide), day, time]
    rfl

end RowMapper
