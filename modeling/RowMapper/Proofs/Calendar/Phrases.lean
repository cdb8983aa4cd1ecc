import RowMapper.Proofs.Calendar.Amounts
import RowMapper.Proofs.Calendar.ClockText
import RowMapper.Proofs.Calendar.Sums
/-!
The grammar of intervals. An interval is read exactly if its tokens are groups (an amount and its
unit, or a clock, perhaps with an amount of days in front) with at most one more amount behind them,
which counts seconds. The result is the sum of the lengths of the groups, one added after the other.
-/

set_option autoImplicit false

namespace RowMapper.Calendar.Interval

/-! ## Groups and phrases -/

/-- Groups of tokens and the lengths that they add. -/
inductive Groups (Number : List Char → Prop) : List (List Char) → List Duration → Prop
  | nil : Groups Number [] []
  | unit {number word : List Char} {amount : Amount} {unit : Float} {others : List (List Char)}
      {lengths : List Duration} (isNumber : Number number) (reads : readAmount number = some amount)
      (isUnit : unit? (String.ofList word) = some unit) (behind : Groups Number others lengths) :
      Groups Number (number :: word :: others) (amount.toDuration unit :: lengths)
  | clock {clock : List Char} {numbers : ClockNumbers} {others : List (List Char)}
      {lengths : List Duration} (isClock : IsClockText clock)
      (reads : Clock.readNumbers clock = some numbers) (behind : Groups Number others lengths) :
      Groups Number (clock :: others) (clockLengths numbers ++ lengths)
  | days {number clock : List Char} {amount : Amount} {numbers : ClockNumbers}
      {others : List (List Char)} {lengths : List Duration} (isNumber : Number number)
      (counts : readAmount number = some amount) (isClock : IsClockText clock)
      (reads : Clock.readNumbers clock = some numbers) (behind : Groups Number others lengths) :
      Groups Number (number :: clock :: others)
        (amount.toDuration day :: (clockLengths numbers ++ lengths))

/-- Groups, perhaps with a number behind them, and the lengths that they add. -/
inductive Phrase (Number : List Char → Prop) : List (List Char) → List Duration → Prop
  | whole {tokens : List (List Char)} {lengths : List Duration}
      (groups : Groups Number tokens lengths) :
      Phrase Number tokens lengths
  | seconds {tokens : List (List Char)} {lengths : List Duration} {number : List Char}
      {amount : Amount} (groups : Groups Number tokens lengths) (isNumber : Number number)
      (reads : readAmount number = some amount) :
      Phrase Number (tokens ++ [number]) (lengths ++ [amount.toDuration second])

section

variable {Number : List Char → Prop} {front back : List (List Char)} {lengths more : List Duration}

theorem Groups.append (groups : Groups Number front lengths) (others : Groups Number back more) :
    Groups Number (front ++ back) (lengths ++ more) := by
  induction groups with
  | nil => exact others
  | unit isNumber reads isUnit _ ih => exact .unit isNumber reads isUnit ih
  | clock isClock reads _ ih =>
    rw [List.append_assoc]
    exact .clock isClock reads ih
  | @days number clock amount numbers _ _ isNumber counts isClock reads _ ih =>
    have behind := Groups.days isNumber counts isClock reads ih
    simpa only [List.cons_append, List.append_assoc] using behind

theorem Groups.followed (groups : Groups Number front lengths) (phrase : Phrase Number back more) :
    Phrase Number (front ++ back) (lengths ++ more) := by
  cases phrase with
  | whole others => exact .whole (groups.append others)
  | seconds others isNumber reads =>
    rw [← List.append_assoc, ← List.append_assoc]
    exact .seconds (groups.append others) isNumber reads

theorem Groups.starts {token : List Char} (groups : Groups Number (token :: back) lengths) :
    Number token ∨ IsClockText token := by
  cases groups with
  | unit isNumber => exact .inl isNumber
  | clock isClock => exact .inr isClock
  | days isNumber => exact .inl isNumber

theorem Phrase.starts {token : List Char} (phrase : Phrase Number (token :: back) lengths) :
    Number token ∨ IsClockText token := by
  generalize whole : token :: back = tokens at phrase
  cases phrase with
  | whole groups =>
    rw [← whole] at groups
    exact groups.starts
  | @seconds front _ _ _ groups isNumber =>
    cases front with
    | nil =>
      cases whole
      exact .inl isNumber
    | cons first rest =>
      cases whole
      exact groups.starts

/-- Groups are groups for a narrower notion of number, if their tokens that are numbers are numbers
in its sense. -/
theorem Groups.narrow {Narrow : List Char → Prop} (groups : Groups Number front lengths)
    (narrow : ∀ token ∈ front, Number token → Narrow token) : Groups Narrow front lengths := by
  induction groups with
  | nil => exact .nil
  | unit isNumber reads isUnit _ ih =>
    refine .unit (narrow _ (by simp) isNumber) reads isUnit
      (ih fun token isMember => narrow token ?_)
    exact List.mem_cons_of_mem _ (List.mem_cons_of_mem _ isMember)
  | clock isClock reads _ ih =>
    exact .clock isClock reads
      (ih fun token isMember => narrow token (List.mem_cons_of_mem _ isMember))
  | days isNumber counts isClock reads _ ih =>
    refine .days (narrow _ (by simp) isNumber) counts isClock reads
      (ih fun token isMember => narrow token ?_)
    exact List.mem_cons_of_mem _ (List.mem_cons_of_mem _ isMember)

theorem Phrase.narrow {Narrow : List Char → Prop} (phrase : Phrase Number front lengths)
    (narrow : ∀ token ∈ front, Number token → Narrow token) : Phrase Narrow front lengths := by
  cases phrase with
  | whole groups => exact .whole (groups.narrow narrow)
  | seconds groups isNumber reads =>
    have inGroups := groups.narrow fun token isMember =>
      narrow token (List.mem_append_left _ isMember)
    exact .seconds inGroups (narrow _ (by simp) isNumber) reads

end

/-! ## Reading tokens -/

theorem bind_assoc {ε α β γ : Type} (first : Except ε α) (next : α → Except ε β)
    (last : β → Except ε γ) :
    (first.bind next).bind last = first.bind fun a => (next a).bind last := by
  cases first <;> rfl

theorem bind_eq_ok {ε α β : Type} {first : Except ε α} {next : α → Except ε β} {result : β}
    (succeeds : first.bind next = .ok result) : ∃ a, first = .ok a ∧ next a = .ok result := by
  cases first with
  | error fault => cases succeeds
  | ok a => exact ⟨a, rfl, succeeds⟩

/-- Takes the tokens in and lets a number that still waits count seconds. -/
def readFrom (p : Progress) (tokens : List (List Char)) : Except Fault Duration :=
  (run p tokens).bind Progress.finish

theorem parse_eq_readFrom (text : List Char) : parse text = readFrom ⟨.zero, none⟩ (tokens text) :=
  rfl

section

variable {token : List Char} {sum : Duration} {amount : Amount}

theorem readFrom_cons (p : Progress) (token : List Char) (rest : List (List Char)) :
    readFrom p (token :: rest) = (step p token).bind (readFrom · rest) := by
  unfold readFrom
  rw [run]
  cases step p token <;> rfl

/-- A clock makes days of the number in front of it. -/
theorem step_colon (p : Progress) (colon : ':' ∈ token) :
    step p token =
      (sumUp p.sum (p.waiting.map fun amount => amount.toDuration day).toList).bind fun sum =>
        match Clock.readNumbers token with
        | none => .error (.notAClock token)
        | some numbers => (sumUp sum (clockLengths numbers)).bind fun sum => .ok ⟨sum, none⟩ := by
  unfold step
  exact if_pos colon

theorem step_first (noColon : ':' ∉ token) :
    step ⟨sum, none⟩ token = match readAmount token with
      | none => .error (.notANumber token)
      | some amount => .ok ⟨sum, some amount⟩ := by
  unfold step
  exact if_neg noColon

theorem step_second (noColon : ':' ∉ token) :
    step ⟨sum, some amount⟩ token = match unit? (String.ofList token) with
      | none => .error (.unknownUnit token)
      | some unit => (sumUp sum [amount.toDuration unit]).bind fun sum => .ok ⟨sum, none⟩ := by
  unfold step
  exact if_neg noColon

/-- What a token does that is taken in: a clock adds its lengths behind the days in front of it, a
first token waits as an amount, and a second one is the unit of the amount that waits. -/
inductive Step (token : List Char) : Progress → Progress → Prop
  | clock {p : Progress} {numbers : ClockNumbers} {total : Duration} (colon : ':' ∈ token)
      (reads : Clock.readNumbers token = some numbers)
      (adds : sumUp p.sum ((p.waiting.map fun amount => amount.toDuration day).toList ++
        clockLengths numbers) = .ok total) : Step token p ⟨total, none⟩
  | amount {sum : Duration} {amount : Amount} (noColon : ':' ∉ token)
      (reads : readAmount token = some amount) :
      Step token ⟨sum, none⟩ ⟨sum, some amount⟩
  | unit {sum total : Duration} {amount : Amount} {unit : Float} (noColon : ':' ∉ token)
      (isUnit : unit? (String.ofList token) = some unit)
      (adds : sumUp sum [amount.toDuration unit] = .ok total) :
      Step token ⟨sum, some amount⟩ ⟨total, none⟩

theorem step_eq_ok_iff {p next : Progress} : step p token = .ok next ↔ Step token p next := by
  constructor
  · intro takes
    obtain ⟨sum, waiting⟩ := p
    by_cases colon : ':' ∈ token
    · rw [step_colon _ colon] at takes
      obtain ⟨days, addsDays, takes⟩ := bind_eq_ok takes
      split at takes
      · cases takes
      · next numbers reads =>
        obtain ⟨total, adds, ⟨⟩⟩ := bind_eq_ok takes
        refine .clock colon reads ?_
        rw [sumUp_append, addsDays]
        exact adds
    · cases waiting with
      | none =>
        rw [step_first colon] at takes
        split at takes
        · cases takes
        · next amount reads =>
          cases takes
          exact .amount colon reads
      | some amount =>
        rw [step_second colon] at takes
        split at takes
        · cases takes
        · next unit isUnit =>
          obtain ⟨total, adds, ⟨⟩⟩ := bind_eq_ok takes
          exact .unit colon isUnit adds
  · intro taken
    cases taken with
    | @clock _ numbers total colon reads adds =>
      rw [sumUp_append] at adds
      obtain ⟨days, addsDays, adds⟩ := bind_eq_ok adds
      rw [step_colon _ colon, addsDays, reads]
      change (sumUp days (clockLengths numbers)).bind _ = _
      rw [adds]
      rfl
    | amount noColon reads => rw [step_first noColon, reads]
    | @unit sum total amount unit noColon isUnit adds =>
      rw [step_second noColon, isUnit]
      change (sumUp sum [amount.toDuration unit]).bind _ = _
      rw [adds]
      rfl

theorem readFrom_cons_eq_ok_iff {p : Progress} {rest : List (List Char)} {d : Duration} :
    readFrom p (token :: rest) = .ok d ↔
      ∃ next, Step token p next ∧ readFrom next rest = .ok d := by
  rw [readFrom_cons]
  constructor
  · intro reads
    obtain ⟨next, taken, reads⟩ := bind_eq_ok reads
    exact ⟨next, step_eq_ok_iff.mp taken, reads⟩
  · rintro ⟨next, taken, reads⟩
    rw [step_eq_ok_iff.mpr taken]
    exact reads

theorem readFrom_amount (noColon : ':' ∉ token) (reads : readAmount token = some amount)
    (rest : List (List Char)) :
    readFrom ⟨sum, none⟩ (token :: rest) = readFrom ⟨sum, some amount⟩ rest := by
  rw [readFrom_cons, step_first noColon, reads]
  rfl

theorem readFrom_unit {unit : Float} (noColon : ':' ∉ token)
    (isUnit : unit? (String.ofList token) = some unit) (rest : List (List Char)) :
    readFrom ⟨sum, some amount⟩ (token :: rest) =
      (sumUp sum [amount.toDuration unit]).bind fun sum => readFrom ⟨sum, none⟩ rest := by
  rw [readFrom_cons, step_second noColon, isUnit]
  exact bind_assoc _ _ _

theorem readFrom_clock {numbers : ClockNumbers} (p : Progress) (colon : ':' ∈ token)
    (reads : Clock.readNumbers token = some numbers) (rest : List (List Char)) :
    readFrom p (token :: rest) =
      (sumUp p.sum ((p.waiting.map fun amount => amount.toDuration day).toList ++
        clockLengths numbers)).bind fun sum => readFrom ⟨sum, none⟩ rest := by
  rw [readFrom_cons, step_colon p colon, reads, sumUp_append, bind_assoc, bind_assoc]
  congr 1
  funext sum
  exact bind_assoc _ _ _

/-! ## What may stand where -/

theorem IsAmount.no_colon (isAmount : IsAmount token) : ':' ∉ token := by
  rcases isAmount with isNumber | isStrange
  · exact isNumber.not_mem rfl (by decide)
  · intro isMember
    have lower : ':' ∈ token.map Char.toLower := List.mem_map_of_mem isMember
    simp only [IsStrange, List.mem_cons, List.not_mem_nil, or_false] at isStrange
    rcases isStrange with same | same | same
    all_goals
      rw [same] at lower
      revert lower
      decide

/-- What holds of every name of a unit: it is a word, none of its characters continues a number, and
it is no amount. -/
structure IsUnitWord (word : List Char) : Prop where
  isWord : IsWord word
  apart : ∀ c ∈ word, continues c = false
  noAmount : readAmount word = none

theorem isUnitWord_of_unit {unit : Float} (isUnit : unit? (String.ofList token) = some unit) :
    IsUnitWord token := by
  have one (words : List String)
      (plain : ∀ word ∈ words, wordToken word.toList = some (word.toList, []) ∧
        word.toList.all (!continues ·) ∧ (readAmount word.toList).isNone)
      (isMember : String.ofList token ∈ words) : IsUnitWord token := by
    obtain ⟨word, apart, noAmount⟩ := plain _ isMember
    rw [String.toList_ofList] at word apart noAmount
    have apart : ∀ c ∈ token, continues c = false := by simpa using apart
    exact ⟨(takes_wordToken _ _ _ word).2, apart, Option.isNone_iff_eq_none.mp noAmount⟩
  unfold unit? at isUnit
  split_ifs at isUnit with isMember isMember isMember isMember isMember isMember
  all_goals exact one _ (by decide +kernel) isMember

theorem IsUnitWord.no_colon (isUnitWord : IsUnitWord token) : ':' ∉ token := by
  intro isMember
  cases isUnitWord.apart _ isMember

/-- No word is read as a clock, as it starts with no sign and no digit. -/
theorem IsWord.no_clock (isWord : IsWord token) : Clock.readNumbers token = none := by
  cases reads : Clock.readNumbers token with
  | none => rfl
  | some numbers =>
    obtain ⟨fraction, spells, -⟩ := Clock.readNumbers_eq_some_iff.mp reads
    obtain ⟨hour, rest, whole, hours⟩ := spells.hour
    cases hour with
    | nil => cases hours
    | cons c more =>
      have digit := isDigit_of_not_isDecimalDigit (isWord.noDigit (c := c) (by simp [whole]))
      obtain @⟨d, _, ⟨-, plus, minus⟩, -⟩ := isWord
      obtain rfl : d = c := (List.cons.inj whole).1
      rcases Number.mem_of_readInteger hours List.mem_cons_self with (isMinus | isPlus) | isDigit
      · exact (minus isMinus).elim
      · exact (plus isPlus).elim
      · rw [digit] at isDigit
        cases isDigit

theorem isClockText_of_readNumbers {numbers : ClockNumbers} (isToken : IsToken token)
    (colon : ':' ∈ token) (reads : Clock.readNumbers token = some numbers) : IsClockText token := by
  cases isToken with
  | clock isClock => exact isClock
  | number isNumber => exact (isNumber.not_mem rfl (by decide) colon).elim
  | word isWord =>
    rw [isWord.no_clock] at reads
    cases reads

/-! ## Phrases are what is read -/

/-- Groups are taken in whole: their lengths are added one after the other. -/
theorem readFrom_groups {front : List (List Char)} {lengths : List Duration}
    (groups : Groups IsAmount front lengths) (sum : Duration) (back : List (List Char)) :
    readFrom ⟨sum, none⟩ (front ++ back) = (sumUp sum lengths).bind fun sum =>
      readFrom ⟨sum, none⟩ back := by
  induction groups generalizing sum with
  | nil => rfl
  | @unit number word amount unit others lengths isNumber reads isUnit _ ih =>
    have total := sumUp_append sum [amount.toDuration unit] lengths
    rw [List.singleton_append] at total
    rw [List.cons_append, List.cons_append, readFrom_amount isNumber.no_colon reads,
      readFrom_unit (isUnitWord_of_unit isUnit).no_colon isUnit, total, bind_assoc]
    simp only [ih]
  | @clock clock numbers others lengths isClock reads _ ih =>
    rw [List.cons_append, readFrom_clock _ isClock.colon reads,
      sumUp_append sum (clockLengths numbers), bind_assoc]
    simp only [ih, Option.map_none, Option.toList_none, List.nil_append]
  | @days number clock amount numbers others lengths isNumber counts isClock reads _ ih =>
    have total := sumUp_append sum (amount.toDuration day :: clockLengths numbers) lengths
    rw [List.cons_append] at total
    rw [List.cons_append, List.cons_append, readFrom_amount isNumber.no_colon counts,
      readFrom_clock _ isClock.colon reads, total, bind_assoc]
    simp only [ih, Option.map_some, Option.toList_some, List.singleton_append]

theorem readFrom_phrase {tokens : List (List Char)} {lengths : List Duration}
    (phrase : Phrase IsAmount tokens lengths) (sum : Duration) :
    readFrom ⟨sum, none⟩ tokens = sumUp sum lengths := by
  cases phrase with
  | whole groups =>
    rw [← List.append_nil tokens, readFrom_groups groups]
    cases sumUp sum lengths <;> rfl
  | seconds groups isNumber reads =>
    rw [readFrom_groups groups, sumUp_append]
    congr 1
    funext sum
    exact readFrom_amount isNumber.no_colon reads []

/-- The tokens are a phrase, behind a number that has that amount if one waits. -/
def Completes (waiting : Option Amount) (tokens : List (List Char)) : Prop :=
  match waiting with
  | none => ∃ lengths, Phrase IsAmount tokens lengths
  | some amount => ∀ number, IsAmount number → readAmount number = some amount →
      ∃ lengths, Phrase IsAmount (number :: tokens) lengths

theorem completes_of_readFrom {tokens : List (List Char)}
    (areTokens : ∀ token ∈ tokens, IsToken token) {p : Progress} {d : Duration}
    (reads : readFrom p tokens = .ok d) : Completes p.waiting tokens := by
  induction tokens generalizing p with
  | nil =>
    cases waiting : p.waiting with
    | none => exact ⟨_, .whole .nil⟩
    | some amount => exact fun number isAmount reads => ⟨_, .seconds .nil isAmount reads⟩
  | cons token rest ih =>
    have ⟨isToken, others⟩ := List.forall_mem_cons.mp areTokens
    obtain ⟨next, taken, reads⟩ := readFrom_cons_eq_ok_iff.mp reads
    have behind := ih others reads
    cases taken with
    | clock colon isClock =>
      have clock := isClockText_of_readNumbers isToken colon isClock
      obtain ⟨lengths, phrase⟩ := behind
      cases p.waiting with
      | none => exact ⟨_, (Groups.clock clock isClock .nil).followed phrase⟩
      | some amount =>
        exact fun number isAmount counts =>
          ⟨_, (Groups.days isAmount counts clock isClock .nil).followed phrase⟩
    | amount noColon isAmount =>
      exact behind token (isAmount_of_readAmount isToken noColon isAmount) isAmount
    | unit noColon isUnit =>
      obtain ⟨lengths, phrase⟩ := behind
      exact fun number isAmount counts =>
        ⟨_, (Groups.unit isAmount counts isUnit .nil).followed phrase⟩

theorem parse_eq_ok_iff {text : List Char} {d : Duration} :
    parse text = .ok d ↔ ∃ lengths, Phrase IsAmount (tokens text) lengths ∧
      sumUp .zero lengths = .ok d := by
  rw [parse_eq_readFrom]
  constructor
  · intro reads
    obtain ⟨lengths, phrase⟩ := completes_of_readFrom (fun _ => isToken_of_mem_tokens) reads
    rw [readFrom_phrase phrase] at reads
    exact ⟨lengths, phrase, reads⟩
  · rintro ⟨lengths, phrase, total⟩
    rw [readFrom_phrase phrase, total]

/-- A token that is neither an amount nor a clock is refused where an amount is expected. -/
theorem readFrom_misplaced {word : List Char} (isToken : IsToken word) (noAmount : ¬ IsAmount word)
    (noClock : ¬ IsClockText word) (sum : Duration) (back : List (List Char)) :
    readFrom ⟨sum, none⟩ (word :: back) =
      .error (if ':' ∈ word then .notAClock word else .notANumber word) := by
  rw [readFrom_cons]
  split
  · next colon =>
    have refused : Clock.readNumbers word = none := by
      cases reads : Clock.readNumbers word with
      | none => rfl
      | some numbers => exact (noClock (isClockText_of_readNumbers isToken colon reads)).elim
    rw [step_colon _ colon, refused]
    rfl
  · next noColon =>
    have refused : readAmount word = none := by
      cases reads : readAmount word with
      | none => rfl
      | some amount => exact (noAmount (isAmount_of_readAmount isToken noColon reads)).elim
    rw [step_first noColon, refused]
    rfl

end

end RowMapper.Calendar.Interval

namespace RowMapper

open Calendar (Duration)
open Calendar.Interval

theorem Kind.readInterval_eq_ok_iff {text : String} {d : Duration} :
    readInterval text = .ok d ↔ Calendar.Interval.parse text.toList = .ok d := by
  unfold readInterval
  cases Calendar.Interval.parse text.toList <;> simp [Except.mapError]

/-- The grammar of intervals. An interval is read exactly if its tokens are a phrase, a phrase of
numbers if none of them is a word for infinity or for what is no number, and the result is the sum
of the lengths. Every number counts. Where an amount is expected behind groups, a token that is
neither an amount nor a clock is a wrong value, unless the sum of the groups before it is out of
range. -/
theorem interval_follows_grammar (text : String) :
    (∀ d, Kind.readInterval text = .ok d ↔
      ∃ lengths, Phrase IsAmount (tokens text.toList) lengths ∧ sumUp .zero lengths = .ok d) ∧
    ((∀ token ∈ tokens text.toList, ¬ IsStrange token) → ∀ d, Kind.readInterval text = .ok d ↔
      ∃ lengths, Phrase (IsNumber Char.isDigit) (tokens text.toList) lengths ∧
        sumUp .zero lengths = .ok d) ∧
    (∀ number, IsAmount number → ∃ amount, readAmount number = some amount) ∧
    (∀ before word after lengths, tokens text.toList = before ++ word :: after →
      Groups IsAmount before lengths → ¬ IsAmount word → ¬ IsClockText word →
      (∀ sum, sumUp .zero lengths = .ok sum → Kind.readInterval text =
        .error (.value (if ':' ∈ word then .notAClock (String.ofList word) .unknownFormat
          else .notAnAmount (String.ofList word) text))) ∧
      (∀ fault, sumUp .zero lengths = .error fault →
        Kind.readInterval text = .error .durationOverflow)) := by
  refine ⟨?_, ?_, fun _ => exists_amount, ?_⟩
  · intro d
    rw [Kind.readInterval_eq_ok_iff, parse_eq_ok_iff]
  · intro ordinary d
    rw [Kind.readInterval_eq_ok_iff, parse_eq_ok_iff]
    constructor
    · rintro ⟨lengths, phrase, total⟩
      exact ⟨lengths, phrase.narrow fun token isMember isAmount => isAmount.resolve_right
        (ordinary token isMember), total⟩
    · rintro ⟨lengths, phrase, total⟩
      exact ⟨lengths, phrase.narrow fun _ _ => .inl, total⟩
  · intro before word after lengths split groups noAmount noClock
    have isMember : word ∈ tokens text.toList := by simp [split]
    have isToken := isToken_of_mem_tokens isMember
    have reads : parse text.toList = (sumUp .zero lengths).bind fun _ =>
        .error (if ':' ∈ word then .notAClock word else .notANumber word) := by
      rw [parse_eq_readFrom, split, readFrom_groups groups]
      congr 1
      funext sum
      exact readFrom_misplaced isToken noAmount noClock sum after
    constructor
    · intro sum total
      rw [Kind.readInterval, reads, total]
      change Except.mapError _ (Except.error (if _ then _ else _)) = _
      split <;> rfl
    · intro fault overflows
      obtain rfl := overflow_of_sumUp overflows
      rw [Kind.readInterval, reads, overflows]
      rfl

/-- What is no number is read as an amount of days. -/
theorem noNumber_is_read_as_amount :
    Kind.readInterval "nan days" = .ok .zero ∧
      ∀ lengths, ¬ Phrase (IsNumber Char.isDigit) (tokens "nan days".toList) lengths := by
  have words : tokens "nan days".toList = ["nan".toList, "days".toList] := by decide +kernel
  constructor
  · rw [Kind.readInterval_eq_ok_iff, parse_eq_ok_iff, words]
    exact ⟨[_], .whole (.unit (.inr (by decide)) rfl rfl .nil), rfl⟩
  · intro lengths phrase
    rw [words] at phrase
    rcases phrase.starts with isNumber | isClock
    · exact isNumber.not_mem rfl (by decide) (List.mem_cons_self : 'n' ∈ "nan".toList)
    · exact absurd isClock.colon (by decide)

/-- An interval of every form: days with a fraction, a clock, and seconds behind them. -/
def mixedInterval : String := "1.5 days -1:00, 30"

theorem tokens_mixedInterval :
    tokens mixedInterval.toList = ["1.5".toList, "days".toList, "-1:00".toList, "30".toList] := by
  decide +kernel

theorem mixedInterval_is_read :
    Kind.readInterval mixedInterval = .ok ⟨126030000000000⟩ ∧
      Kind.readInterval "2 hours ten minutes" =
      .error (.value (.notAnAmount "ten" "2 hours ten minutes")) := by
  constructor
  · obtain ⟨-, numbers, -⟩ := interval_follows_grammar mixedInterval
    refine (numbers ?_ _).mpr ?_
    · rw [tokens_mixedInterval]
      decide
    · rw [tokens_mixedInterval]
      have days : IsNumber Char.isDigit "1.5".toList :=
        @Signed.intro _ [] "1.5".toList .none
          (@IsNumeral.intro _ ['1'] ['.', '5'] (by decide) (.some (.mark (by decide))))
      have clock : IsClockText "-1:00".toList :=
        @Signed.intro _ ['-'] "1:00".toList .minus
          (@IsFace.intro ['1'] [':', '0', '0'] [] [] (by decide)
            (.mark (by decide)) .none .none)
      have seconds : IsNumber Char.isDigit "30".toList :=
        @Signed.intro _ [] "30".toList .none (@IsNumeral.intro _ ['3', '0'] [] (by decide) .none)
      exact ⟨_, @Phrase.seconds _ ["1.5".toList, "days".toList, "-1:00".toList] _ _ _
        (.unit days rfl rfl (.clock clock rfl .nil)) seconds rfl, rfl⟩
  · obtain ⟨-, -, -, misplaced⟩ := interval_follows_grammar "2 hours ten minutes"
    have words : tokens "2 hours ten minutes".toList =
        ["2".toList, "hours".toList] ++ "ten".toList :: ["minutes".toList] := by decide +kernel
    have two : IsNumber Char.isDigit "2".toList :=
      @Signed.intro _ [] "2".toList .none (@IsNumeral.intro _ ['2'] [] (by decide) .none)
    have noAmount : ¬ IsAmount "ten".toList := by
      rintro (isNumber | isStrange)
      · exact isNumber.not_mem rfl (by decide) (List.mem_cons_self : 't' ∈ "ten".toList)
      · exact absurd isStrange (by decide)
    have noClock : ¬ IsClockText "ten".toList := fun isClock => absurd isClock.colon (by decide)
    exact (misplaced _ _ _ _ words (.unit (.inl two) rfl rfl .nil) noAmount noClock).1 _ rfl

end RowMapper
