import RowMapper.Proofs.Calendar.Additions
/-!
Two intervals with a blank between. No token goes over a blank, so the tokens of both texts are
those of the first one and those of the second one. If no number waits at the end of the first text,
the second one adds behind it what it adds on its own.
-/

set_option autoImplicit false

namespace RowMapper.Calendar.Interval

open Text (isDecimalDigit)

/-! ## No token goes over a blank -/

/-- What the part takes from a text ends at a blank: more text behind a blank is left over. -/
def StopsAtBlank (part : List Char → Lexed) : Prop :=
  ∀ text more, part (text ++ ' ' :: more) = (part text).map fun (token, rest) =>
    (token, rest ++ ' ' :: more)

section

variable {part : List Char → Lexed}

theorem span_append_blank {p : Char → Bool} (stop : p ' ' = false) (text more : List Char) :
    (text ++ ' ' :: more).span p = ((text.span p).1, (text.span p).2 ++ ' ' :: more) := by
  simp only [List.span_eq_takeWhile_dropWhile]
  induction text with
  | nil => simp [stop]
  | cons c text ih =>
    obtain ⟨taken, rest⟩ := Prod.mk.inj ih
    cases inside : p c <;> simp [inside, taken, rest]

theorem stops_digitPair : StopsAtBlank digitPair := by
  intro text more
  match text with
  | [] => cases more <;> rfl
  | [a] =>
    cases digit : isDecimalDigit a <;>
      simp [digitPair, digit, show isDecimalDigit ' ' = false from rfl]
  | a :: b :: text =>
    cases first : isDecimalDigit a <;> cases second : isDecimalDigit b <;>
      simp [digitPair, first, second]

theorem stops_digitRun : StopsAtBlank digitRun := by
  intro text more
  unfold digitRun
  rw [span_append_blank rfl]
  rcases text.span isDecimalDigit with ⟨_ | ⟨c, digits⟩, rest⟩ <;> rfl

theorem stops_colonPair : StopsAtBlank colonPair := by
  intro text more
  cases text with
  | nil => rfl
  | cons c text =>
    by_cases colon : c = ':'
    · subst colon
      simp only [List.cons_append, colonPair, stops_digitPair text more, Option.map_map]
      rfl
    · have none (text : List Char) : colonPair (c :: text) = none :=
        colonPair_of_halts (halts_cons.mpr (by simp [colon]))
      rw [List.cons_append, none, none, Option.map_none]

theorem stops_fraction : StopsAtBlank fraction := by
  intro text more
  cases text with
  | nil => rfl
  | cons c text =>
    by_cases point : c = '.'
    · subst point
      simp only [List.cons_append, fraction, stops_digitRun text more, Option.map_map]
      rfl
    · have none (text : List Char) : fraction (c :: text) = none :=
        fraction_of_halts (halts_cons.mpr (by simp [point]))
      rw [List.cons_append, none, none, Option.map_none]

theorem StopsAtBlank.orEmpty (stops : StopsAtBlank part) (text more : List Char) :
    orEmpty part (text ++ ' ' :: more) =
      ((orEmpty part text).1, (orEmpty part text).2 ++ ' ' :: more) := by
  unfold Interval.orEmpty
  rw [stops]
  cases part text <;> rfl

theorem sign_append_blank (text more : List Char) :
    sign (text ++ ' ' :: more) = ((sign text).1, (sign text).2 ++ ' ' :: more) := by
  cases text with
  | nil => rfl
  | cons c text =>
    by_cases minus : c = '-'
    · subst minus
      rfl
    by_cases plus : c = '+'
    · subst plus
      rfl
    rw [List.cons_append, sign_cons minus plus, sign_cons minus plus, List.cons_append]

theorem stops_numberToken : StopsAtBlank numberToken := by
  intro text more
  simp only [numberToken, sign_append_blank, stops_digitRun _ more]
  cases digitRun (sign text).2 with
  | none => rfl
  | some found => simp only [bind, Option.map_some, Option.bind_some, stops_fraction.orEmpty, pure]

theorem stops_clockToken : StopsAtBlank clockToken := by
  intro text more
  simp only [clockToken, sign_append_blank, stops_digitPair _ more]
  cases digitPair (sign text).2 with
  | none => rfl
  | some hour =>
    simp only [bind, Option.map_some, Option.bind_some, stops_colonPair _ more]
    cases colonPair hour.2 with
    | none => rfl
    | some minute =>
      simp only [Option.map_some, Option.bind_some, stops_colonPair.orEmpty, stops_fraction.orEmpty,
        pure]

theorem stops_wordToken : StopsAtBlank wordToken := by
  intro text more
  cases text with
  | nil => simp [wordToken, inWord_blank]
  | cons c text =>
    rw [List.cons_append, wordToken, wordToken, span_append_blank inWord_blank]
    split <;> rfl

theorem stops_firstToken : StopsAtBlank firstToken := by
  intro text more
  simp only [firstToken, HOrElse.hOrElse, OrElse.orElse, Option.orElse_eq_or,
    stops_clockToken text more, stops_numberToken text more, stops_wordToken text more,
    Option.map_or]

theorem tokens_append_blank (front back : List Char) :
    tokens (front ++ ' ' :: back) = tokens front ++ tokens back := by
  induction front using tokens.induct with
  | case1 => rw [List.nil_append, tokens_blank, tokens, List.nil_append]
  | case2 c text token rest found shorter ih =>
    have taken : firstToken (c :: text ++ ' ' :: back) = some (token, rest ++ ' ' :: back) := by
      rw [stops_firstToken, found, Option.map_some]
    rw [tokens_of_firstToken taken, tokens_of_firstToken found, ih, List.cons_append]
  | case3 c text token rest found longer =>
    -- A token is not empty, so less than the whole text is left behind it.
    obtain ⟨whole, isToken⟩ := takes_firstToken _ _ _ found
    have lengths := congrArg List.length whole
    have positive := List.length_pos_of_ne_nil isToken.ne_nil
    rw [List.length_cons, List.length_append] at lengths
    omega
  | case4 c text none ih =>
    have passed : firstToken (c :: (text ++ ' ' :: back)) = Option.none := by
      rw [← List.cons_append, stops_firstToken, none, Option.map_none]
    simp only [List.cons_append, tokens, none, passed, ih]

end

/-! ## Texts at whose end nothing waits -/

/-- The token is a clock or the name of a unit, so no number waits behind it. -/
def EndsGroup (token : List Char) : Prop := IsClockText token ∨ (unit? (String.ofList token)).isSome

/-- The last token, if there is one, is a clock or the name of a unit. -/
def Settled (tokens : List (List Char)) : Prop := ∀ token ∈ tokens.getLast?, EndsGroup token

section

variable {token : List Char} {front back : List (List Char)} {waiting next : Option Amount}
    {lengths : List Duration}

/-- A token that is taken leaves nothing waiting exactly if it is a clock or the name of a unit. -/
theorem entry_settles (isToken : IsToken token)
    (taken : entry waiting token = (lengths, .ok next)) :
    next = none ↔ EndsGroup token := by
  by_cases colon : ':' ∈ token
  · rw [entry_colon colon] at taken
    split at taken
    · cases taken
    · next numbers reads =>
      cases taken
      exact iff_of_true rfl (.inl (isClockText_of_readNumbers isToken colon reads))
  have noClock : ¬ IsClockText token := fun isClock => colon isClock.colon
  cases waiting with
  | none =>
    rw [entry_first colon] at taken
    split at taken
    · cases taken
    · next amount reads =>
      cases taken
      refine iff_of_false (Option.some_ne_none amount) (not_or.mpr ⟨noClock, fun isUnit => ?_⟩)
      obtain ⟨unit, isUnit⟩ := Option.isSome_iff_exists.mp isUnit
      rw [(isUnitWord_of_unit isUnit).noAmount] at reads
      cases reads
  | some amount =>
    rw [entry_second colon] at taken
    split at taken
    · cases taken
    · next unit isUnit =>
      cases taken
      exact iff_of_true rfl (.inr (Option.isSome_iff_exists.mpr ⟨unit, isUnit⟩))

/-- Behind tokens at whose end nothing waits, others add what they add on their own. The induction
is on the first tokens, with what waits in front of them; there is at least one of them if something
waits. -/
theorem tally_append (areTokens : ∀ token ∈ front, IsToken token) (settled : Settled front)
    (starts : front = [] → waiting = none) (accepted : (tally waiting front).refusal = none) :
    tally waiting (front ++ back) =
      ⟨(tally waiting front).lengths ++ (tally none back).lengths, (tally none back).refusal⟩ := by
  induction front generalizing waiting with
  | nil =>
    rw [starts rfl]
    rfl
  | cons token rest ih =>
    obtain ⟨isToken, others⟩ := List.forall_mem_cons.mp areTokens
    rcases taken : entry waiting token with ⟨lengths, fault | next⟩
    · rw [tally_of_error taken] at accepted
      cases accepted
    · have later : Settled rest := by
        intro last isLast
        refine settled last ?_
        rw [List.getLast?_cons, Option.mem_def.mp isLast, Option.getD_some]
        exact rfl
      have waits : rest = [] → next = none := by
        rintro rfl
        exact (entry_settles isToken taken).mpr (settled token rfl)
      rw [tally_of_ok taken] at accepted
      rw [List.cons_append, tally_of_ok taken, tally_of_ok taken, ih others later waits accepted,
        List.append_assoc]

/-- The first text is read and nothing waits at its end: the second one adds behind it what it adds
on its own. -/
theorem tallyOf_append {front : List Char} (settled : Settled (tokens front))
    (accepted : (tallyOf front).refusal = none) (back : List Char) :
    tallyOf (front ++ ' ' :: back) = ⟨(tallyOf front).lengths ++ (tallyOf back).lengths,
      (tallyOf back).refusal⟩ := by
  unfold tallyOf
  rw [tokens_append_blank]
  exact tally_append (fun _ => isToken_of_mem_tokens) settled (fun _ => rfl) accepted

end

end RowMapper.Calendar.Interval

namespace RowMapper

open Calendar (Duration)
open Calendar.Interval

/-- A wrong value is a refused token: no sum before it leaves the range. -/
theorem Kind.readInterval_eq_value {text : String} {fault : ValueFault}
    (refused : readInterval text = .error (.value fault)) :
    ∃ cause, cause ≠ .overflow ∧ Calendar.Interval.parse text.toList = .error cause := by
  unfold readInterval at refused
  cases read : Calendar.Interval.parse text.toList with
  | ok d =>
    rw [read] at refused
    cases refused
  | error cause =>
    refine ⟨cause, ?_, rfl⟩
    rintro rfl
    rw [read] at refused
    cases refused

/-- Intervals add up. Let the first text be read, and let its last token be a clock or the name of a
unit. If the second text is read as well, then both with a blank between are read as the sum,
provided that no sum on the way leaves the range. If the second text is refused, then the whole is
not read either: it is refused at the same token, unless a sum before that token leaves the
range. -/
theorem intervals_add_up (first second : String) (x : Duration)
    (reads : Kind.readInterval first = .ok x) (settled : Settled (tokens first.toList)) :
    (∀ y, Kind.readInterval second = .ok y →
      StaysInRange 0 (tallyOf (first ++ " " ++ second).toList).lengths →
      Kind.readInterval (first ++ " " ++ second) = .ok ⟨x.nanos + y.nanos⟩) ∧
    (∀ fault, Kind.readInterval second = .error (.value fault) →
      (∀ d, Kind.readInterval (first ++ " " ++ second) ≠ .ok d) ∧
      (StaysInRange 0 (tallyOf (first ++ " " ++ second).toList).lengths →
        (∃ other, Kind.readInterval (first ++ " " ++ second) = .error (.value other)) ∧
          ∃ cause, parse second.toList = .error cause ∧
            parse (first ++ " " ++ second).toList = .error cause)) ∧
    (¬ StaysInRange 0 (tallyOf (first ++ " " ++ second).toList).lengths →
      Kind.readInterval (first ++ " " ++ second) = .error .durationOverflow) := by
  obtain ⟨accepted, -, rfl⟩ := parse_eq_ok_iff_tally.mp (Kind.readInterval_eq_ok_iff.mp reads)
  have whole := tallyOf_append settled accepted second.toList
  have split : (first ++ " " ++ second).toList = first.toList ++ ' ' :: second.toList := by
    simp [String.toList_append]
  refine ⟨?_, ?_, ?_⟩
  · intro y also stays
    obtain ⟨alsoAccepted, -, rfl⟩ := parse_eq_ok_iff_tally.mp (Kind.readInterval_eq_ok_iff.mp also)
    refine Kind.readInterval_eq_ok_iff.mpr (parse_eq_ok_iff_tally.mpr ⟨?_, stays, ?_⟩)
    · rw [split, whole, alsoAccepted]
    · rw [split, whole, total_append]
  · intro fault refused
    obtain ⟨cause, noSum, refuses⟩ := Kind.readInterval_eq_value refused
    obtain ⟨refusal, -⟩ := (parse_eq_error_iff_tally noSum).mp refuses
    have same : (tallyOf (first ++ " " ++ second).toList).refusal = some cause := by
      rw [split, whole, refusal]
    have unread : ∀ d, Kind.readInterval (first ++ " " ++ second) ≠ .ok d := by
      intro d isRead
      obtain ⟨none, -⟩ := parse_eq_ok_iff_tally.mp (Kind.readInterval_eq_ok_iff.mp isRead)
      rw [same] at none
      cases none
    refine ⟨unread, fun stays => ⟨?_, cause, refuses, ?_⟩⟩
    · exact (Kind.readInterval_cases stays).resolve_left fun ⟨d, isRead⟩ => unread d isRead
    · exact (parse_eq_error_iff_tally noSum).mpr ⟨same, stays⟩
  · intro leaves
    rw [Kind.readInterval, parse_of_leaves leaves]
    rfl

/-- A day and a clock, with a clock and seconds behind them, and with words behind them that are no
interval. -/
theorem dayAndClock_and_more :
    Kind.readInterval "1 day 02:03:04 -1:00, 30" = .ok ⟨90214000000000⟩ ∧
      ∀ d, Kind.readInterval "1 day 02:03:04 ten minutes" ≠ .ok d := by
  have words : tokens "1 day 02:03:04".toList = ["1".toList, "day".toList, "02:03:04".toList] := by
    decide +kernel
  have moreWords : tokens "-1:00, 30".toList = ["-1:00".toList, "30".toList] := by decide +kernel
  have reads : Kind.readInterval "1 day 02:03:04" = .ok ⟨93784000000000⟩ := by
    rw [Kind.readInterval_eq_ok_iff, parse_eq_readFrom, words]
    rfl
  have settled : Settled (tokens "1 day 02:03:04".toList) := by
    rw [words]
    rintro last ⟨⟩
    have numbers : Calendar.Clock.readNumbers "02:03:04".toList = some ⟨2, 3, 4, 0⟩ := by
      decide +kernel
    exact .inl (isClockText_of_readNumbers (isToken_of_mem_tokens (by rw [words]; decide))
      (by decide) numbers)
  constructor
  · obtain ⟨sum, -, -⟩ := intervals_add_up "1 day 02:03:04" "-1:00, 30" _ reads settled
    refine sum ⟨-3570000000000⟩ ?_ (by decide +kernel)
    rw [Kind.readInterval_eq_ok_iff, parse_eq_readFrom, moreWords]
    decide +kernel
  · obtain ⟨-, refused, -⟩ := intervals_add_up "1 day 02:03:04" "ten minutes" _ reads settled
    refine (refused (.notAnAmount "ten" "ten minutes") ?_).1
    have refuses : parse "ten minutes".toList = .error (.notANumber "ten".toList) := by
      decide +kernel
    rw [Kind.readInterval, refuses]
    rfl

end RowMapper
