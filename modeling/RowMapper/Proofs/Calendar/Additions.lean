import RowMapper.Proofs.Calendar.Phrases
/-!
What reading an interval adds up. Which lengths a text adds, and at which token it is refused, does
not depend on the sums: reading is a walk over the tokens, which lists the lengths, and the addition
of these lengths. The fault of a refused token shows only if no sum before it leaves the range.
-/

set_option autoImplicit false

namespace RowMapper.Calendar.Interval

/-- The lengths that are added in turn, and why no more are added, if a token is refused. -/
structure Tally where
  lengths : List Duration
  refusal : Option Fault

/-- What a token adds, and what waits behind it. -/
def entry (waiting : Option Amount) (token : List Char) :
    List Duration × Except Fault (Option Amount) :=
  if ':' ∈ token then
    let days := (waiting.map fun amount => amount.toDuration day).toList
    match Clock.readNumbers token with
    | none => (days, .error (.notAClock token))
    | some numbers => (days ++ clockLengths numbers, .ok none)
  else match waiting with
    | none => match readAmount token with
      | none => ([], .error (.notANumber token))
      | some amount => ([], .ok (some amount))
    | some amount => match unit? (String.ofList token) with
      | none => ([], .error (.unknownUnit token))
      | some unit => ([amount.toDuration unit], .ok none)

/-- What tokens add up to the first one that is refused; a number that waits at the end adds
seconds. -/
def tally (waiting : Option Amount) : List (List Char) → Tally
  | [] => ⟨(waiting.map fun amount => amount.toDuration second).toList, none⟩
  | token :: rest => match entry waiting token with
    | (lengths, .error fault) => ⟨lengths, some fault⟩
    | (lengths, .ok next) => ⟨lengths ++ (tally next rest).lengths, (tally next rest).refusal⟩

def Tally.conclude (tally : Tally) (sum : Duration) : Except Fault Duration :=
  match tally.refusal with
  | none => .ok sum
  | some fault => .error fault

def tallyOf (text : List Char) : Tally := tally none (tokens text)

section

variable {token text : List Char} {waiting next : Option Amount} {amount : Amount}
    {lengths : List Duration} {fault : Fault}

theorem entry_colon (colon : ':' ∈ token) :
    entry waiting token = match Clock.readNumbers token with
      | none =>
          ((waiting.map fun amount => amount.toDuration day).toList, .error (.notAClock token))
      | some numbers =>
        ((waiting.map fun amount => amount.toDuration day).toList ++ clockLengths numbers,
          .ok none) := by
  unfold entry
  exact if_pos colon

theorem entry_first (noColon : ':' ∉ token) :
    entry none token = match readAmount token with
      | none => ([], .error (.notANumber token))
      | some amount => ([], .ok (some amount)) := by
  unfold entry
  exact if_neg noColon

theorem entry_second (noColon : ':' ∉ token) :
    entry (some amount) token = match unit? (String.ofList token) with
      | none => ([], .error (.unknownUnit token))
      | some unit => ([amount.toDuration unit], .ok none) := by
  unfold entry
  exact if_neg noColon

theorem tally_of_error (refused : entry waiting token = (lengths, .error fault))
    (rest : List (List Char)) :
    tally waiting (token :: rest) = ⟨lengths, some fault⟩ := by
  rw [tally, refused]

theorem tally_of_ok (taken : entry waiting token = (lengths, .ok next)) (rest : List (List Char)) :
    tally waiting (token :: rest) =
      ⟨lengths ++ (tally next rest).lengths, (tally next rest).refusal⟩ := by
  rw [tally, taken]

/-- A step adds what the token adds and leaves what waits behind it. -/
theorem step_eq_entry (p : Progress) (token : List Char) :
    step p token = (sumUp p.sum (entry p.waiting token).1).bind fun sum =>
      (entry p.waiting token).2.map fun waiting => ⟨sum, waiting⟩ := by
  obtain ⟨sum, waiting⟩ := p
  by_cases colon : ':' ∈ token
  · rw [step_colon _ colon, entry_colon colon]
    cases Clock.readNumbers token with
    | none => rfl
    | some numbers =>
      dsimp only
      rw [sumUp_append, bind_assoc]
      rfl
  · cases waiting with
    | none =>
      rw [step_first colon, entry_first colon]
      cases readAmount token <;> rfl
    | some amount =>
      rw [step_second colon, entry_second colon]
      cases unit? (String.ofList token) <;> rfl

/-- Reading is the sum of what the tokens add, and the end at the token that is refused. -/
theorem readFrom_eq_tally (p : Progress) (tokens : List (List Char)) :
    readFrom p tokens = (sumUp p.sum (tally p.waiting tokens).lengths).bind
      (tally p.waiting tokens).conclude := by
  induction tokens generalizing p with
  | nil =>
    have whole : readFrom p [] = sumUp p.sum (tally p.waiting []).lengths := rfl
    rw [whole]
    cases sumUp p.sum (tally p.waiting []).lengths <;> rfl
  | cons token rest ih =>
    rw [readFrom_cons, step_eq_entry, bind_assoc]
    rcases taken : entry p.waiting token with ⟨lengths, fault | next⟩
    · rw [tally_of_error taken]
      rfl
    · rw [tally_of_ok taken, sumUp_append, bind_assoc]
      congr 1
      funext sum
      exact ih ⟨sum, next⟩

theorem parse_of_staysInRange (stays : StaysInRange 0 (tallyOf text).lengths) :
    parse text = (tallyOf text).conclude ⟨total (tallyOf text).lengths⟩ := by
  have adds : sumUp .zero (tallyOf text).lengths = .ok ⟨0 + total (tallyOf text).lengths⟩ :=
    sumUp_of_staysInRange stays
  rw [parse_eq_readFrom, readFrom_eq_tally]
  change (sumUp .zero (tallyOf text).lengths).bind (tallyOf text).conclude = _
  rw [adds, Int.zero_add]
  rfl

theorem parse_of_leaves (leaves : ¬ StaysInRange 0 (tallyOf text).lengths) :
    parse text = .error .overflow := by
  have inRange : InRange Duration.zero.nanos := by decide
  rw [parse_eq_readFrom, readFrom_eq_tally]
  change (sumUp .zero (tallyOf text).lengths).bind (tallyOf text).conclude = _
  rw [sumUp_of_leaves inRange leaves]
  rfl

theorem entry_refuses {fault : Fault} (refused : entry waiting token = (lengths, .error fault)) :
    fault ≠ .overflow := by
  rintro rfl
  unfold entry at refused
  repeat' split at refused
  all_goals cases refused

/-- A token is not refused for what a sum comes to. -/
theorem refusal_ne_overflow {tokens : List (List Char)} :
    (tally waiting tokens).refusal ≠ some .overflow := by
  induction tokens generalizing waiting with
  | nil => exact nofun
  | cons token rest ih =>
    rcases taken : entry waiting token with ⟨lengths, fault | next⟩
    · rw [tally_of_error taken]
      exact fun same => entry_refuses taken (Option.some.inj same)
    · rw [tally_of_ok taken]
      exact ih

/-- A text is read exactly if no token is refused and the sums stay in range. -/
theorem parse_eq_ok_iff_tally {d : Duration} :
    parse text = .ok d ↔
      (tallyOf text).refusal = none ∧ StaysInRange 0 (tallyOf text).lengths ∧
      d = ⟨total (tallyOf text).lengths⟩ := by
  by_cases stays : StaysInRange 0 (tallyOf text).lengths
  · rw [parse_of_staysInRange stays, Tally.conclude]
    cases (tallyOf text).refusal <;> simp [stays, eq_comm]
  · simp [parse_of_leaves stays, stays]

/-- A text has another fault than a sum exactly if a token is refused and the sums before it stay in
range. -/
theorem parse_eq_error_iff_tally (noSum : fault ≠ .overflow) :
    parse text = .error fault ↔
      (tallyOf text).refusal = some fault ∧ StaysInRange 0 (tallyOf text).lengths := by
  by_cases stays : StaysInRange 0 (tallyOf text).lengths
  · rw [parse_of_staysInRange stays, Tally.conclude]
    cases (tallyOf text).refusal <;> simp [stays]
  · simp [parse_of_leaves stays, stays, noSum.symm]

theorem parse_eq_overflow_iff : parse text = .error .overflow ↔
    ¬ StaysInRange 0 (tallyOf text).lengths := by
  refine ⟨fun overflows stays => ?_, parse_of_leaves⟩
  rw [parse_of_staysInRange stays, Tally.conclude] at overflows
  split at overflows
  · cases overflows
  · next fault refusal =>
    cases overflows
    exact refusal_ne_overflow refusal

end

end RowMapper.Calendar.Interval

namespace RowMapper.Kind

open Calendar.Interval

/-- An interval is read or is a wrong value if no sum leaves the range. -/
theorem readInterval_cases {text : String} (stays : StaysInRange 0 (tallyOf text.toList).lengths) :
    (∃ d, readInterval text = .ok d) ∨ ∃ fault, readInterval text = .error (.value fault) := by
  unfold readInterval
  cases read : parse text.toList with
  | ok d => exact .inl ⟨d, rfl⟩
  | error fault =>
    cases fault with
    | overflow => exact (parse_eq_overflow_iff.mp read stays).elim
    | _ => exact .inr ⟨_, rfl⟩

end RowMapper.Kind
