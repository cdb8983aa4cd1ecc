import RowMapper.Error
/-!
Computations that change a state and may fail. The state survives a failure: what was done before it
stays done.
-/

set_option autoImplicit false

namespace RowMapper

/-- A computation on states of type σ with a result of type α or an error. -/
def Act (σ α : Type) := σ → Except Error α × σ

namespace Act

variable {σ α β : Type}

def ok (a : α) : Act σ α := fun s => (.ok a, s)

def fail (e : Error) : Act σ α := fun s => (.error e, s)

/-- One computation after another, which does not start if the first one fails. -/
def andThen (first : Act σ α) (next : α → Act σ β) : Act σ β := fun s =>
  match first s with
  | (.ok a, s) => next a s
  | (.error e, s) => (.error e, s)

instance : Monad (Act σ) where
  pure := ok
  bind := andThen

def read (f : σ → α) : Act σ α := fun s => (.ok (f s), s)

def change (f : σ → σ) : Act σ Unit := fun s => (.ok (), f s)

/-- Changes the state and yields what the change yields. -/
def update (f : σ → α × σ) : Act σ α := fun s =>
  let changed := f s
  (.ok changed.1, changed.2)

/-- A result that was computed without the state. -/
def lift (result : Except Error α) : Act σ α := fun s => (result, s)

/-- Yields the outcome, failure included, and goes on. -/
def attempt (act : Act σ α) : Act σ (Except Error α) := fun s =>
  match act s with
  | (.error e, s) => if e.isFatal then (.error e, s) else (.ok (.error e), s)
  | (.ok a, s) => (.ok (.ok a), s)

/-- Does a last thing whatever the outcome, which stays the outcome. -/
def ensure (act : Act σ α) (last : σ → σ) : Act σ α := fun s =>
  let done := act s
  (done.1, last done.2)

@[simp] theorem pure_apply (a : α) (s : σ) : (pure a : Act σ α) s = (.ok a, s) := rfl

theorem bind_of_ok (first : Act σ α) (next : α → Act σ β) (s after : σ) (a : α)
    (success : first s = (.ok a, after)) : (first >>= next) s = next a after := by
  change andThen first next s = _
  simp only [andThen, success]

theorem bind_of_error (first : Act σ α) (next : α → Act σ β) (s after : σ) (e : Error)
    (failed : first s = (.error e, after)) : (first >>= next) s = (.error e, after) := by
  change andThen first next s = _
  simp only [andThen, failed]

/-- Going on after a failure leaves the state that the failure left. -/
theorem attempt_state (act : Act σ α) (s : σ) : (act.attempt s).2 = (act s).2 := by
  unfold attempt
  rcases act s with ⟨_ | _, _⟩
  · dsimp only
    split <;> rfl
  · rfl

theorem lift_ok_bind (a : α) (next : α → Act σ β) : lift (.ok a) >>= next = next a := rfl

end Act

end RowMapper
