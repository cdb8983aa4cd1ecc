import Mathlib.Algebra.Ring.Int.Defs
import Mathlib.Data.List.Infix
import RowMapper.Calendar.Interval
/-!
Sums of lengths. Lengths are added one after the other, and every sum on the way has to be in range:
a sum comes to the total exactly if the start and the lengths never leave the range, however few of
them have been added.
-/

set_option autoImplicit false

namespace RowMapper.Calendar.Interval

/-- The nanoseconds of all lengths. -/
def total (lengths : List Duration) : Int := (lengths.map Duration.nanos).sum

/-- So many nanoseconds are a length of time. -/
def InRange (nanos : Int) : Prop := -Duration.limit ≤ nanos ∧ nanos ≤ Duration.limit

instance (nanos : Int) : Decidable (InRange nanos) := inferInstanceAs (Decidable (_ ∧ _))

/-- No sum of the start and the first few lengths leaves the range. -/
def StaysInRange (start : Int) (lengths : List Duration) : Prop :=
  ∀ first, first <+: lengths → InRange (start + total first)

section

variable {start : Int} {sum length : Duration} {lengths front back : List Duration}

theorem total_nil : total [] = 0 := rfl

theorem total_cons (length : Duration) (rest : List Duration) :
    total (length :: rest) = length.nanos + total rest := by
  simp only [total, List.map_cons, List.sum_cons]

theorem total_append (front back : List Duration) :
    total (front ++ back) = total front + total back := by
  simp only [total, List.map_append, List.sum_append]

theorem add?_eq_some_iff {a b sum : Duration} :
    a.add? b = some sum ↔ sum.nanos = a.nanos + b.nanos ∧ -Duration.limit ≤ sum.nanos ∧
      sum.nanos ≤ Duration.limit := by
  unfold Duration.add?
  constructor
  · intro adds
    dsimp only at adds
    split at adds
    · next inRange =>
      cases adds
      exact ⟨rfl, inRange⟩
    · cases adds
  · obtain ⟨nanos⟩ := sum
    rintro ⟨rfl, inRange⟩
    exact if_pos inRange

theorem sumUp_append (sum : Duration) (front back : List Duration) :
    sumUp sum (front ++ back) = (sumUp sum front).bind (sumUp · back) := by
  induction front generalizing sum with
  | nil => rfl
  | cons length rest ih =>
    rw [List.cons_append, sumUp, sumUp]
    cases sum.add? length with
    | none => rfl
    | some next => exact ih next

theorem overflow_of_sumUp {fault : Fault} (fails : sumUp sum lengths = .error fault) :
    fault = .overflow := by
  induction lengths generalizing sum with
  | nil => cases fails
  | cons length rest ih =>
    rw [sumUp] at fails
    cases added : sum.add? length with
    | none =>
      rw [added] at fails
      cases fails
      rfl
    | some next =>
      rw [added] at fails
      exact ih fails

theorem StaysInRange.starts (stays : StaysInRange start lengths) : InRange start := by
  have empty := stays [] List.nil_prefix
  rwa [total_nil, Int.add_zero] at empty

theorem staysInRange_nil : StaysInRange start [] ↔ InRange start := by
  refine ⟨StaysInRange.starts, fun inRange first isPrefix => ?_⟩
  rwa [List.prefix_nil.mp isPrefix, total_nil, Int.add_zero]

theorem staysInRange_cons :
    StaysInRange start (length :: lengths) ↔
      InRange start ∧ StaysInRange (start + length.nanos) lengths := by
  constructor
  · intro stays
    refine ⟨stays.starts, fun first isPrefix => ?_⟩
    have later := stays (length :: first) (List.cons_prefix_cons.mpr ⟨rfl, isPrefix⟩)
    rwa [total_cons, ← Int.add_assoc] at later
  · rintro ⟨inRange, stays⟩ first isPrefix
    rcases List.prefix_cons_iff.mp isPrefix with rfl | ⟨rest, rfl, behind⟩
    · rwa [total_nil, Int.add_zero]
    · rw [total_cons, ← Int.add_assoc]
      exact stays rest behind

instance StaysInRange.decidable :
    (start : Int) → (lengths : List Duration) → Decidable (StaysInRange start lengths)
  | _, [] => decidable_of_iff _ staysInRange_nil.symm
  | start, length :: rest =>
    have := StaysInRange.decidable (start + length.nanos) rest
    decidable_of_iff _ staysInRange_cons.symm

theorem sumUp_of_staysInRange (stays : StaysInRange sum.nanos lengths) :
    sumUp sum lengths = .ok ⟨sum.nanos + total lengths⟩ := by
  induction lengths generalizing sum with
  | nil => rw [sumUp, total_nil, Int.add_zero]
  | cons length rest ih =>
    obtain ⟨-, later⟩ := staysInRange_cons.mp stays
    have added : sum.add? length = some ⟨sum.nanos + length.nanos⟩ :=
      add?_eq_some_iff.mpr ⟨rfl, later.starts⟩
    rw [sumUp, added, total_cons, ← Int.add_assoc]
    exact ih later

theorem sumUp_of_leaves (inRange : InRange sum.nanos) (leaves : ¬ StaysInRange sum.nanos lengths) :
    sumUp sum lengths = .error .overflow := by
  induction lengths generalizing sum with
  | nil => exact (leaves (staysInRange_nil.mpr inRange)).elim
  | cons length rest ih =>
    rw [sumUp]
    cases added : sum.add? length with
    | none => rfl
    | some next =>
      obtain ⟨same, nextInRange⟩ := add?_eq_some_iff.mp added
      refine ih nextInRange fun stays => leaves (staysInRange_cons.mpr ⟨inRange, ?_⟩)
      rwa [← same]

end

end RowMapper.Calendar.Interval
