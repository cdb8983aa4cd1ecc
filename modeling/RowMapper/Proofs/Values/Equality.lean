import Mathlib
import RowMapper.Cell.Basic
/-!
Equality of values and of what a cell holds and waits for. It is symmetric and transitive, but not
reflexive: a floating point number that is no number differs from itself, and so does everything
that holds one.
-/

set_option autoImplicit false

namespace RowMapper

/-- An equality that is symmetric and transitive, under which exactly the strange elements differ
from themselves. -/
structure PartialEquality {α : Type} (same : α → α → Bool) (strange : α → Bool) : Prop where
  comm : ∀ a b, same a b = same b a
  trans : ∀ a b c, same a b = true → same b c = true → same a c = true
  self : ∀ a, same a a = !strange a

namespace Number

/-- Floating point numbers are equal if they are the same or both zero; what is no number is equal
to nothing. -/
theorem float_partialEquality : PartialEquality (fun x y : Float => x == y) Float.isNaN where
  comm x y := by
    rw [Bool.eq_iff_iff, Float.beq_iff_ne_nan_and_eq, Float.beq_iff_ne_nan_and_eq]
    grind
  trans x y z first second := by
    rw [Float.beq_iff_ne_nan_and_eq] at *
    grind
  self x := by
    rw [Bool.eq_iff_iff, Float.beq_self_iff, Float.isNaN_eq_decide_eq_nan, Bool.not_eq_true',
      decide_eq_false_iff_not]

/-- Decimals are compared as numbers. -/
theorem Decimal.partialEquality : PartialEquality Decimal.same fun _ => false where
  comm a b := by
    simp only [Decimal.same, BEq.comm (a := a.normal), BEq.comm (a := decide (a.digits < 0))]
  trans a b c first second := by
    simp only [Decimal.same, Bool.and_eq_true, beq_iff_eq] at *
    exact ⟨first.1.trans second.1, first.2.trans second.2⟩
  self a := by simp [Decimal.same]

end Number

namespace Json

mutual

/-- A number in the document is no number. -/
def hasNaN : Json → Bool
  | .real x => x.isNaN
  | .array items => anyNaN items
  | .object members => anyMemberNaN members
  | .null | .bool _ | .int _ | .text _ => false

def anyNaN : List Json → Bool
  | [] => false
  | item :: items => hasNaN item || anyNaN items

def anyMemberNaN : List (String × Json) → Bool
  | [] => false
  | (_, value) :: members => hasNaN value || anyMemberNaN members

end

mutual

theorem same_comm : ∀ a b : Json, a.same b = b.same a
  | .array a, b => by cases b <;> simp only [same, sameItems_comm a]
  | .object a, b => by cases b <;> simp only [same, sameMembers_comm a]
  | .real x, b => by cases b <;> simp only [same, Number.float_partialEquality.comm x]
  | .null, b => by cases b <;> rfl
  | .bool x, b => by cases b <;> simp only [same, BEq.comm]
  | .int x, b => by cases b <;> simp only [same, BEq.comm]
  | .text x, b => by cases b <;> simp only [same, BEq.comm]

theorem sameItems_comm : ∀ as bs : List Json, sameItems as bs = sameItems bs as
  | [], bs => by cases bs <;> rfl
  | a :: as, bs => by cases bs <;> simp only [sameItems, same_comm a, sameItems_comm as]

theorem sameMembers_comm : ∀ as bs : List (String × Json), sameMembers as bs = sameMembers bs as
  | [], bs => by cases bs <;> rfl
  | (j, a) :: as, bs => by
    cases bs with
    | nil => rfl
    | cons b bs => simp only [sameMembers, same_comm a, sameMembers_comm as, BEq.comm (a := j)]

end

mutual

theorem same_trans (a b c : Json) (first : a.same b = true) (second : b.same c = true) :
    a.same c = true := by
  cases a with
  | null =>
    cases b <;> simp only [same, Bool.false_eq_true] at first
    exact second
  | bool x | int x | text x =>
    cases b <;> simp only [same, Bool.false_eq_true] at first
    cases c <;> simp only [same, Bool.false_eq_true] at second ⊢
    exact BEq.trans first second
  | real x =>
    cases b <;> simp only [same, Bool.false_eq_true] at first
    cases c <;> simp only [same, Bool.false_eq_true] at second ⊢
    exact Number.float_partialEquality.trans _ _ _ first second
  | array items =>
    cases b <;> simp only [same, Bool.false_eq_true] at first
    cases c <;> simp only [same, Bool.false_eq_true] at second ⊢
    exact sameItems_trans items _ _ first second
  | object members =>
    cases b <;> simp only [same, Bool.false_eq_true] at first
    cases c <;> simp only [same, Bool.false_eq_true] at second ⊢
    exact sameMembers_trans members _ _ first second
termination_by structural a

theorem sameItems_trans (as bs cs : List Json) (first : sameItems as bs = true)
    (second : sameItems bs cs = true) :
    sameItems as cs = true := by
  cases as with
  | nil =>
    cases bs <;> simp only [sameItems, Bool.false_eq_true] at first
    exact second
  | cons a as =>
    cases bs <;> simp only [sameItems, Bool.false_eq_true, Bool.and_eq_true] at first
    cases cs <;> simp only [sameItems, Bool.false_eq_true, Bool.and_eq_true] at second ⊢
    exact ⟨same_trans a _ _ first.1 second.1, sameItems_trans as _ _ first.2 second.2⟩
termination_by structural as

theorem sameMembers_trans (as bs cs : List (String × Json)) (first : sameMembers as bs = true)
    (second : sameMembers bs cs = true) : sameMembers as cs = true := by
  cases as with
  | nil =>
    cases bs <;> simp only [sameMembers, Bool.false_eq_true] at first
    exact second
  | cons member as =>
    obtain ⟨key, a⟩ := member
    cases bs <;> simp only [sameMembers, Bool.false_eq_true, Bool.and_eq_true] at first
    cases cs <;> simp only [sameMembers, Bool.false_eq_true, Bool.and_eq_true] at second ⊢
    exact ⟨⟨BEq.trans first.1.1 second.1.1, same_trans a _ _ first.1.2 second.1.2⟩,
      sameMembers_trans as _ _ first.2 second.2⟩
termination_by structural as

end

mutual

theorem same_self (a : Json) : a.same a = !a.hasNaN := by
  cases a with
  | null => rfl
  | bool _ | int _ | text _ => simp only [same, hasNaN, BEq.rfl, Bool.not_false]
  | real x => exact Number.float_partialEquality.self x
  | array items => simp only [same, hasNaN, sameItems_self items]
  | object members => simp only [same, hasNaN, sameMembers_self members]

theorem sameItems_self (as : List Json) : sameItems as as = !anyNaN as := by
  cases as with
  | nil => rfl
  | cons a as => simp only [sameItems, anyNaN, same_self a, sameItems_self as, Bool.not_or]

theorem sameMembers_self (as : List (String × Json)) : sameMembers as as = !anyMemberNaN as := by
  cases as with
  | nil => rfl
  | cons member as =>
    obtain ⟨key, a⟩ := member
    simp only [sameMembers, anyMemberNaN, same_self a, sameMembers_self as, Bool.not_or, BEq.rfl,
      Bool.true_and]

end

theorem partialEquality : PartialEquality Json.same Json.hasNaN :=
  ⟨same_comm, same_trans, same_self⟩

end Json

namespace Value

/-- The value is or holds a number that is no number. -/
def hasNaN : Value → Bool
  | .float x => x.isNaN
  | .json j => j.hasNaN
  | _ => false

theorem partialEquality : PartialEquality Value.same Value.hasNaN where
  comm a b := by
    cases a <;> cases b <;> first
      | rfl
      | exact BEq.comm
      | exact Number.float_partialEquality.comm _ _
      | exact Number.Decimal.partialEquality.comm _ _
      | exact Json.partialEquality.comm _ _
  trans a b c first second := by
    cases a <;> cases b <;> simp only [same, Bool.false_eq_true] at first
    all_goals cases c <;> simp only [same, Bool.false_eq_true] at second ⊢
    all_goals first
      | exact BEq.trans first second
      | exact Number.float_partialEquality.trans _ _ _ first second
      | exact Number.Decimal.partialEquality.trans _ _ _ first second
      | exact Json.partialEquality.trans _ _ _ first second
  self a := by
    cases a with
    | float x => exact Number.float_partialEquality.self x
    | decimal d => exact Number.Decimal.partialEquality.self d
    | json j => exact Json.partialEquality.self j
    | _ => simp only [same, hasNaN, BEq.rfl, Bool.not_false]

end Value

namespace Slot

def hasNaN : Slot → Bool
  | .value v => v.hasNaN
  | .undefined | .null => false

theorem partialEquality : PartialEquality Slot.same Slot.hasNaN where
  comm a b := by
    cases a <;> cases b <;> first
      | rfl
      | exact Value.partialEquality.comm _ _
  trans a b c first second := by
    cases a <;> cases b <;> simp only [same, Bool.false_eq_true] at first
    all_goals cases c <;> simp only [same, Bool.false_eq_true] at second ⊢
    exact Value.partialEquality.trans _ _ _ first second
  self a := by
    cases a with
    | value v => exact Value.partialEquality.self v
    | undefined | null => rfl

end Slot

namespace Expr

mutual

theorem same_comm (a b : Expr) : a.same b = b.same a := by
  cases a with
  | node mark _ => cases b <;> simp only [same, BEq.comm]
  | seq items => cases b <;> simp only [same, sameAll_comm items]

theorem sameAll_comm (as bs : List Expr) : sameAll as bs = sameAll bs as := by
  cases as with
  | nil => cases bs <;> rfl
  | cons a as => cases bs <;> simp only [sameAll, same_comm a, sameAll_comm as]

end

mutual

theorem same_trans (a b c : Expr) (first : a.same b = true) (second : b.same c = true) :
    a.same c = true := by
  cases a with
  | node mark _ =>
    cases b <;> simp only [same, Bool.false_eq_true] at first
    cases c <;> simp only [same, Bool.false_eq_true] at second ⊢
    exact BEq.trans first second
  | seq items =>
    cases b <;> simp only [same, Bool.false_eq_true] at first
    cases c <;> simp only [same, Bool.false_eq_true] at second ⊢
    exact sameAll_trans items _ _ first second
termination_by structural a

theorem sameAll_trans (as bs cs : List Expr) (first : sameAll as bs = true)
    (second : sameAll bs cs = true) :
    sameAll as cs = true := by
  cases as with
  | nil =>
    cases bs <;> simp only [sameAll, Bool.false_eq_true] at first
    exact second
  | cons a as =>
    cases bs <;> simp only [sameAll, Bool.false_eq_true, Bool.and_eq_true] at first
    cases cs <;> simp only [sameAll, Bool.false_eq_true, Bool.and_eq_true] at second ⊢
    exact ⟨same_trans a _ _ first.1 second.1, sameAll_trans as _ _ first.2 second.2⟩
termination_by structural as

end

mutual

theorem same_self (a : Expr) : a.same a = true := by
  cases a with
  | node mark _ => simp only [same, BEq.rfl]
  | seq items => simp only [same, sameAll_self items]

theorem sameAll_self (as : List Expr) : sameAll as as = true := by
  cases as with
  | nil => rfl
  | cons a as => simp only [sameAll, same_self a, sameAll_self as, Bool.and_self]

end

theorem partialEquality : PartialEquality Expr.same fun _ => false :=
  ⟨same_comm, same_trans, same_self⟩

end Expr

theorem Lazy.partialEquality : PartialEquality Lazy.same fun _ => false where
  comm a b := by
    cases a <;> cases b <;> first
      | rfl
      | exact Expr.partialEquality.comm _ _
  trans a b c first second := by
    cases a <;> cases b <;> simp only [same, Bool.false_eq_true] at first
    all_goals cases c <;> simp only [same, Bool.false_eq_true] at second ⊢
    exact Expr.partialEquality.trans _ _ _ first second
  self a := by
    cases a with
    | reload => rfl
    | expr e => exact Expr.partialEquality.self e

end RowMapper
