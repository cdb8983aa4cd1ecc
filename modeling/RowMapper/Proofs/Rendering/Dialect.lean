import RowMapper.Proofs.Rendering.Standard
/-!
Dialects. A program that starts with a default compiler and then makes children of it and edits
reserved words, on any of the compilers that come of this, changes nothing but which words are
reserved: every one of them gives nodes to the handlers of a default compiler, with its precedences.
-/

set_option autoImplicit false

namespace RowMapper

namespace Usage

def standard : Usage Builtin := ⟨.standard id, [0], (Edit.standard id).reverse.map (.edited 0)⟩

/-- What comes of a default compiler where children are made, handles are cloned and dropped, and
words are reserved and taken out of the reserved words, on any outstanding handle. -/
inductive Dialect : Usage Builtin → Prop
  | standard : Dialect .standard
  | createChild {u : Usage Builtin} {id : Nat} (dialect : Dialect u) (outstanding : id ∈ u.held) :
      Dialect (u.call id .createChild)
  | clone {u : Usage Builtin} {id : Nat} (dialect : Dialect u) (outstanding : id ∈ u.held) :
      Dialect (u.call id .clone)
  | drop {u : Usage Builtin} {id : Nat} (dialect : Dialect u) (outstanding : id ∈ u.held) :
      Dialect (u.call id .drop)
  | markWords {u : Usage Builtin} {id : Nat} (reserved : Bool) (words : List String)
      (dialect : Dialect u) (outstanding : id ∈ u.held) :
      Dialect (u.call id (.edit (.markWords reserved words)))

theorem reachable_standard : standard.Reachable := by
  have reached := reachable_lone (Edit.standard (id : Builtin → Builtin))
  rwa [Edit.tables_standard, ← Hierarchy.standard_eq_lone] at reached

theorem Dialect.reachable {u : Usage Builtin} (dialect : u.Dialect) : u.Reachable := by
  induction dialect with
  | standard => exact reachable_standard
  | createChild _ outstanding ih | clone _ outstanding ih | drop _ outstanding ih =>
    exact .call _ ih outstanding
  | markWords _ _ _ outstanding ih => exact .call _ ih outstanding

variable {H α : Type}

/-- A new child comes into a slot that is not on the way up from any compiler. -/
theorem Reachable.not_mem_pathUp {u : Usage H} (reached : u.Reachable) {parent id : Nat}
    (outstanding : parent ∈ u.held) (held : id ∈ u.held) :
    (u.hierarchy.createChild parent).1 ∉ pathUp (births u.past) id := by
  intro onPath
  obtain ⟨above, present⟩ := reached.sound.live outstanding
  obtain ⟨node, found⟩ := reached.sound.live held
  have vacant := Hierarchy.vacant_createChild reached.sound.linked present
  have up : (u.hierarchy.createChild parent).1 ∈ node.parents ++ [id] := by
    rw [reached.inherits.path found]
    exact List.mem_reverse.mpr onPath
  obtain ⟨occupant, there⟩ := reached.sound.linked.live_path found up
  rw [there] at vacant
  cases vacant

/-- What was set on compilers other than a new one. -/
theorem findSome?_lastSet_created (set : Edit H → Option α) {child parent : Nat}
    {past : List (Event H)} {path : List Nat} (absent : child ∉ path) :
    path.findSome? (fun other => lastSet set other (.created child parent :: past)) =
      path.findSome? fun other => lastSet set other past := by
  induction path with
  | nil => rfl
  | cons other rest ih =>
    rw [List.mem_cons, not_or] at absent
    rw [List.findSome?_cons, List.findSome?_cons, lastSet, if_neg absent.1, ih absent.2]

/-- A new child answers as the compiler above it, and all others answer as before. -/
theorem Reachable.nearest_createChild {u : Usage H} (reached : u.Reachable) {parent slot : Nat}
    (outstanding : parent ∈ u.held) (set : Edit H → Option α)
    (held : slot ∈ (u.call parent .createChild).held) :
    nearest set (u.call parent .createChild).past slot =
      nearest set u.past (if (u.hierarchy.createChild parent).1 = slot then parent else slot) := by
  change nearest set (.created (u.hierarchy.createChild parent).1 parent :: u.past) slot = _
  simp only [nearest, births, pathUp]
  split
  · rename_i new
    have absent := reached.not_mem_pathUp outstanding outstanding
    rw [List.findSome?_cons, lastSet, if_pos new, findSome?_lastSet_created set absent]
  · rename_i old
    have present : slot ∈ u.held := (List.mem_cons.mp held).resolve_left fun same => old same.symm
    exact findSome?_lastSet_created set (reached.not_mem_pathUp outstanding present)

/-- A change that says nothing of what is asked. -/
theorem nearest_edited (set : Edit H → Option α) {e : Edit H} (silent : set e = none)
    (past : List (Event H)) (edited slot : Nat) :
    nearest set (.edited edited e :: past) slot = nearest set past slot := by
  have same : ∀ other, lastSet set other (.edited edited e :: past) = lastSet set other past := by
    intro other
    rw [lastSet, silent, Option.none_or, ite_self]
  simp only [nearest, births, same]

/-- On every compiler of a dialect, all but the marks of words is what was set in the default
compiler. -/
theorem Dialect.nearest_eq {u : Usage Builtin} (dialect : u.Dialect) {slot : Nat}
    (held : slot ∈ u.held) (q : Query Builtin α)
    (silent : ∀ reserved words, q.set (.markWords reserved words) = none) :
    nearest q.set u.past slot = q.find (.standard id) := by
  induction dialect generalizing slot with
  | standard =>
    rw [← reachable_standard.find_effective held]
    cases List.mem_singleton.mp held
    exact Hierarchy.isStandard_effective id q
  | createChild dialect outstanding ih =>
    rw [dialect.reachable.nearest_createChild outstanding q.set held]
    split
    · exact ih outstanding
    · rename_i old
      exact ih ((List.mem_cons.mp held).resolve_left fun same => old same.symm)
  | clone dialect outstanding ih =>
    rcases List.mem_cons.mp held with rfl | present
    · exact ih outstanding
    · exact ih present
  | drop dialect outstanding ih => exact ih (List.mem_of_mem_erase held)
  | markWords reserved words dialect outstanding ih =>
    exact (nearest_edited q.set (silent reserved words) _ _ _).trans (ih held)

/-- The tables in effect on every compiler of a dialect differ from those of a default compiler in
their reserved words alone. -/
theorem Dialect.isDialect {u : Usage Builtin} (dialect : u.Dialect) {slot : Nat}
    (held : slot ∈ u.held) :
    (u.hierarchy.effective slot).IsDialect id := by
  intro α q silent
  rw [dialect.reachable.find_effective held, dialect.nearest_eq held q silent]

end Usage

end RowMapper
