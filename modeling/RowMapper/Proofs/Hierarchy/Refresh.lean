import Mathlib.Data.List.Basic
import RowMapper.Proofs.Hierarchy.Links
/-!
Renewing effective tables. If the links agree, going down the listed children reaches exactly the
compilers with the first one on their path, and it ends; so every one of them has the tables merged
along its path afterwards, and the others have those that they had.
-/

set_option autoImplicit false

namespace RowMapper.Hierarchy

variable {H : Type}

theorem ownTables_renew (h : Hierarchy H) (id : Nat) : (h.renew id).ownTables = h.ownTables := by
  funext other
  simp only [ownTables, renew, node?_adjust]
  by_cases here : id = other
  · cases h.node? other <;> simp [here]
  · simp [here]

theorem mergedTables_renew (h : Hierarchy H) (id : Nat) :
    (h.renew id).mergedTables = h.mergedTables := by
  funext other node
  simp only [mergedTables, ownTables_renew]

theorem childrenOf_renew (h : Hierarchy H) (id : Nat) : (h.renew id).childrenOf = h.childrenOf := by
  funext other
  simp only [childrenOf, renew, node?_adjust]
  by_cases here : id = other
  · cases h.node? other <;> simp [here]
  · simp [here]

/-- The compiler and those below it in the order in which they are renewed, at most so deep. -/
def belowTo (h : Hierarchy H) : Nat → Nat → List Nat
  | 0, _ => []
  | depth + 1, id => id :: (h.childrenOf id).flatMap (h.belowTo depth)

theorem childrenOf_foldl_renew (h : Hierarchy H) (ids : List Nat) :
    (ids.foldl renew h).childrenOf = h.childrenOf := by
  induction ids generalizing h with
  | nil => rfl
  | cons id rest ih => rw [List.foldl_cons, ih, childrenOf_renew]

theorem belowTo_congr {h h' : Hierarchy H} (same : h'.childrenOf = h.childrenOf) (depth : Nat) :
    h'.belowTo depth = h.belowTo depth := by
  induction depth with
  | zero => rfl
  | succ depth ih =>
    funext id
    simp only [belowTo, same, ih]

theorem refreshTo_eq_foldl (h : Hierarchy H) (depth id : Nat) :
    refreshTo depth id h = (h.belowTo depth id).foldl renew h := by
  induction depth generalizing id h with
  | zero => rfl
  | succ depth ih =>
    -- one child after the other: what is renewed before changes no list of children
    have children : ∀ (ids : List Nat) (g : Hierarchy H),
        ids.foldl (fun g child => refreshTo depth child g) g =
          (ids.flatMap (g.belowTo depth)).foldl renew g := by
      intro ids
      induction ids with
      | nil => exact fun _ => rfl
      | cons child rest inner =>
        intro g
        rw [List.foldl_cons, inner, ih, List.flatMap_cons, List.foldl_append,
          belowTo_congr (childrenOf_foldl_renew g (g.belowTo depth child))]
    simp only [refreshTo, belowTo, List.foldl_cons]
    rw [children, belowTo_congr (childrenOf_renew h id), childrenOf_renew]

/-- Renewing compilers gives each of them the tables merged along its path. -/
theorem node?_foldl_renew (h : Hierarchy H) (ids : List Nat) (other : Nat) :
    (ids.foldl renew h).node? other = (h.node? other).map fun node =>
      if other ∈ ids then { node with effective := h.mergedTables other node } else node := by
  induction ids generalizing h with
  | nil => simp
  | cons id rest ih =>
    rw [List.foldl_cons, ih, mergedTables_renew, renew, node?_adjust]
    by_cases here : id = other
    · subst here
      simp only [↓reduceIte, Option.map_map, List.mem_cons, true_or]
      congr 1
      funext node
      by_cases again : id ∈ rest <;> simp [again, mergedTables]
    · have different : other ≠ id := fun same => here same.symm
      simp only [here, ↓reduceIte, List.mem_cons, different, false_or]

namespace Linked

variable {h : Hierarchy H}

/-- Going down the children from a compiler reaches those with the compiler on their path. -/
theorem mem_belowTo (linked : h.Linked) {id : Nat} {node : CompilerNode H}
    (found : h.node? id = some node) (depth other : Nat) :
    other ∈ h.belowTo depth id ↔ ∃ below, h.node? other = some below ∧
      (other = id ∨ id ∈ below.parents) ∧ below.parents.length < node.parents.length + depth := by
  induction depth generalizing id node with
  | zero =>
    simp only [belowTo, List.not_mem_nil, Nat.add_zero, false_iff]
    rintro ⟨below, there, rfl | onPath, shorter⟩
    · cases found.symm.trans there
      omega
    · obtain ⟨above, front, back, highest, path, own⟩ := linked.above_of_mem there onPath
      cases found.symm.trans highest
      rw [path, own, List.length_append] at shorter
      omega
  | succ depth ih =>
    simp only [belowTo, List.mem_cons, List.mem_flatMap, childrenOf_eq found]
    have longer : ∀ {nearest : CompilerNode H}, nearest.parents = node.parents ++ [id] →
        nearest.parents.length = node.parents.length + 1 := by
      intro nearest own
      rw [own, List.length_append, List.length_singleton]
    constructor
    · rintro (rfl | ⟨child, listed, deeper⟩)
      · exact ⟨node, found, Or.inl rfl, by omega⟩
      · obtain ⟨nearest, there, own⟩ := linked.parents_of_listed found listed
        obtain ⟨below, present, place, shorter⟩ := (ih there).mp deeper
        have last : id ∈ nearest.parents := own ▸ List.mem_append_right _ List.mem_cons_self
        have := longer own
        refine ⟨below, present, Or.inr ?_, by omega⟩
        rcases place with rfl | onPath
        · cases there.symm.trans present
          exact last
        · exact linked.parents_subset present there onPath last
    · rintro ⟨below, present, rfl | onPath, shorter⟩
      · exact Or.inl rfl
      · obtain ⟨child, nearest, listed, there, own, place⟩ :=
          linked.child_toward present found onPath
        have := longer own
        exact Or.inr ⟨child, listed, (ih there).mpr ⟨below, present, place, by omega⟩⟩

/-- At any depth from the number of slots on, exactly the compilers with the first one on their path
are renewed. -/
theorem node?_refreshTo (linked : h.Linked) (id depth other : Nat) (deep : h.slots.length ≤ depth) :
    (refreshTo depth id h).node? other = (h.node? other).map fun node =>
      if other = id ∨ id ∈ node.parents then { node with effective := h.mergedTables other node }
      else node := by
  rw [refreshTo_eq_foldl, node?_foldl_renew]
  cases present : h.node? other with
  | none => rfl
  | some below =>
    simp only [Option.map_some]
    congr 1
    have place : other ∈ h.belowTo depth id ↔ other = id ∨ id ∈ below.parents := by
      cases found : h.node? id with
      | none =>
        -- nothing hangs below an empty slot, and it is on no path
        have apart : ¬ (other = id ∨ id ∈ below.parents) := by
          rintro (rfl | onPath)
          · cases found.symm.trans present
          · obtain ⟨above, -, -, highest, -, -⟩ := linked.above_of_mem present onPath
            cases found.symm.trans highest
        simp only [apart, iff_false]
        intro reached
        cases depth with
        | zero => cases reached
        | succ depth =>
          simp only [belowTo, childrenOf, found, List.flatMap_nil, List.mem_singleton] at reached
          exact apart (Or.inl reached)
      | some node =>
        rw [linked.mem_belowTo found]
        constructor
        · rintro ⟨again, there, position, -⟩
          cases present.symm.trans there
          exact position
        · intro position
          have bound := linked.length_parents_lt present
          exact ⟨below, present, position, by omega⟩
    simp only [place]

theorem node?_refresh (linked : h.Linked) (id other : Nat) :
    (h.refresh id).node? other = (h.node? other).map fun node =>
      if other = id ∨ id ∈ node.parents then { node with effective := h.mergedTables other node }
      else node :=
  linked.node?_refreshTo id h.slots.length other (Nat.le_refl _)

end Linked

theorem ownTables_refresh (h : Hierarchy H) (id : Nat) :
    (h.refresh id).ownTables = h.ownTables := by
  rw [refresh, refreshTo_eq_foldl]
  generalize h.belowTo h.slots.length id = ids
  induction ids generalizing h with
  | nil => rfl
  | cons first rest ih => rw [List.foldl_cons, ih, ownTables_renew]

theorem mergedTables_refresh (h : Hierarchy H) (id : Nat) :
    (h.refresh id).mergedTables = h.mergedTables := by
  funext other node
  simp only [mergedTables, ownTables_refresh]

/-- Two hierarchies with the same compilers in the same slots are the same. -/
theorem ext_node? {h h' : Hierarchy H} (nodes : ∀ id, h.node? id = h'.node? id)
    (slots : h.slots.length = h'.slots.length) (free : h.free = h'.free) : h = h' := by
  have occupants : h.slots = h'.slots := by
    apply List.ext_getElem slots
    intro id inside inside'
    have same := nodes id
    simpa only [node?, List.getElem?_eq_getElem inside, List.getElem?_eq_getElem inside',
      Option.join_some] using same
  cases h
  cases h'
  simp only [mk.injEq]
  exact ⟨occupants, free⟩

theorem foldl_renew_frame (h : Hierarchy H) (ids : List Nat) :
    (ids.foldl renew h).free = h.free ∧ (ids.foldl renew h).slots.length = h.slots.length := by
  induction ids generalizing h with
  | nil => exact ⟨rfl, rfl⟩
  | cons id rest ih =>
    obtain ⟨free, slots⟩ := ih (h.renew id)
    exact ⟨free, slots.trans (length_adjust ..)⟩

theorem free_refresh (h : Hierarchy H) (id : Nat) : (h.refresh id).free = h.free := by
  rw [refresh, refreshTo_eq_foldl]
  exact (foldl_renew_frame h _).1

theorem length_refresh (h : Hierarchy H) (id : Nat) :
    (h.refresh id).slots.length = h.slots.length := by
  rw [refresh, refreshTo_eq_foldl]
  exact (foldl_renew_frame h _).2

namespace Linked

variable {h : Hierarchy H}

theorem refresh (linked : h.Linked) (id : Nat) : (h.refresh id).Linked := by
  apply linked.of_same_links _ (free_refresh h id) (length_refresh h id)
  intro other
  rw [linked.node?_refresh, Option.map_map]
  congr 1
  funext node
  simp only [Function.comp_apply]
  split <;> rfl

/-- Going down further than there are slots changes nothing more: the recursion along the children
ends. -/
theorem refreshTo_of_le (linked : h.Linked) (id depth : Nat) (deep : h.slots.length ≤ depth) :
    refreshTo depth id h = h.refresh id := by
  have frame := foldl_renew_frame h (h.belowTo depth id)
  rw [← refreshTo_eq_foldl] at frame
  apply ext_node?
  · intro other
    rw [linked.node?_refreshTo id depth other deep, linked.node?_refresh]
  · rw [frame.2, length_refresh]
  · rw [frame.1, free_refresh]

/-- The children are a forest: going from a compiler to a child of it cannot go on for ever. -/
theorem wellFounded_children (linked : h.Linked) :
    WellFounded fun child parent => child ∈ h.childrenOf parent := by
  let depth (id : Nat) : Nat := ((h.node? id).map fun node => node.parents.length).getD 0
  apply Subrelation.wf _ (measure fun id => h.slots.length - depth id).wf
  intro child parent listed
  cases found : h.node? parent with
  | none =>
    rw [childrenOf, found] at listed
    cases listed
  | some node =>
    rw [childrenOf_eq found] at listed
    obtain ⟨below, there, own⟩ := linked.parents_of_listed found listed
    have bound := linked.length_parents_lt there
    change h.slots.length - depth child < h.slots.length - depth parent
    simp only [depth, found, there, Option.map_some, Option.getD_some]
    rw [own, List.length_append, List.length_singleton] at bound ⊢
    omega

end Linked

end RowMapper.Hierarchy
