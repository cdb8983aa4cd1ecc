import Mathlib.Data.Set.Card
import RowMapper.Proofs.Hierarchy.Inheritance
/-!
A hierarchy in use is well formed: its slots, paths, lists of children, counts of handles and free
slots are all what the outstanding handles and the births of the compilers make them.
-/

set_option autoImplicit false

namespace RowMapper

variable {H : Type}

/-- A hierarchy is well formed for the number of outstanding handles in each slot and for the births
of its compilers. -/
structure Hierarchy.WellFormed (h : Hierarchy H) (outstanding : Nat → Nat)
    (births : List (Nat × Nat)) :
    Prop where
  /-- A slot is occupied exactly if a handle is outstanding on its compiler or on one below it. -/
  occupied : ∀ slot, (h.node? slot).isSome ↔
    ∃ below, 0 < outstanding below ∧ slot ∈ pathUp births below
  handles : ∀ {slot node}, h.node? slot = some node → node.handles = outstanding slot
  path : ∀ {slot node}, h.node? slot = some node →
    node.parents ++ [slot] = (pathUp births slot).reverse
  pathLive : ∀ {slot node}, h.node? slot = some node → ∀ p ∈ node.parents, (h.node? p).isSome
  listed : ∀ {p above}, h.node? p = some above → ∀ c,
    c ∈ above.children ↔ ∃ below, h.node? c = some below ∧ below.parents.getLast? = some p
  listedOnce : ∀ {p above}, h.node? p = some above → above.children.Nodup
  /-- Going from a compiler to a child of it, and so on, ends. -/
  acyclic : WellFounded fun child parent => child ∈ h.childrenOf parent
  /-- Renewing the tables of a compiler and of all below it goes no deeper than there are slots. -/
  renewalEnds : ∀ id depth, h.slots.length ≤ depth → Hierarchy.refreshTo depth id h = h.refresh id
  free : ∀ slot, slot ∈ h.free ↔ slot < h.slots.length ∧ h.node? slot = none
  freeOnce : h.free.Nodup
  /-- Every outstanding handle has its compiler. -/
  live : ∀ slot, 0 < outstanding slot → ∃ node, h.node? slot = some node
  /-- A child comes into a slot that no outstanding handle is on. -/
  unshared : ∀ parent, 0 < outstanding parent →
    h.node? (h.createChild parent).1 = none ∧ outstanding (h.createChild parent).1 = 0
  size : h.size = Set.ncard { slot | ∃ below, 0 < outstanding below ∧ slot ∈ pathUp births below }
  childCount : ∀ {p}, (h.node? p).isSome →
    h.childCount p = Set.ncard { c | (h.node? c).isSome ∧ (pathUp births c)[1]? = some p }

theorem ncard_mem_of_nodup {α : Type} {l : List α} (distinct : l.Nodup) :
    Set.ncard { a | a ∈ l } = l.length := by
  classical
  rw [← List.toFinset_card_of_nodup distinct, ← Set.ncard_coe_finset]
  simp

theorem length_occupied (slots : List (Option (CompilerNode H))) :
    ((List.range slots.length).filter fun slot => (slots[slot]?).join.isSome).length =
      slots.countP Option.isSome := by
  induction slots using List.reverseRecOn with
  | nil => rfl
  | append_singleton slots last ih =>
    have front : ((List.range slots.length).filter fun slot =>
        ((slots ++ [last])[slot]?).join.isSome) = (List.range slots.length).filter fun slot =>
          (slots[slot]?).join.isSome := by
      apply List.filter_congr
      intro slot inside
      rw [List.getElem?_append_left (List.mem_range.mp inside)]
    rw [List.length_append, List.length_singleton, List.range_succ, List.filter_append, front,
      List.length_append, ih, List.countP_append]
    cases last <;> simp

namespace Hierarchy

theorem size_eq (h : Hierarchy H) : h.size = Set.ncard { slot | (h.node? slot).isSome } := by
  rw [size, ← length_occupied, ← ncard_mem_of_nodup (List.nodup_range.filter _)]
  congr 1
  ext slot
  simp only [List.mem_filter, List.mem_range, Set.mem_ofPred_eq]
  refine ⟨And.right, fun occupied => ⟨?_, occupied⟩⟩
  obtain ⟨node, found⟩ := Option.isSome_iff_exists.mp occupied
  exact inside_of_node? found

namespace Linked

variable {h : Hierarchy H}

/-- Down the children of a compiler there is one with a handle. -/
theorem handle_below (linked : h.Linked)
    (needed : ∀ {slot node}, h.node? slot = some node → node.IsNeeded) (slot : Nat) :
    ∀ node, h.node? slot = some node →
      ∃ below lowest, h.node? below = some lowest ∧ 0 < lowest.handles ∧
        slot ∈ lowest.parents ++ [below] := by
  induction slot using linked.wellFounded_children.induction with
  | _ slot ih =>
    intro node found
    rcases needed found with used | parent
    · exact ⟨slot, node, found, used, List.mem_append_right _ List.mem_cons_self⟩
    · obtain ⟨child, listed⟩ := List.exists_mem_of_ne_nil _ parent
      obtain ⟨nearest, there, own⟩ := linked.parents_of_listed found listed
      obtain ⟨below, lowest, present, used, onPath⟩ :=
        ih child (childrenOf_eq found ▸ listed) nearest there
      refine ⟨below, lowest, present, used, List.mem_append_left _ ?_⟩
      have last : slot ∈ nearest.parents := own ▸ List.mem_append_right _ List.mem_cons_self
      rcases List.mem_append.mp onPath with higher | same
      · exact linked.parents_subset present there higher last
      · cases List.mem_singleton.mp same
        cases there.symm.trans present
        exact last

theorem childCount_eq (linked : h.Linked) {p : Nat} {above : CompilerNode H}
    (found : h.node? p = some above) :
    h.childCount p =
      Set.ncard { c | ∃ below, h.node? c = some below ∧ below.parents.getLast? = some p } := by
  rw [childCount, childrenOf_eq found, ← ncard_mem_of_nodup (linked.once found)]
  congr 1
  ext c
  exact linked.listed found c

end Linked

end Hierarchy

namespace Usage

/-- The slots in use are those on the ways up from the compilers that have a handle. -/
theorem Reachable.occupied_iff {u : Usage H} (reached : u.Reachable) (slot : Nat) :
    (u.hierarchy.node? slot).isSome ↔
      ∃ below, 0 < u.held.count below ∧ slot ∈ pathUp (births u.past) below := by
  have sound := reached.sound
  have linked := sound.linked
  constructor
  · intro present
    obtain ⟨node, found⟩ := Option.isSome_iff_exists.mp present
    obtain ⟨below, lowest, there, used, onPath⟩ := linked.handle_below sound.needed slot node found
    refine ⟨below, sound.counted there ▸ used, ?_⟩
    rw [reached.inherits.path there] at onPath
    exact List.mem_reverse.mp onPath
  · rintro ⟨below, outstanding, onPath⟩
    obtain ⟨lowest, there⟩ := sound.live (List.count_pos_iff.mp outstanding)
    have member : slot ∈ lowest.parents ++ [below] := by
      rw [reached.inherits.path there]
      exact List.mem_reverse.mpr onPath
    obtain ⟨node, found⟩ := linked.live_path there member
    exact Option.isSome_iff_exists.mpr ⟨node, found⟩

/-- The last compiler on a path is the second one of the way up. -/
theorem Reachable.second_of_pathUp {u : Usage H} (reached : u.Reachable) {slot : Nat}
    {node : CompilerNode H} (found : u.hierarchy.node? slot = some node) :
    (pathUp (births u.past) slot)[1]? = node.parents.getLast? := by
  have up : pathUp (births u.past) slot = slot :: node.parents.reverse := by
    rw [← List.reverse_reverse (pathUp (births u.past) slot), ← reached.inherits.path found]
    simp
  rw [up, List.getElem?_cons_succ, ← List.head?_eq_getElem?, List.head?_reverse]

theorem Reachable.childCount_eq {u : Usage H} (reached : u.Reachable) {p : Nat}
    (present : (u.hierarchy.node? p).isSome) : u.hierarchy.childCount p =
      Set.ncard { c | (u.hierarchy.node? c).isSome ∧ (pathUp (births u.past) c)[1]? = some p } := by
  obtain ⟨above, found⟩ := Option.isSome_iff_exists.mp present
  rw [reached.sound.linked.childCount_eq found]
  congr 1
  ext c
  simp only [Set.mem_ofPred_eq, Option.isSome_iff_exists]
  constructor
  · rintro ⟨below, there, last⟩
    exact ⟨⟨below, there⟩, by rw [reached.second_of_pathUp there, last]⟩
  · rintro ⟨⟨below, there⟩, last⟩
    exact ⟨below, there, by rw [← reached.second_of_pathUp there, last]⟩

theorem Reachable.wellFormed {u : Usage H} (reached : u.Reachable) :
    u.hierarchy.WellFormed (fun slot => u.held.count slot) (births u.past) := by
  have sound := reached.sound
  have linked := sound.linked
  have live : ∀ slot, 0 < u.held.count slot → ∃ node, u.hierarchy.node? slot = some node :=
    fun slot outstanding => sound.live (List.count_pos_iff.mp outstanding)
  constructor
  case occupied => exact reached.occupied_iff
  case handles => exact sound.counted
  case path => exact reached.inherits.path
  case pathLive =>
    intro slot node found p onPath
    obtain ⟨above, there⟩ := linked.live_path found (List.mem_append_left _ onPath)
    exact Option.isSome_iff_exists.mpr ⟨above, there⟩
  case listed => exact linked.listed
  case listedOnce => exact linked.once
  case acyclic => exact linked.wellFounded_children
  case renewalEnds => exact fun id depth deep => linked.refreshTo_of_le id depth deep
  case free => exact linked.empty
  case freeOnce => exact linked.freeOnce
  case live => exact live
  case unshared =>
    intro parent outstanding
    obtain ⟨above, found⟩ := live parent outstanding
    have vacant := Hierarchy.vacant_createChild linked found
    refine ⟨vacant, Nat.eq_zero_of_not_pos fun used => ?_⟩
    obtain ⟨node, there⟩ := live _ used
    cases vacant.symm.trans there
  case size =>
    rw [Hierarchy.size_eq]
    congr 1
    ext slot
    exact reached.occupied_iff slot
  case childCount => exact reached.childCount_eq

end Usage

end RowMapper
