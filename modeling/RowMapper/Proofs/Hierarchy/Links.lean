import Mathlib.Data.List.Induction
import Mathlib.Data.List.Nodup
import Mathlib.Data.List.Perm.Subperm
import RowMapper.Compiler.Hierarchy
/-!
The links of a hierarchy: the path of a compiler, the children listed for it and the free slots
agree with each other. Every operation keeps the agreement.
-/

set_option autoImplicit false

namespace RowMapper

def CompilerNode.links {H : Type} (node : CompilerNode H) : List Nat × List Nat :=
  (node.parents, node.children)

namespace Hierarchy

variable {H : Type}

/-! ## What the operations do to a slot -/

@[simp] theorem node?_adjust (h : Hierarchy H) (id other : Nat)
    (f : CompilerNode H → CompilerNode H) :
    (h.adjust id f).node? other = if id = other then (h.node? other).map f else h.node? other := by
  simp only [node?, adjust, List.getElem?_modify]
  split <;> cases h.slots[other]? with
  | none => rfl
  | some occupant => cases occupant <;> rfl

@[simp] theorem free_adjust (h : Hierarchy H) (id : Nat) (f : CompilerNode H → CompilerNode H) :
    (h.adjust id f).free = h.free := rfl

@[simp] theorem length_adjust (h : Hierarchy H) (id : Nat) (f : CompilerNode H → CompilerNode H) :
    (h.adjust id f).slots.length = h.slots.length := by
  simp only [adjust, List.length_modify]

theorem inside_of_node? {h : Hierarchy H} {id : Nat} {node : CompilerNode H}
    (found : h.node? id = some node) : id < h.slots.length := by
  rw [node?, Option.join_eq_some_iff] at found
  exact (List.getElem?_eq_some_iff.mp found).1

theorem childrenOf_eq {h : Hierarchy H} {id : Nat} {node : CompilerNode H}
    (found : h.node? id = some node) : h.childrenOf id = node.children := by
  simp only [childrenOf, found]

theorem node?_set_some (slots : List (Option (CompilerNode H))) (free : List Nat) (id other : Nat)
    (node : CompilerNode H) (inside : id < slots.length) :
    (⟨slots.set id (some node), free⟩ : Hierarchy H).node? other =
      if id = other then some node else (⟨slots, free⟩ : Hierarchy H).node? other := by
  simp only [node?, List.getElem?_set]
  by_cases same : id = other
  · subst same
    simp only [inside, ↓reduceIte, Option.join_some]
  · simp only [same, ↓reduceIte]

theorem node?_set_none (slots : List (Option (CompilerNode H))) (free freed : List Nat)
    (id other : Nat) :
    (⟨slots.set id none, freed⟩ : Hierarchy H).node? other =
      if id = other then none else (⟨slots, free⟩ : Hierarchy H).node? other := by
  simp only [node?, List.getElem?_set]
  by_cases same : id = other
  · subst same
    by_cases inside : id < slots.length <;> simp [inside]
  · simp only [same, ↓reduceIte]

/-- What is left of a compiler when another one is removed. -/
theorem node?_remove (h : Hierarchy H) (id other : Nat) (node : CompilerNode H) :
    (h.remove id node).node? other =
      if id = other then none
      else if node.parents.getLast? = some other then
        (h.node? other).map fun above => { above with children := above.children.filter (· ≠ id) }
      else h.node? other := by
  unfold remove
  split
  · rename_i parent last
    simp only [node?_adjust, node?_set_none h.slots h.free, last, Option.some.injEq]
    by_cases same : id = other <;> simp [same]
  · rename_i none_above
    simp only [node?_set_none h.slots h.free, none_above, reduceCtorEq, ↓reduceIte]

theorem free_remove (h : Hierarchy H) (id : Nat) (node : CompilerNode H) :
    (h.remove id node).free = id :: h.free := by
  unfold remove
  split <;> rfl

theorem length_remove (h : Hierarchy H) (id : Nat) (node : CompilerNode H) :
    (h.remove id node).slots.length = h.slots.length := by
  unfold remove
  split <;> simp

/-- The hierarchy with a compiler put into the slot freed last, or into a new one, and that slot. -/
theorem insert_cases (h : Hierarchy H) (node : CompilerNode H) :
    (∃ free, h.free = (h.insert node).1 :: free ∧
      (h.insert node).2 = ⟨h.slots.set (h.insert node).1 (some node), free⟩) ∨
    (h.free = [] ∧ (h.insert node).1 = h.slots.length ∧
      (h.insert node).2 = ⟨h.slots ++ [some node], []⟩) := by
  unfold insert
  split
  · rename_i id free front
    exact Or.inl ⟨free, front, rfl⟩
  · rename_i none_free
    exact Or.inr ⟨none_free, rfl, rfl⟩

/-! ## Links that agree -/

/-- The links agree: a compiler without a path is a root, any other one has the path of a compiler
above it with that one behind; the children listed for a compiler are those right below it, each
once; the free slots are the empty ones, each once. -/
structure Linked (h : Hierarchy H) : Prop where
  rooted : ∀ {id node}, h.node? id = some node →
    node.parents = [] ∨ ∃ p above, h.node? p = some above ∧ node.parents = above.parents ++ [p]
  listed : ∀ {p above}, h.node? p = some above → ∀ c,
    c ∈ above.children ↔ ∃ below, h.node? c = some below ∧ below.parents.getLast? = some p
  once : ∀ {p above}, h.node? p = some above → above.children.Nodup
  empty : ∀ id, id ∈ h.free ↔ id < h.slots.length ∧ h.node? id = none
  freeOnce : h.free.Nodup

namespace Linked

variable {h : Hierarchy H}

/-- A compiler on the path of another one has the part of that path in front of it as its own. -/
theorem above (linked : h.Linked) {id p : Nat} {node : CompilerNode H} {front back : List Nat}
    (found : h.node? id = some node) (path : node.parents = front ++ p :: back) :
    ∃ above, h.node? p = some above ∧ above.parents = front := by
  induction back using List.reverseRecOn generalizing id node with
  | nil =>
    rcases linked.rooted found with none_above | ⟨q, above, there, own⟩
    · simp [none_above] at path
    · obtain ⟨same, last⟩ := List.append_inj' (own.symm.trans path) rfl
      cases last
      exact ⟨above, there, same⟩
  | append_singleton back q ih =>
    rcases linked.rooted found with none_above | ⟨r, above, there, own⟩
    · simp [none_above] at path
    · have longer : above.parents ++ [r] = (front ++ p :: back) ++ [q] := by
        rw [← own, path, List.append_assoc, List.cons_append]
      exact ih there (List.append_inj' longer rfl).1

theorem above_of_mem (linked : h.Linked) {id p : Nat} {node : CompilerNode H}
    (found : h.node? id = some node) (onPath : p ∈ node.parents) :
    ∃ above front back, h.node? p = some above ∧ node.parents = front ++ p :: back ∧
      above.parents = front := by
  obtain ⟨front, back, path⟩ := List.append_of_mem onPath
  obtain ⟨above, there, own⟩ := linked.above found path
  exact ⟨above, front, back, there, path, own⟩

/-- What is above a compiler on the path is above the lower one too. -/
theorem parents_subset (linked : h.Linked) {id p : Nat} {node above : CompilerNode H}
    (found : h.node? id = some node) (there : h.node? p = some above) (onPath : p ∈ node.parents) :
    above.parents ⊆ node.parents := by
  obtain ⟨other, front, back, same, path, own⟩ := linked.above_of_mem found onPath
  cases there.symm.trans same
  rw [path, own]
  exact List.subset_append_left front (p :: back)

theorem parents_of_last (linked : h.Linked) {id p : Nat} {node above : CompilerNode H}
    (found : h.node? id = some node) (there : h.node? p = some above)
    (last : node.parents.getLast? = some p) : node.parents = above.parents ++ [p] := by
  obtain ⟨front, path⟩ := List.getLast?_eq_some_iff.mp last
  obtain ⟨other, same, own⟩ := linked.above found path
  cases there.symm.trans same
  rw [path, own]

theorem not_mem_parents (linked : h.Linked) {id : Nat} {node : CompilerNode H}
    (found : h.node? id = some node) : id ∉ node.parents := by
  intro onPath
  obtain ⟨above, front, back, there, path, own⟩ := linked.above_of_mem found onPath
  cases found.symm.trans there
  have shorter := congrArg List.length path
  simp only [own, List.length_append, List.length_cons] at shorter
  omega

theorem parents_nodup (linked : h.Linked) {id : Nat} {node : CompilerNode H}
    (found : h.node? id = some node) : node.parents.Nodup := by
  generalize own : node.parents = path
  induction path using List.reverseRecOn generalizing id node with
  | nil => exact List.nodup_nil
  | append_singleton path p ih =>
    obtain ⟨above, there, front⟩ := linked.above found own
    have apart : p ∉ path := front ▸ linked.not_mem_parents there
    rw [← List.concat_eq_append]
    exact (ih there front).concat apart

/-- No path is as long as there are slots. -/
theorem length_parents_lt (linked : h.Linked) {id : Nat} {node : CompilerNode H}
    (found : h.node? id = some node) : node.parents.length < h.slots.length := by
  have apart : (id :: node.parents).Nodup :=
    List.nodup_cons.mpr ⟨linked.not_mem_parents found, linked.parents_nodup found⟩
  have inside : id :: node.parents ⊆ List.range h.slots.length := by
    intro other member
    rw [List.mem_range]
    rcases List.mem_cons.mp member with same | onPath
    · exact same ▸ inside_of_node? found
    · obtain ⟨above, front, back, there, -, -⟩ := linked.above_of_mem found onPath
      exact inside_of_node? there
  have bound := (List.subperm_of_subset apart inside).length_le
  simpa only [List.length_cons, List.length_range, Nat.succ_le_iff] using bound

theorem parents_of_listed (linked : h.Linked) {id child : Nat} {node : CompilerNode H}
    (found : h.node? id = some node) (listed : child ∈ node.children) :
    ∃ below, h.node? child = some below ∧ below.parents = node.parents ++ [id] := by
  obtain ⟨below, there, last⟩ := (linked.listed found child).mp listed
  exact ⟨below, there, linked.parents_of_last there found last⟩

/-- The way down to a compiler from one on its path starts with a child. -/
theorem child_toward (linked : h.Linked) {id p : Nat} {node above : CompilerNode H}
    (found : h.node? id = some node) (there : h.node? p = some above) (onPath : p ∈ node.parents) :
    ∃ child nearest, child ∈ above.children ∧ h.node? child = some nearest ∧
      nearest.parents = above.parents ++ [p] ∧ (id = child ∨ child ∈ node.parents) := by
  obtain ⟨other, front, back, same, path, own⟩ := linked.above_of_mem found onPath
  cases there.symm.trans same
  cases back with
  | nil =>
    have listed : id ∈ above.children :=
      (linked.listed there id).mpr ⟨node, found, by rw [path, List.getLast?_concat]⟩
    exact ⟨id, node, listed, found, by rw [path, own], Or.inl rfl⟩
  | cons child back =>
    have split : node.parents = (front ++ [p]) ++ child :: back := by
      rw [path, List.append_assoc, List.singleton_append]
    obtain ⟨nearest, present, below⟩ := linked.above found split
    have listed : child ∈ above.children :=
      (linked.listed there child).mpr ⟨nearest, present, by rw [below, List.getLast?_concat]⟩
    refine ⟨child, nearest, listed, present, by rw [below, own], Or.inr ?_⟩
    rw [split]
    exact List.mem_append_right _ List.mem_cons_self

/-- The links agree after a change that keeps them and the free slots. -/
theorem of_same_links {h' : Hierarchy H} (linked : h.Linked)
    (nodes : ∀ id, (h'.node? id).map CompilerNode.links = (h.node? id).map CompilerNode.links)
    (free : h'.free = h.free) (slots : h'.slots.length = h.slots.length) : h'.Linked := by
  have back : ∀ {id node}, h'.node? id = some node → ∃ before, h.node? id = some before ∧
      before.parents = node.parents ∧ before.children = node.children := by
    intro id node found
    have same := nodes id
    rw [found, Option.map_some, eq_comm, Option.map_eq_some_iff] at same
    obtain ⟨before, there, links⟩ := same
    exact ⟨before, there, congrArg Prod.fst links, congrArg Prod.snd links⟩
  have forth : ∀ {id node}, h.node? id = some node → ∃ after, h'.node? id = some after ∧
      after.parents = node.parents ∧ after.children = node.children := by
    intro id node found
    have same := nodes id
    rw [found, Option.map_some, Option.map_eq_some_iff] at same
    obtain ⟨after, there, links⟩ := same
    exact ⟨after, there, congrArg Prod.fst links, congrArg Prod.snd links⟩
  constructor
  · intro id node found
    obtain ⟨before, there, parents, -⟩ := back found
    rcases linked.rooted there with none_above | ⟨p, above, highest, own⟩
    · exact Or.inl (parents ▸ none_above)
    · obtain ⟨after, present, same, -⟩ := forth highest
      exact Or.inr ⟨p, after, present, by rw [← parents, own, same]⟩
  · intro p above found c
    obtain ⟨before, there, -, children⟩ := back found
    rw [← children, linked.listed there c]
    constructor
    · rintro ⟨below, present, last⟩
      obtain ⟨after, now, parents, -⟩ := forth present
      exact ⟨after, now, parents ▸ last⟩
    · rintro ⟨below, present, last⟩
      obtain ⟨past, then_, parents, -⟩ := back present
      exact ⟨past, then_, parents ▸ last⟩
  · intro p above found
    obtain ⟨before, there, -, children⟩ := back found
    exact children ▸ linked.once there
  · intro id
    have vacant : h'.node? id = none ↔ h.node? id = none := by
      rw [← Option.map_eq_none_iff (f := CompilerNode.links), nodes id, Option.map_eq_none_iff]
    rw [free, slots, linked.empty id, vacant]
  · exact free ▸ linked.freeOnce

theorem adjust (linked : h.Linked) (id : Nat) {f : CompilerNode H → CompilerNode H}
    (keeps : ∀ node, (f node).links = node.links) : (h.adjust id f).Linked := by
  apply linked.of_same_links _ (free_adjust ..) (length_adjust ..)
  intro other
  rw [node?_adjust]
  split
  · rw [Option.map_map]
    exact congrArg (fun g => Option.map g _) (funext keeps)
  · rfl

/-! ## A compiler comes -/

/-- The slot for a new compiler is empty. -/
theorem insert_vacant (linked : h.Linked) (node : CompilerNode H) :
    h.node? (h.insert node).1 = none := by
  rcases insert_cases h node with ⟨free, front, -⟩ | ⟨-, slot, -⟩
  · have member : (h.insert node).1 ∈ h.free := front ▸ List.mem_cons_self
    exact ((linked.empty _).mp member).2
  · rw [slot, node?, List.getElem?_eq_none (Nat.le_refl _), Option.join_none]

theorem node?_insert (linked : h.Linked) (node : CompilerNode H) (other : Nat) :
    (h.insert node).2.node? other =
      if (h.insert node).1 = other then some node else h.node? other := by
  rcases insert_cases h node with ⟨free, front, grown⟩ | ⟨-, slot, grown⟩
  · have member : (h.insert node).1 ∈ h.free := front ▸ List.mem_cons_self
    have inside := ((linked.empty _).mp member).1
    rw [grown, node?_set_some h.slots free _ other node inside]
    rfl
  · rw [grown, slot]
    simp only [node?, List.getElem?_append, List.getElem?_singleton]
    by_cases last : other = h.slots.length
    · subst last
      simp
    · have apart : h.slots.length ≠ other := fun same => last same.symm
      by_cases inside : other < h.slots.length
      · simp [inside, apart]
      · have beyond : other - h.slots.length ≠ 0 := by omega
        simp [inside, apart, beyond]

theorem mem_free_insert (linked : h.Linked) (node : CompilerNode H) (other : Nat) :
    other ∈ (h.insert node).2.free ↔ other ∈ h.free ∧ other ≠ (h.insert node).1 := by
  rcases insert_cases h node with ⟨free, front, grown⟩ | ⟨none_free, -, grown⟩
  · have apart : (h.insert node).1 ∉ free := (List.nodup_cons.mp (front ▸ linked.freeOnce)).1
    rw [grown, front, List.mem_cons]
    constructor
    · intro member
      exact ⟨Or.inr member, fun same => apart (same ▸ member)⟩
    · rintro ⟨same | member, different⟩
      · exact absurd same different
      · exact member
  · rw [grown, none_free]
    simp

theorem free_insert_nodup (linked : h.Linked) (node : CompilerNode H) :
    (h.insert node).2.free.Nodup := by
  rcases insert_cases h node with ⟨free, front, grown⟩ | ⟨-, -, grown⟩
  · rw [grown]
    exact (List.nodup_cons.mp (front ▸ linked.freeOnce)).2
  · rw [grown]
    exact List.nodup_nil

theorem lt_length_insert (linked : h.Linked) (node : CompilerNode H) (other : Nat) :
    other < (h.insert node).2.slots.length ↔
      other < h.slots.length ∨ other = (h.insert node).1 := by
  rcases insert_cases h node with ⟨free, front, grown⟩ | ⟨-, slot, grown⟩
  · have member : (h.insert node).1 ∈ h.free := front ▸ List.mem_cons_self
    have inside := ((linked.empty _).mp member).1
    rw [grown, List.length_set]
    constructor
    · exact Or.inl
    · rintro (within | same)
      · exact within
      · exact same ▸ inside
  · rw [grown, slot, List.length_append, List.length_singleton]
    omega

theorem node?_attach (linked : h.Linked) {p : Nat} {above : CompilerNode H}
    (found : h.node? p = some above) (node : CompilerNode H) (other : Nat) :
    ((h.insert node).2.adjust p fun above =>
        { above with children := above.children ++ [(h.insert node).1] }).node? other =
      if (h.insert node).1 = other then some node
      else if p = other then some { above with children := above.children ++ [(h.insert node).1] }
      else h.node? other := by
  have apart : (h.insert node).1 ≠ p := by
    intro same
    rw [← same, linked.insert_vacant node] at found
    cases found
  rw [node?_adjust, linked.node?_insert]
  by_cases here : p = other
  · subst here
    simp only [apart, ↓reduceIte, found, Option.map_some]
  · simp only [here, ↓reduceIte]

end Linked

/-- A hierarchy with a compiler `node` without children put below `p` at the slot `id`, which was
empty: the others keep their paths, and only `p` has a further child. -/
structure Grafted (h : Hierarchy H) (p id : Nat) (node : CompilerNode H) (h' : Hierarchy H) :
    Prop where
  vacant : h.node? id = none
  fresh : h'.node? id = some node
  above : ∃ above, h.node? p = some above ∧ node.parents = above.parents ++ [p]
  childless : node.children = []
  kept : ∀ {other before}, h.node? other = some before →
    ∃ after, h'.node? other = some after ∧ after.parents = before.parents
  back : ∀ {other after}, h'.node? other = some after → (id = other ∧ after = node) ∨
    ∃ before, h.node? other = some before ∧ after.parents = before.parents ∧
      after.children = if p = other then before.children ++ [id] else before.children

namespace Grafted

variable {h h' : Hierarchy H} {p id : Nat} {node : CompilerNode H}

theorem ne_of_node? (grafted : h.Grafted p id node h') {other : Nat} {before : CompilerNode H}
    (there : h.node? other = some before) : id ≠ other := by
  rintro rfl
  rw [grafted.vacant] at there
  cases there

theorem last (grafted : h.Grafted p id node h') : node.parents.getLast? = some p := by
  obtain ⟨above, -, path⟩ := grafted.above
  rw [path, List.getLast?_concat]

theorem rooted (grafted : h.Grafted p id node h') (linked : h.Linked) {other : Nat}
    {after : CompilerNode H} (there : h'.node? other = some after) :
    after.parents = [] ∨ ∃ q above, h'.node? q = some above ∧
      after.parents = above.parents ++ [q] := by
  rcases grafted.back there with ⟨-, rfl⟩ | ⟨before, present, parents, -⟩
  · obtain ⟨above, found, path⟩ := grafted.above
    obtain ⟨again, now, same⟩ := grafted.kept found
    exact Or.inr ⟨p, again, now, by rw [path, same]⟩
  · rcases linked.rooted present with none_above | ⟨q, higher, highest, own⟩
    · exact Or.inl (parents.trans none_above)
    · obtain ⟨again, now, same⟩ := grafted.kept highest
      exact Or.inr ⟨q, again, now, by rw [parents, own, same]⟩

/-- Nothing is right below the new compiler: its slot was empty. -/
theorem not_below (grafted : h.Grafted p id node h') (linked : h.Linked) {other : Nat}
    {after : CompilerNode H} (there : h'.node? other = some after) :
    after.parents.getLast? ≠ some id := by
  intro last
  rcases grafted.back there with ⟨-, rfl⟩ | ⟨before, was, parents, -⟩
  · obtain ⟨above, found, -⟩ := grafted.above
    exact grafted.ne_of_node? found (Option.some.inj (grafted.last.symm.trans last)).symm
  · obtain ⟨front, long⟩ := List.getLast?_eq_some_iff.mp (parents ▸ last)
    obtain ⟨gone, live, -⟩ := linked.above was long
    exact grafted.ne_of_node? live rfl

theorem listed (grafted : h.Grafted p id node h') (linked : h.Linked) {q : Nat}
    {higher : CompilerNode H} (there : h'.node? q = some higher) (c : Nat) :
    c ∈ higher.children ↔ ∃ below, h'.node? c = some below ∧ below.parents.getLast? = some q := by
  rcases grafted.back there with ⟨rfl, rfl⟩ | ⟨before, present, -, children⟩
  · rw [grafted.childless]
    refine ⟨fun listed => absurd listed List.not_mem_nil, ?_⟩
    rintro ⟨below, now, last⟩
    exact absurd last (grafted.not_below linked now)
  · have grown : c ∈ higher.children ↔ c ∈ before.children ∨ (p = q ∧ c = id) := by
      rw [children]
      split <;> simp_all
    rw [grown, linked.listed present c]
    constructor
    · rintro (⟨below, was, last⟩ | ⟨rfl, rfl⟩)
      · obtain ⟨again, now, same⟩ := grafted.kept was
        exact ⟨again, now, same ▸ last⟩
      · exact ⟨node, grafted.fresh, grafted.last⟩
    · rintro ⟨below, now, last⟩
      rcases grafted.back now with ⟨rfl, rfl⟩ | ⟨past, was, parents, -⟩
      · exact Or.inr ⟨Option.some.inj (grafted.last.symm.trans last), rfl⟩
      · exact Or.inl ⟨past, was, parents ▸ last⟩

theorem once (grafted : h.Grafted p id node h') (linked : h.Linked) {q : Nat}
    {higher : CompilerNode H} (there : h'.node? q = some higher) : higher.children.Nodup := by
  rcases grafted.back there with ⟨-, rfl⟩ | ⟨before, present, -, children⟩
  · exact grafted.childless ▸ List.nodup_nil
  · have unlisted : id ∉ before.children := by
      intro listed
      obtain ⟨below, was, -⟩ := linked.parents_of_listed present listed
      exact grafted.ne_of_node? was rfl
    rw [children]
    split
    · rw [← List.concat_eq_append]
      exact (linked.once present).concat unlisted
    · exact linked.once present

end Grafted

namespace Linked

variable {h : Hierarchy H}

theorem grafted (linked : h.Linked) {p : Nat} {above : CompilerNode H}
    (found : h.node? p = some above) (node : CompilerNode H)
    (path : node.parents = above.parents ++ [p]) (childless : node.children = []) :
    h.Grafted p (h.insert node).1 node ((h.insert node).2.adjust p fun above =>
      { above with children := above.children ++ [(h.insert node).1] }) := by
  have vacant := linked.insert_vacant node
  have at_slot := linked.node?_attach found node
  have old : ∀ {other before}, h.node? other = some before → (h.insert node).1 ≠ other := by
    rintro other before there rfl
    rw [vacant] at there
    cases there
  refine ⟨vacant, by rw [at_slot, if_pos rfl], ⟨above, found, path⟩, childless, ?_, ?_⟩
  · intro other before there
    rw [at_slot, if_neg (old there)]
    by_cases here : p = other
    · subst here
      cases found.symm.trans there
      exact ⟨_, if_pos rfl, rfl⟩
    · exact ⟨before, by rw [if_neg here, there], rfl⟩
  · intro other after there
    rw [at_slot] at there
    split at there
    · rename_i same
      exact Or.inl ⟨same, (Option.some.inj there).symm⟩
    · split at there
      · rename_i here
        subst here
        cases there
        exact Or.inr ⟨above, found, rfl, by rw [if_pos rfl]⟩
      · rename_i here
        exact Or.inr ⟨after, there, rfl, by rw [if_neg here]⟩

/-- A compiler put under another one: the links still agree. -/
theorem attach (linked : h.Linked) {p : Nat} {above : CompilerNode H}
    (found : h.node? p = some above) (node : CompilerNode H)
    (path : node.parents = above.parents ++ [p]) (childless : node.children = []) :
    ((h.insert node).2.adjust p fun above =>
      { above with children := above.children ++ [(h.insert node).1] }).Linked := by
  have grafted := linked.grafted found node path childless
  refine ⟨grafted.rooted linked, grafted.listed linked, grafted.once linked, fun other => ?_, ?_⟩
  · rw [free_adjust, length_adjust, linked.mem_free_insert, linked.lt_length_insert, linked.empty,
      linked.node?_attach found]
    by_cases same : (h.insert node).1 = other
    · simp [same]
    · have different : other ≠ (h.insert node).1 := fun equal => same equal.symm
      by_cases here : p = other
      · subst here
        simp [same, found]
      · simp [same, different, here]
  · rw [free_adjust]
    exact linked.free_insert_nodup node

end Linked

/-! ## A compiler goes -/

/-- A hierarchy without a compiler `id` below which there was nothing: the others keep their paths,
and nowhere is it a child any more. -/
structure Pruned (h : Hierarchy H) (id : Nat) (h' : Hierarchy H) : Prop where
  lowest : ∀ {other below}, h.node? other = some below → below.parents.getLast? ≠ some id
  kept : ∀ {other before}, h.node? other = some before → id ≠ other →
    ∃ after, h'.node? other = some after ∧ after.parents = before.parents
  back : ∀ {other after}, h'.node? other = some after → id ≠ other ∧
    ∃ before, h.node? other = some before ∧ after.parents = before.parents ∧
      after.children = before.children.filter (· ≠ id)

namespace Pruned

variable {h h' : Hierarchy H} {id : Nat}

theorem rooted (pruned : h.Pruned id h') (linked : h.Linked) {other : Nat} {after : CompilerNode H}
    (there : h'.node? other = some after) :
    after.parents = [] ∨ ∃ q above, h'.node? q = some above ∧
      after.parents = above.parents ++ [q] := by
  obtain ⟨-, before, was, parents, -⟩ := pruned.back there
  rcases linked.rooted was with none_above | ⟨q, above, highest, own⟩
  · exact Or.inl (parents.trans none_above)
  · have different : id ≠ q := by
      rintro rfl
      exact pruned.lowest was (by rw [own, List.getLast?_concat])
    obtain ⟨again, now, same⟩ := pruned.kept highest different
    exact Or.inr ⟨q, again, now, by rw [parents, own, same]⟩

theorem listed (pruned : h.Pruned id h') (linked : h.Linked) {q : Nat} {above : CompilerNode H}
    (there : h'.node? q = some above) (c : Nat) :
    c ∈ above.children ↔ ∃ below, h'.node? c = some below ∧ below.parents.getLast? = some q := by
  obtain ⟨-, before, was, -, children⟩ := pruned.back there
  rw [children, List.mem_filter, linked.listed was c]
  constructor
  · rintro ⟨⟨below, present, last⟩, other⟩
    have apart : id ≠ c := fun same => decide_eq_true_iff.mp other same.symm
    obtain ⟨again, now, same⟩ := pruned.kept present apart
    exact ⟨again, now, same ▸ last⟩
  · rintro ⟨below, present, last⟩
    obtain ⟨apart, past, then_, parents, -⟩ := pruned.back present
    exact ⟨⟨past, then_, parents ▸ last⟩, decide_eq_true fun same => apart same.symm⟩

theorem once (pruned : h.Pruned id h') (linked : h.Linked) {q : Nat} {above : CompilerNode H}
    (there : h'.node? q = some above) : above.children.Nodup := by
  obtain ⟨-, before, was, -, children⟩ := pruned.back there
  exact children ▸ (linked.once was).filter _

end Pruned

namespace Linked

variable {h : Hierarchy H}

theorem pruned (linked : h.Linked) {id : Nat} {node : CompilerNode H}
    (found : h.node? id = some node) (childless : node.children = []) :
    h.Pruned id (h.remove id node) := by
  refine ⟨?_, ?_, ?_⟩
  · intro other below there last
    have listed := (linked.listed found other).mpr ⟨below, there, last⟩
    rw [childless] at listed
    cases listed
  · intro other before there different
    rw [node?_remove, if_neg different, there]
    split
    · exact ⟨_, rfl, rfl⟩
    · exact ⟨before, rfl, rfl⟩
  · intro other after there
    rw [node?_remove] at there
    split at there
    · cases there
    · rename_i different
      refine ⟨different, ?_⟩
      split at there
      · obtain ⟨before, was, rfl⟩ := Option.map_eq_some_iff.mp there
        exact ⟨before, was, rfl, rfl⟩
      · rename_i elsewhere
        refine ⟨after, there, rfl, (List.filter_eq_self.mpr fun c listed => ?_).symm⟩
        refine decide_eq_true fun same => elsewhere ?_
        obtain ⟨below, was, last⟩ := (linked.listed there id).mp (same ▸ listed)
        cases found.symm.trans was
        exact last

/-- A compiler without children removed: the links still agree. -/
theorem remove (linked : h.Linked) {id : Nat} {node : CompilerNode H}
    (found : h.node? id = some node) (childless : node.children = []) :
    (h.remove id node).Linked := by
  have pruned := linked.pruned found childless
  refine ⟨pruned.rooted linked, pruned.listed linked, pruned.once linked, fun other => ?_, ?_⟩
  · rw [free_remove, length_remove, List.mem_cons, linked.empty, node?_remove]
    by_cases same : id = other
    · subst same
      simpa using inside_of_node? found
    · have different : other ≠ id := fun equal => same equal.symm
      simp only [same, different, ↓reduceIte, false_or]
      split <;> simp
  · rw [free_remove, List.nodup_cons]
    refine ⟨fun member => ?_, linked.freeOnce⟩
    have vacant := ((linked.empty id).mp member).2
    rw [found] at vacant
    cases vacant

end Linked

end Hierarchy

end RowMapper
