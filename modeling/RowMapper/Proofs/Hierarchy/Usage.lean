import RowMapper.Proofs.Hierarchy.Refresh
/-!
A hierarchy in use: a program creates children, clones and drops handles and changes tables, in any
order, on any compiler that it has a handle on. After every call the links of the hierarchy agree,
every compiler counts its handles, and it is there as long as a handle or a child of it is.
-/

set_option autoImplicit false

namespace RowMapper

/-- A change of the own tables of a compiler. -/
inductive Edit (H : Type) where
  | register (tags : List Tag) (handler : H)
  | setPrecedence (precedence : Int) (tags : List Tag)
  | markWords (reserved : Bool) (words : List String)

namespace Edit

variable {H : Type}

def apply : Edit H → Tables H → Tables H
  | .register tags handler, t => t.register tags handler
  | .setPrecedence precedence tags, t => t.setPrecedence precedence tags
  | .markWords reserved words, t => t.markWords reserved words

def perform (h : Hierarchy H) (id : Nat) : Edit H → Hierarchy H
  | .register tags handler => (h.register id tags handler).2
  | .setPrecedence precedence tags => h.setPrecedence id precedence tags
  | .markWords reserved words => h.markWords id reserved words

theorem perform_eq (e : Edit H) (h : Hierarchy H) (id : Nat) :
    e.perform h id = h.edit id e.apply := by
  cases e <;> rfl

end Edit

/-- What a program does with a handle on a compiler. -/
inductive Call (H : Type) where
  | createChild
  | clone
  | drop
  | edit (e : Edit H)

/-- What has happened in a hierarchy: a compiler came, under another one, or its own tables
changed. -/
inductive Event (H : Type) where
  | created (id parent : Nat)
  | edited (id : Nat) (e : Edit H)

/-- The compilers that came, each with the one above it. -/
def births {H : Type} : List (Event H) → List (Nat × Nat)
  | [] => []
  | .created id parent :: earlier => (id, parent) :: births earlier
  | .edited _ _ :: earlier => births earlier

/-- The path from a compiler up to the root. What came into a slot last is what is there; the one
above it had come before. -/
def pathUp : List (Nat × Nat) → Nat → List Nat
  | [], id => [id]
  | (child, parent) :: earlier, id =>
    if child = id then id :: pathUp earlier parent else pathUp earlier id

/-- A hierarchy in use, with the slots on whose compilers handles are outstanding, once for each
handle, and with what has happened, the latest first. -/
structure Usage (H : Type) where
  hierarchy : Hierarchy H
  held : List Nat
  past : List (Event H)

namespace Usage

variable {H : Type}

def call (u : Usage H) (id : Nat) : Call H → Usage H
  | .createChild =>
    let (child, h) := u.hierarchy.createChild id
    ⟨h, child :: u.held, .created child id :: u.past⟩
  | .clone => ⟨u.hierarchy.addHandle id, id :: u.held, u.past⟩
  | .drop => ⟨(u.hierarchy.release id).2, u.held.erase id, u.past⟩
  | .edit e => ⟨e.perform u.hierarchy id, u.held, .edited id e :: u.past⟩

/-- What calls on outstanding handles lead to from a new root with one handle on it. -/
inductive Reachable : Usage H → Prop
  | root : Reachable ⟨.root, [0], []⟩
  | call {u : Usage H} {id : Nat} (c : Call H) (reached : Reachable u) (outstanding : id ∈ u.held) :
      Reachable (u.call id c)

end Usage

/-- A handle or a child of the compiler is left. -/
def CompilerNode.IsNeeded {H : Type} (node : CompilerNode H) : Prop :=
  0 < node.handles ∨ node.children ≠ []

namespace Hierarchy

variable {H : Type}

/-- What every compiler left in a hierarchy has in common with what it was before: all but its
children. -/
def Remains (h h' : Hierarchy H) : Prop :=
  ∀ {id node'}, h'.node? id = some node' →
    ∃ node, h.node? id = some node ∧ node' = { node with children := node'.children }

theorem Remains.refl (h : Hierarchy H) : h.Remains h := fun {_ node} found => ⟨node, found, rfl⟩

theorem Remains.trans {h h' h'' : Hierarchy H} (first : h.Remains h') (second : h'.Remains h'') :
    h.Remains h'' := by
  intro id node'' found
  obtain ⟨node', there, last⟩ := second found
  obtain ⟨node, before, same⟩ := first there
  exact ⟨node, before, by rw [last, same]⟩

theorem remains_remove (h : Hierarchy H) (id : Nat) (node : CompilerNode H) :
    h.Remains (h.remove id node) := by
  intro other node' found
  rw [node?_remove] at found
  split at found
  · cases found
  · split at found
    · obtain ⟨before, there, rfl⟩ := Option.map_eq_some_iff.mp found
      exact ⟨before, there, rfl⟩
    · exact ⟨node', found, rfl⟩

/-- What removing a compiler without handles and children keeps, going up and removing keeps. -/
theorem vacate_keeps (holds : Hierarchy H → Prop) (id : Nat) (h : Hierarchy H) (before : holds h)
    (keeps : ∀ (h : Hierarchy H) (id : Nat) (node : CompilerNode H), holds h →
      h.node? id = some node → node.handles = 0 → node.children = [] → holds (h.remove id node)) :
      holds (h.vacate id).2 := by
  fun_induction vacate h id with
  | case1 h id vacant => exact before
  | case2 h id node found idle highest =>
    simp only [Bool.and_eq_true, decide_eq_true_eq, List.isEmpty_iff] at idle
    exact keeps h id node before found idle.1 idle.2
  | case3 h id node found idle parent last left after above ih =>
    simp only [Bool.and_eq_true, decide_eq_true_eq, List.isEmpty_iff] at idle
    rw [above] at ih
    exact ih (keeps h id node before found idle.1 idle.2)
  | case4 h id node found used => exact before

theorem Linked.vacate {h : Hierarchy H} (linked : h.Linked) (id : Nat) : (h.vacate id).2.Linked :=
  vacate_keeps Linked id h linked fun _ _ _ before found _ childless =>
    before.remove found childless

theorem remains_vacate (h : Hierarchy H) (id : Nat) : h.Remains (h.vacate id).2 :=
  vacate_keeps (fun g => h.Remains g) id h (Remains.refl h) fun g other node before _ _ _ =>
    before.trans (remains_remove g other node)

/-- A compiler with handles stays. -/
theorem stays_vacate (h : Hierarchy H) (id : Nat) {other : Nat} {node : CompilerNode H}
    (found : h.node? other = some node) (used : 0 < node.handles) :
    ∃ after, (h.vacate id).2.node? other = some after := by
  have kept := vacate_keeps (fun g => ∃ after, g.node? other = some after ∧ 0 < after.handles) id h
    ⟨node, found, used⟩ (by
      rintro g gone leaving ⟨after, there, still⟩ present idle -
      have different : gone ≠ other := by
        rintro rfl
        cases there.symm.trans present
        omega
      rw [node?_remove, if_neg different, there]
      split
      · exact ⟨_, rfl, still⟩
      · exact ⟨after, rfl, still⟩)
  obtain ⟨after, there, -⟩ := kept
  exact ⟨after, there⟩

/-- Going up from the only compiler that may be left without a use ends with none. -/
theorem needed_vacate (h : Hierarchy H) (id : Nat)
    (others : ∀ {other node}, h.node? other = some node → other ≠ id → node.IsNeeded) :
    ∀ {other node}, (h.vacate id).2.node? other = some node → node.IsNeeded := by
  fun_induction vacate h id with
  | case1 h id vacant =>
    intro other node there
    refine others there ?_
    rintro rfl
    cases vacant.symm.trans there
  | case2 h id node found idle highest =>
    intro other after there
    rw [node?_remove, highest] at there
    split at there
    · cases there
    · rename_i different
      exact others (by simpa using there) (fun same => different same.symm)
  | case3 h id node found idle parent last left after above ih =>
    rw [above] at ih
    intro other remaining there
    refine ih ?_ there
    intro other remaining there elsewhere
    rw [node?_remove, last] at there
    split at there
    · cases there
    · rename_i different
      rw [if_neg (fun same => elsewhere (Option.some.inj same).symm)] at there
      exact others there (fun same => different same.symm)
  | case4 h id node found used =>
    intro other after there
    by_cases here : other = id
    · subst here
      cases found.symm.trans there
      simpa [CompilerNode.IsNeeded, Nat.pos_iff_ne_zero, imp_iff_not_or] using used
    · exact others there here

/-! ## A child -/

theorem createChild_eq {h : Hierarchy H} {p : Nat} {above : CompilerNode H}
    (found : h.node? p = some above) :
    h.createChild p =
      let fresh : CompilerNode H := freshNode (above.parents ++ [p])
      ((h.insert fresh).1, ((h.insert fresh).2.adjust p fun above =>
        { above with children := above.children ++ [(h.insert fresh).1] }).refresh
          (h.insert fresh).1) := by
  simp only [createChild, found]

theorem Linked.createChild {h : Hierarchy H} (linked : h.Linked) {p : Nat} {above : CompilerNode H}
    (found : h.node? p = some above) : (h.createChild p).2.Linked := by
  rw [createChild_eq found]
  exact (linked.attach found (freshNode (above.parents ++ [p])) rfl rfl).refresh _

theorem vacant_createChild {h : Hierarchy H} (linked : h.Linked) {p : Nat} {above : CompilerNode H}
    (found : h.node? p = some above) : h.node? (h.createChild p).1 = none := by
  rw [createChild_eq found]
  exact linked.insert_vacant _

/-- A new child has one handle, no tables of its own and the tables merged along its path. The
compiler above it lists it behind its other children, and nothing else changes. -/
theorem node?_createChild {h : Hierarchy H} (linked : h.Linked) {p : Nat} {above : CompilerNode H}
    (found : h.node? p = some above) (other : Nat) :
    (h.createChild p).2.node? other =
      if (h.createChild p).1 = other then
        some { freshNode (above.parents ++ [p]) with
          effective := (h.createChild p).2.mergedTables other (freshNode (above.parents ++ [p])) }
      else if p = other then some { above with children := above.children ++ [(h.createChild p).1] }
      else h.node? other := by
  have vacant := linked.insert_vacant (freshNode (above.parents ++ [p]))
  have attached := linked.attach found (freshNode (above.parents ++ [p])) rfl rfl
  have at_slot := linked.node?_attach found (freshNode (above.parents ++ [p]))
  -- an empty slot is on no path
  have apart : ∀ {id : Nat} {node : CompilerNode H}, h.node? id = some node →
      (h.insert (freshNode (above.parents ++ [p]))).1 ∉ node.parents := by
    intro id node there onPath
    obtain ⟨highest, -, -, present, -, -⟩ := linked.above_of_mem there onPath
    cases vacant.symm.trans present
  rw [createChild_eq found]
  simp only [attached.node?_refresh, mergedTables_refresh]
  rw [at_slot]
  split
  · rename_i here
    simp only [here, Option.map_some, true_or, ↓reduceIte]
  · rename_i different
    have elsewhere : other ≠ (h.insert (freshNode (above.parents ++ [p]))).1 :=
      fun same => different same.symm
    split
    · simp only [Option.map_some, elsewhere, apart found, or_self, ↓reduceIte]
    · cases there : h.node? other with
      | none => rfl
      | some node => simp only [Option.map_some, elsewhere, apart there, or_self, ↓reduceIte]

theorem Linked.createChild_ne {h : Hierarchy H} (linked : h.Linked) {p id : Nat}
    {above node : CompilerNode H} (found : h.node? p = some above)
    (there : h.node? id = some node) : (h.createChild p).1 ≠ id := by
  rintro rfl
  cases (vacant_createChild linked found).symm.trans there

/-- Behind the making of a child, a compiler is the child, the one above it, or as it was. -/
theorem Linked.cases_createChild {h : Hierarchy H} (linked : h.Linked) {p : Nat}
    {above : CompilerNode H} (found : h.node? p = some above) {id : Nat} {node : CompilerNode H}
    (there : (h.createChild p).2.node? id = some node) :
    ((h.createChild p).1 = id ∧ node = { freshNode (above.parents ++ [p]) with
      effective := (h.createChild p).2.mergedTables id (freshNode (above.parents ++ [p])) }) ∨
    (p = id ∧ node = { above with children := above.children ++ [(h.createChild p).1] }) ∨
    h.node? id = some node := by
  rw [node?_createChild linked found] at there
  split at there
  · rename_i new
    exact Or.inl ⟨new, (Option.some.inj there).symm⟩
  · split at there
    · rename_i parent
      exact Or.inr (Or.inl ⟨parent, (Option.some.inj there).symm⟩)
    · exact Or.inr (Or.inr there)

theorem Linked.stays_createChild {h : Hierarchy H} (linked : h.Linked) {p id : Nat}
    {above node : CompilerNode H} (found : h.node? p = some above)
    (there : h.node? id = some node) : ∃ node, (h.createChild p).2.node? id = some node := by
  rw [node?_createChild linked found, if_neg (linked.createChild_ne found there), there]
  split
  · exact ⟨_, rfl⟩
  · exact ⟨_, rfl⟩

/-! ## A change of tables -/

theorem Linked.edit {h : Hierarchy H} (linked : h.Linked) (id : Nat) (f : Tables H → Tables H) :
    (h.edit id f).Linked :=
  have adjusted : (h.adjust id fun node => { node with own := f node.own }).Linked :=
    linked.adjust id fun _ => rfl
  adjusted.refresh id

/-- A change of tables changes the own tables of one compiler, and renews those in effect on it and
on all with it on their path. -/
theorem node?_edit {h : Hierarchy H} (linked : h.Linked) (id other : Nat)
    (f : Tables H → Tables H) :
    (h.edit id f).node? other = (h.node? other).map fun node =>
      if other = id then
        { node with own := f node.own, effective := (h.edit id f).mergedTables other node }
      else if id ∈ node.parents then
        { node with effective := (h.edit id f).mergedTables other node }
      else node := by
  have adjusted : (h.adjust id fun node => { node with own := f node.own }).Linked :=
    linked.adjust id fun _ => rfl
  rw [edit, adjusted.node?_refresh, mergedTables_refresh, node?_adjust]
  cases found : h.node? other with
  | none => simp
  | some node =>
    by_cases here : id = other
    · subst here
      simp only [↓reduceIte, Option.map_some, true_or]
      rfl
    · have elsewhere : other ≠ id := fun same => here same.symm
      simp only [here, elsewhere, ↓reduceIte, Option.map_some, false_or]

/-! ## A new root -/

theorem eq_of_node?_root {id : Nat} {node : CompilerNode H}
    (found : (root : Hierarchy H).node? id = some node) : id = 0 ∧ node = freshNode [] := by
  cases id with
  | zero => exact ⟨rfl, (Option.some.inj found).symm⟩
  | succ id => cases found

theorem Linked.root : (root : Hierarchy H).Linked where
  rooted := by
    intro id node found
    rw [(eq_of_node?_root found).2]
    exact Or.inl rfl
  listed := by
    intro p above found c
    obtain ⟨rfl, rfl⟩ := eq_of_node?_root found
    refine ⟨nofun, fun ⟨below, there, last⟩ => ?_⟩
    rw [(eq_of_node?_root there).2] at last
    cases last
  once := by
    intro p above found
    rw [(eq_of_node?_root found).2]
    exact List.nodup_nil
  empty := by
    intro id
    refine ⟨nofun, fun ⟨inside, vacant⟩ => ?_⟩
    cases Nat.lt_one_iff.mp inside
    cases vacant
  freeOnce := List.nodup_nil

end Hierarchy

namespace Usage

variable {H : Type}

/-- A hierarchy in use is sound: its links agree, every compiler counts the outstanding handles on
it, there is a compiler for each of them, and none without a use. -/
structure Sound (u : Usage H) : Prop where
  linked : u.hierarchy.Linked
  counted : ∀ {id node}, u.hierarchy.node? id = some node → node.handles = u.held.count id
  live : ∀ {id}, id ∈ u.held → ∃ node, u.hierarchy.node? id = some node
  needed : ∀ {id node}, u.hierarchy.node? id = some node → node.IsNeeded

namespace Sound

variable {u : Usage H}

theorem root : (⟨.root, [0], []⟩ : Usage H).Sound where
  linked := .root
  counted := by
    intro id node found
    obtain ⟨rfl, rfl⟩ := Hierarchy.eq_of_node?_root found
    rfl
  live := by
    intro id member
    cases List.mem_singleton.mp member
    exact ⟨_, rfl⟩
  needed := by
    intro id node found
    rw [(Hierarchy.eq_of_node?_root found).2]
    exact Or.inl Nat.one_pos

theorem createChild (sound : u.Sound) {id : Nat} (outstanding : id ∈ u.held) :
    (u.call id .createChild).Sound := by
  obtain ⟨above, found⟩ := sound.live outstanding
  have linked := sound.linked
  have new_ne : ∀ {other node}, u.hierarchy.node? other = some node →
      (u.hierarchy.createChild id).1 ≠ other := linked.createChild_ne found
  have unheld : (u.hierarchy.createChild id).1 ∉ u.held := by
    intro member
    obtain ⟨node, there⟩ := sound.live member
    exact new_ne there rfl
  constructor
  case linked => exact linked.createChild found
  case counted =>
    intro other node there
    change node.handles = ((u.hierarchy.createChild id).1 :: u.held).count other
    rcases linked.cases_createChild found there with ⟨rfl, rfl⟩ | ⟨rfl, rfl⟩ | was
    · rw [List.count_cons_self, List.count_eq_zero_of_not_mem unheld]
      rfl
    · rw [List.count_cons_of_ne (new_ne found), ← sound.counted found]
    · rw [List.count_cons_of_ne (new_ne was)]
      exact sound.counted was
  case live =>
    intro other member
    rcases List.mem_cons.mp member with rfl | earlier
    · exact ⟨_, (Hierarchy.node?_createChild linked found _).trans (if_pos rfl)⟩
    · obtain ⟨node, was⟩ := sound.live earlier
      exact linked.stays_createChild found was
  case needed =>
    intro other node there
    rcases linked.cases_createChild found there with ⟨-, rfl⟩ | ⟨-, rfl⟩ | was
    · exact Or.inl Nat.one_pos
    · exact Or.inr (List.concat_ne_nil _ _)
    · exact sound.needed was

theorem clone (sound : u.Sound) {id : Nat} (outstanding : id ∈ u.held) :
    (u.call id .clone).Sound := by
  have at_slot := fun other => Hierarchy.node?_adjust u.hierarchy id other
    fun node => { node with handles := node.handles + 1 }
  constructor
  case linked =>
    exact sound.linked.adjust id fun _ => rfl
  case counted =>
    intro other node there
    change (u.hierarchy.addHandle id).node? other = some node at there
    change node.handles = (id :: u.held).count other
    rw [Hierarchy.addHandle, at_slot] at there
    split at there
    · rename_i here
      subst here
      obtain ⟨before, was, rfl⟩ := Option.map_eq_some_iff.mp there
      rw [List.count_cons_self, ← sound.counted was]
    · rename_i different
      rw [List.count_cons_of_ne different, sound.counted there]
  case live =>
    intro other member
    change ∃ node, (u.hierarchy.addHandle id).node? other = some node
    have held : other ∈ u.held := by
      rcases List.mem_cons.mp member with rfl | member
      · exact outstanding
      · exact member
    obtain ⟨node, found⟩ := sound.live held
    rw [Hierarchy.addHandle, at_slot, found]
    split
    · exact ⟨_, rfl⟩
    · exact ⟨_, rfl⟩
  case needed =>
    intro other node there
    change (u.hierarchy.addHandle id).node? other = some node at there
    rw [Hierarchy.addHandle, at_slot] at there
    split at there
    · obtain ⟨before, was, rfl⟩ := Option.map_eq_some_iff.mp there
      exact Or.inl (Nat.succ_pos _)
    · exact sound.needed there

theorem edit (sound : u.Sound) (id : Nat) (e : Edit H) : (u.call id (.edit e)).Sound := by
  have at_slot := fun other => Hierarchy.node?_edit sound.linked id other e.apply
  have back : ∀ {other : Nat} {node : CompilerNode H},
      (e.perform u.hierarchy id).node? other = some node → ∃ before,
        u.hierarchy.node? other = some before ∧ node.handles = before.handles ∧
        node.children = before.children := by
    intro other node there
    rw [e.perform_eq, at_slot] at there
    obtain ⟨before, was, rfl⟩ := Option.map_eq_some_iff.mp there
    refine ⟨before, was, ?_, ?_⟩ <;> split <;> (try split) <;> rfl
  constructor
  case linked =>
    change (e.perform u.hierarchy id).Linked
    exact e.perform_eq u.hierarchy id ▸ sound.linked.edit id e.apply
  case counted =>
    intro other node there
    obtain ⟨before, was, handles, -⟩ := back there
    exact handles.trans (sound.counted was)
  case live =>
    intro other member
    obtain ⟨node, found⟩ := sound.live member
    change ∃ node, (e.perform u.hierarchy id).node? other = some node
    rw [e.perform_eq, at_slot, found]
    exact ⟨_, rfl⟩
  case needed =>
    intro other node there
    obtain ⟨before, was, handles, children⟩ := back there
    have need := sound.needed was
    rwa [CompilerNode.IsNeeded, ← handles, ← children] at need

theorem drop (sound : u.Sound) (id : Nat) : (u.call id .drop).Sound := by
  let dropped := u.hierarchy.adjust id fun node => { node with handles := node.handles - 1 }
  have at_slot : ∀ other, dropped.node? other =
      if id = other then (u.hierarchy.node? other).map fun node =>
      { node with handles := node.handles - 1 } else u.hierarchy.node? other :=
    fun other => Hierarchy.node?_adjust ..
  have counted : ∀ {other : Nat} {node : CompilerNode H}, dropped.node? other = some node →
      node.handles = (u.held.erase id).count other := by
    intro other node there
    rw [at_slot] at there
    split at there
    · rename_i here
      subst here
      obtain ⟨before, was, rfl⟩ := Option.map_eq_some_iff.mp there
      rw [List.count_erase_self, ← sound.counted was]
    · rename_i different
      rw [List.count_erase_of_ne fun same => different same.symm, sound.counted there]
  constructor
  case linked =>
    have linked : dropped.Linked := sound.linked.adjust id fun _ => rfl
    exact linked.vacate id
  case counted =>
    intro other node there
    obtain ⟨before, was, same⟩ := Hierarchy.remains_vacate dropped id there
    rw [same]
    change before.handles = _
    exact counted was
  case live =>
    intro other member
    obtain ⟨node, found⟩ := sound.live (List.mem_of_mem_erase member)
    have there : ∃ node, dropped.node? other = some node := by
      rw [at_slot, found]
      split
      · exact ⟨_, rfl⟩
      · exact ⟨_, rfl⟩
    obtain ⟨node, found⟩ := there
    have used : 0 < node.handles := counted found ▸ List.count_pos_iff.mpr member
    exact Hierarchy.stays_vacate dropped id found used
  case needed =>
    apply Hierarchy.needed_vacate dropped id
    intro other node there elsewhere
    rw [at_slot, if_neg fun same => elsewhere same.symm] at there
    exact sound.needed there

theorem call (sound : u.Sound) {id : Nat} (outstanding : id ∈ u.held) (c : Call H) :
    (u.call id c).Sound := by
  cases c with
  | createChild => exact sound.createChild outstanding
  | clone => exact sound.clone outstanding
  | drop => exact sound.drop id
  | edit e => exact sound.edit id e

end Sound

/-- Whatever calls are made on outstanding handles, the hierarchy stays sound. -/
theorem Reachable.sound {u : Usage H} (reached : u.Reachable) : u.Sound := by
  induction reached with
  | root => exact Sound.root
  | call c _ outstanding ih => exact ih.call outstanding c

end Usage

end RowMapper
