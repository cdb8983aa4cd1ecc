import RowMapper.Proofs.Hierarchy.Caches
/-!
Calls on a hierarchy as what they do one thing after the other: own tables change, effective tables
are overwritten, compilers come and go. No such task takes the last reference to a handler away from
the hierarchy and from the call that does it.
-/

set_option autoImplicit false

namespace RowMapper

variable {H : Type}

/-- A thing that a call does with a hierarchy. -/
inductive Task (H : Type) where
  /-- The own tables of a compiler change. -/
  | change (slot : Nat) (e : Edit H)
  /-- The effective tables of a compiler are overwritten, and then those of its children. -/
  | update (slot : Nat)
  /-- A child comes under a compiler. -/
  | adopt (parent : Nat)
  /-- A handle on a compiler comes. -/
  | count (slot : Nat)
  /-- A handle on a compiler goes. -/
  | discount (slot : Nat)
  /-- A compiler is taken out if nothing needs it, and then those above it. -/
  | vacate (slot : Nat)

/-- What a task leads to: the hierarchy afterwards, what is to be done next, and what the call has
in its hands then: the handlers that own tables were rid of and the compilers that were taken
out. -/
structure Progress (H : Type) where
  hierarchy : Hierarchy H
  next : List (Task H) := []
  replaced : List H := []
  released : List (CompilerNode H) := []

namespace Task

def perform (h : Hierarchy H) : Task H → Progress H
  | .change slot e =>
    { hierarchy := h.adjust slot fun node => { node with own := e.apply node.own }
      replaced := e.replaced (h.ownTables slot) }
  | .update slot =>
    let renewed := h.renew slot
    { hierarchy := renewed, next := (renewed.childrenOf slot).map .update }
  | .adopt parent =>
    let parents := match h.node? parent with
      | some node => node.parents ++ [parent]
      | none => [parent]
    let (id, grown) := h.insert (Hierarchy.freshNode parents)
    { hierarchy := grown.adjust parent fun node => { node with children := node.children ++ [id] }
      next := [.update id] }
  | .count slot =>
    { hierarchy := h.adjust slot fun node => { node with handles := node.handles + 1 } }
  | .discount slot =>
    { hierarchy := h.adjust slot fun node => { node with handles := node.handles - 1 } }
  | .vacate slot =>
    match h.node? slot with
    | none => { hierarchy := h }
    | some node =>
      if node.handles = 0 && node.children.isEmpty then
        { hierarchy := h.remove slot node, next := node.parents.getLast?.toList.map .vacate,
          released := [node] }
      else { hierarchy := h }

theorem perform_vacate_of_none {h : Hierarchy H} {slot : Nat} (vacant : h.node? slot = none) :
    (vacate slot).perform h = ⟨h, [], [], []⟩ := by
  simp only [perform, vacant]

theorem perform_vacate_of_needed {h : Hierarchy H} {slot : Nat} {node : CompilerNode H}
    (found : h.node? slot = some node) (needed : ¬(node.handles = 0 && node.children.isEmpty)) :
    (vacate slot).perform h = ⟨h, [], [], []⟩ := by
  simp only [perform, found, needed, Bool.false_eq_true, ↓reduceIte]

theorem perform_vacate_of_idle {h : Hierarchy H} {slot : Nat} {node : CompilerNode H}
    (found : h.node? slot = some node) (idle : node.handles = 0 && node.children.isEmpty) :
    (vacate slot).perform h =
      ⟨h.remove slot node, node.parents.getLast?.toList.map .vacate, [], [node]⟩ := by
  simp only [perform, found, idle, ↓reduceIte]

/-- A task of a call that has handlers aside is careful: every handler that was in a table is in one
still, or in the hands of the call; what stood in effective tables that are overwritten is in the
own tables of a compiler or aside; and a compiler that leaves its slot comes into the hands of the
call, with its tables. -/
structure Careful (task : Task H) (h : Hierarchy H) (aside : List H) : Prop where
  kept : ∀ handler ∈ h.handlers, handler ∈ (task.perform h).hierarchy.handlers ∨ handler ∈ aside ∨
    handler ∈ (task.perform h).replaced ∨
    handler ∈ (task.perform h).released.flatMap CompilerNode.handlers
  held : ∀ slot, task = .update slot → ∀ handler ∈ (h.effective slot).handlers.values,
    handler ∈ aside ∨ ∃ other node, h.node? other = some node ∧ handler ∈ node.own.handlers.values
  handedOut : ∀ slot node, h.node? slot = some node → (task.perform h).hierarchy.node? slot = none →
    node ∈ (task.perform h).released

namespace Careful

variable {h : Hierarchy H} {aside : List H}

/-- A task that overwrites nothing and leaves every compiler there with its tables is careful. -/
theorem of_alike {task : Task H} (writes : ∀ slot, task ≠ .update slot)
    (alike : ∀ slot node, h.node? slot = some node →
      ∃ after, (task.perform h).hierarchy.node? slot = some after ∧ node.Alike after) :
      task.Careful h aside := by
  constructor
  case kept =>
    intro handler member
    obtain ⟨slot, node, found, there⟩ := Hierarchy.mem_handlers.mp member
    obtain ⟨after, now, same⟩ := alike slot node found
    exact Or.inl (Hierarchy.mem_handlers.mpr ⟨slot, after, now, same.handlers_eq ▸ there⟩)
  case held => exact fun slot same => absurd same (writes slot)
  case handedOut =>
    intro slot node found gone
    obtain ⟨after, now, -⟩ := alike slot node found
    cases gone.symm.trans now

/-- What a change does to a compiler but for its tables is no matter. -/
theorem of_adjust {task : Task H} (writes : ∀ slot, task ≠ .update slot) {slot : Nat}
    {f : CompilerNode H → CompilerNode H} (performed : (task.perform h).hierarchy = h.adjust slot f)
    (tables : ∀ node : CompilerNode H, node.Alike (f node)) : task.Careful h aside := by
  refine of_alike writes fun other node found => ?_
  rw [performed, Hierarchy.node?_adjust, found]
  split
  · exact ⟨f node, rfl, tables node⟩
  · exact ⟨node, rfl, rfl, rfl, rfl⟩

theorem count (slot : Nat) : (Task.count slot).Careful h aside :=
  of_adjust (fun _ => nofun) rfl fun _ => ⟨rfl, rfl, rfl⟩

theorem discount (slot : Nat) : (Task.discount slot).Careful h aside :=
  of_adjust (fun _ => nofun) rfl fun _ => ⟨rfl, rfl, rfl⟩

theorem adopt (linked : h.Linked) {parent : Nat} {above : CompilerNode H}
    (found : h.node? parent = some above) :
    (Task.adopt parent).Careful h aside := by
  refine of_alike (fun _ => nofun) fun slot node there => ?_
  have vacant := linked.insert_vacant (Hierarchy.freshNode (above.parents ++ [parent]))
  have apart : (h.insert (Hierarchy.freshNode (above.parents ++ [parent]))).1 ≠ slot := by
    rintro rfl
    cases vacant.symm.trans there
  simp only [perform, found, linked.node?_attach found, if_neg apart]
  split
  · rename_i here
    subst here
    cases found.symm.trans there
    exact ⟨_, rfl, rfl, rfl, rfl⟩
  · exact ⟨node, there, rfl, rfl, rfl⟩

/-- What a change puts out of own tables comes into the hands of the call; effective tables stay. -/
theorem change (slot : Nat) (e : Edit H) : (Task.change slot e).Careful h aside := by
  have at_slot := fun other => Hierarchy.node?_adjust h slot other fun node =>
    { node with own := e.apply node.own }
  constructor
  case kept =>
    intro handler member
    obtain ⟨other, node, found, there⟩ := Hierarchy.mem_handlers.mp member
    by_cases here : slot = other
    · subst here
      have now := at_slot slot
      rw [if_pos rfl, found, Option.map_some] at now
      have stays : handler ∈ e.replaced node.own ∨ handler ∈ (e.apply node.own).handlers.values ++
          node.effective.handlers.values := by
        rcases List.mem_append.mp there with own | effective
        · exact (e.mem_replaced_or_apply own).imp id (List.mem_append_left _)
        · exact Or.inr (List.mem_append_right _ effective)
      rcases stays with gone | stays
      · rw [← Hierarchy.ownTables_eq found] at gone
        exact Or.inr (Or.inr (Or.inl gone))
      · exact Or.inl (Hierarchy.mem_handlers.mpr ⟨slot, _, now, stays⟩)
    · have now := at_slot other
      rw [if_neg here, found] at now
      exact Or.inl (Hierarchy.mem_handlers.mpr ⟨other, node, now, there⟩)
  case held => exact fun _ => nofun
  case handedOut =>
    intro other node found gone
    rw [perform, at_slot, found] at gone
    split at gone <;> cases gone

/-- Effective tables may be overwritten where what they hold is in own tables or aside. -/
theorem update (covered : h.Covered aside) (slot : Nat) : (Task.update slot).Careful h aside := by
  have at_slot : ∀ other, (h.renew slot).node? other = _ := fun other => Hierarchy.node?_adjust ..
  have entries : (h.renew slot).entries = h.entries := Hierarchy.entries_adjust _ _ _ fun _ => rfl
  constructor
  case kept =>
    intro handler member
    have stays : handler ∈ h.entries → handler ∈ (h.renew slot).handlers :=
      fun own => Hierarchy.mem_handlers_of_mem_entries (entries ▸ own)
    obtain ⟨other, node, found, there⟩ := Hierarchy.mem_handlers.mp member
    rcases List.mem_append.mp there with own | effective
    · exact Or.inl (stays (Hierarchy.mem_entries.mpr ⟨other, node, found, own⟩))
    · rcases covered other node found handler effective with given | own
      · exact Or.inr (Or.inl given)
      · exact Or.inl (stays own)
  case held =>
    intro other same handler member
    cases same
    cases found : h.node? slot with
    | none =>
      rw [Hierarchy.effective, found] at member
      cases member
    | some node =>
      rw [Hierarchy.effective, found] at member
      exact (covered slot node found handler member).imp id Hierarchy.mem_entries.mp
  case handedOut =>
    intro other node found gone
    change (h.renew slot).node? other = none at gone
    rw [at_slot, found] at gone
    split at gone <;> cases gone

/-- A compiler that is taken out takes its tables along. -/
theorem vacate (slot : Nat) : (Task.vacate slot).Careful h aside := by
  cases found : h.node? slot with
  | none =>
    refine of_alike (fun _ => nofun) fun other node there => ⟨node, ?_, rfl, rfl, rfl⟩
    rwa [perform_vacate_of_none found]
  | some node =>
    by_cases idle : node.handles = 0 && node.children.isEmpty
    · have performed := perform_vacate_of_idle found idle
      have stays : ∀ {other before}, h.node? other = some before → other ≠ slot →
          ∃ after, (h.remove slot node).node? other = some after ∧ before.Alike after := by
        intro other before there different
        rw [Hierarchy.node?_remove, if_neg (Ne.symm different), there]
        split
        · exact ⟨_, rfl, rfl, rfl, rfl⟩
        · exact ⟨before, rfl, rfl, rfl, rfl⟩
      constructor
      case kept =>
        intro handler member
        rw [performed]
        obtain ⟨other, before, there, tables⟩ := Hierarchy.mem_handlers.mp member
        by_cases here : other = slot
        · subst here
          cases found.symm.trans there
          simp only [List.flatMap_singleton, tables, or_true]
        · obtain ⟨after, now, same⟩ := stays there here
          exact Or.inl (Hierarchy.mem_handlers.mpr ⟨other, after, now, same.handlers_eq ▸ tables⟩)
      case held => exact fun _ => nofun
      case handedOut =>
        intro other before there gone
        rw [performed] at gone ⊢
        by_cases here : other = slot
        · subst here
          cases found.symm.trans there
          exact List.mem_cons_self
        · obtain ⟨after, now, -⟩ := stays there here
          cases gone.symm.trans now
    · refine of_alike (fun _ => nofun) fun other before there => ⟨before, ?_, rfl, rfl, rfl⟩
      rwa [perform_vacate_of_needed found idle]

end Careful

end Task

end RowMapper
