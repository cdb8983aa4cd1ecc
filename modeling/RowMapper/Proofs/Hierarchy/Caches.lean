import RowMapper.Proofs.Hierarchy.Entries
import RowMapper.Proofs.Hierarchy.Inheritance
/-!
Handlers in caches. The effective tables of a compiler refer to handlers as its own tables do, and
they are merged from own tables; so between calls a handler that stands anywhere stands in the own
tables of a compiler. While tables change, a handler in effective tables that are out of date is in
own tables or among those that the change has put out.
-/

set_option autoImplicit false

namespace RowMapper

theorem Dict.mem_values_insert {κ ν : Type} [DecidableEq κ] {d : Dict κ ν} {key : κ} {value v : ν}
    (member : v ∈ (d.insert key value).values) : v = value ∨ v ∈ d.values :=
  List.mem_cons.mp ((d.values_insert_perm key value).mem_iff.mp (List.mem_append_right _ member))

theorem Dict.mem_values_extend {κ ν : Type} [DecidableEq κ] {d other : Dict κ ν} {v : ν}
    (member : v ∈ (d.extend other).values) : v ∈ d.values ∨ v ∈ other.values := by
  obtain ⟨entries, distinct⟩ := other
  simp only [extend, values] at member ⊢
  clear distinct
  induction entries generalizing d with
  | nil => exact Or.inl member
  | cons entry rest ih =>
    rcases ih member with before | later
    · rcases mem_values_insert before with rfl | earlier
      · exact Or.inr List.mem_cons_self
      · exact Or.inl earlier
    · exact Or.inr (List.mem_cons_of_mem _ later)

variable {H : Type}

theorem Tables.mem_handlers_merge {path : List (Tables H)} {handler : H}
    (member : handler ∈ (merge path).handlers.values) :
    ∃ t ∈ path, handler ∈ t.handlers.values := by
  induction path using List.reverseRecOn with
  | nil => cases member
  | append_singleton path last ih =>
    rw [merge, List.foldl_append, List.foldl_cons, List.foldl_nil, extend] at member
    rcases Dict.mem_values_extend member with before | own
    · obtain ⟨t, onPath, there⟩ := ih before
      exact ⟨t, List.mem_append_left _ onPath, there⟩
    · exact ⟨last, List.mem_append_right _ List.mem_cons_self, own⟩

/-- The handlers that a change puts out of tables. -/
def Edit.replaced : Edit H → Tables H → List H
  | .register tags handler, t => Tables.replaced t.handlers handler tags
  | .setPrecedence .., _ | .markWords .., _ => []

/-- A handler in tables is put out by a change or stays. -/
theorem Edit.mem_replaced_or_apply (e : Edit H) {t : Tables H} {handler : H}
    (member : handler ∈ t.handlers.values) :
    handler ∈ e.replaced t ∨ handler ∈ (e.apply t).handlers.values := by
  cases e with
  | register tags other =>
    have exchanged := t.values_register_perm tags other
    exact List.mem_append.mp (exchanged.mem_iff.mpr (List.mem_append_right _ member))
  | setPrecedence precedence tags => exact Or.inr member
  | markWords reserved words => exact Or.inr member

/-- The handlers in the tables of a compiler, its own and those in effect. -/
def CompilerNode.handlers (node : CompilerNode H) : List H :=
  node.own.handlers.values ++ node.effective.handlers.values

theorem CompilerNode.Alike.handlers_eq {a b : CompilerNode H} (same : a.Alike b) :
    a.handlers = b.handlers := by
  rw [handlers, handlers, same.own, same.effective]

namespace Hierarchy

def handlersIn : Option (CompilerNode H) → List H
  | some node => node.handlers
  | none => []

/-- The handlers in all tables of the compilers. -/
def handlers (h : Hierarchy H) : List H := h.slots.flatMap handlersIn

theorem mem_slots_flatMap (g : Option (CompilerNode H) → List H) (bare : g none = [])
    (h : Hierarchy H) (handler : H) :
    handler ∈ h.slots.flatMap g ↔
      ∃ slot node, h.node? slot = some node ∧ handler ∈ g (some node) := by
  rw [List.mem_flatMap]
  constructor
  · rintro ⟨occupant, there, member⟩
    obtain ⟨slot, found⟩ := List.mem_iff_getElem?.mp there
    cases occupant with
    | none => simp [bare] at member
    | some node => exact ⟨slot, node, by rw [node?, found, Option.join_some], member⟩
  · rintro ⟨slot, node, found, member⟩
    exact ⟨some node, List.mem_of_getElem? (occupied_of_node? found), member⟩

theorem mem_entries {h : Hierarchy H} {handler : H} :
    handler ∈ h.entries ↔ ∃ slot node, h.node? slot = some node ∧
      handler ∈ node.own.handlers.values :=
  mem_slots_flatMap entriesIn rfl h handler

theorem mem_handlers {h : Hierarchy H} {handler : H} :
    handler ∈ h.handlers ↔ ∃ slot node, h.node? slot = some node ∧ handler ∈ node.handlers :=
  mem_slots_flatMap handlersIn rfl h handler

theorem mem_handlers_of_mem_entries {h : Hierarchy H} {handler : H} (member : handler ∈ h.entries) :
    handler ∈ h.handlers := by
  obtain ⟨slot, node, found, own⟩ := mem_entries.mp member
  exact mem_handlers.mpr ⟨slot, node, found, List.mem_append_left _ own⟩

theorem mem_entries_of_mem_mergedTables {h : Hierarchy H} {id : Nat} {node : CompilerNode H}
    {handler : H} (member : handler ∈ (h.mergedTables id node).handlers.values) :
    handler ∈ h.entries := by
  obtain ⟨t, onPath, there⟩ := Tables.mem_handlers_merge member
  obtain ⟨p, -, rfl⟩ := List.mem_map.mp onPath
  cases found : h.node? p with
  | none =>
    rw [ownTables, found] at there
    cases there
  | some above => exact mem_entries.mpr ⟨p, above, found, ownTables_eq found ▸ there⟩

/-- Every handler in the effective tables of a compiler is in the own tables of one or among those
given. -/
def Covered (h : Hierarchy H) (aside : List H) : Prop :=
  ∀ slot node, h.node? slot = some node → ∀ handler ∈ node.effective.handlers.values,
    handler ∈ aside ∨ handler ∈ h.entries

/-- Effective tables that are up to date hold handlers of own tables alone. -/
theorem covered_of_fresh {h : Hierarchy H}
    (fresh : ∀ {slot node}, h.node? slot = some node → node.effective = h.mergedTables slot node) :
    h.Covered [] := by
  intro slot node found handler member
  rw [fresh found] at member
  exact Or.inr (mem_entries_of_mem_mergedTables member)

namespace Covered

variable {h : Hierarchy H} {aside : List H}

theorem mem_entries_of_mem_handlers (covered : h.Covered []) {handler : H}
    (member : handler ∈ h.handlers) :
    handler ∈ h.entries := by
  obtain ⟨slot, node, found, own | effective⟩ := by
    simpa only [mem_handlers, CompilerNode.handlers, List.mem_append] using member
  · exact mem_entries.mpr ⟨slot, node, found, own⟩
  · exact (covered slot node found handler effective).resolve_left List.not_mem_nil

/-- A change of own tables puts aside what leaves them. -/
theorem change (covered : h.Covered aside) (slot : Nat) (e : Edit H) :
    (h.adjust slot fun node => { node with own := e.apply node.own }).Covered
      (aside ++ e.replaced (h.ownTables slot)) := by
  have at_slot := fun other => node?_adjust h slot other fun node =>
    { node with own := e.apply node.own }
  have moved : ∀ handler ∈ h.entries, handler ∈ e.replaced (h.ownTables slot) ∨
      handler ∈ (h.adjust slot fun node => { node with own := e.apply node.own }).entries := by
    intro handler member
    obtain ⟨other, node, found, own⟩ := mem_entries.mp member
    by_cases here : slot = other
    · subst here
      rcases e.mem_replaced_or_apply own with gone | stays
      · exact Or.inl (ownTables_eq found ▸ gone)
      · refine Or.inr (mem_entries.mpr ⟨slot, { node with own := e.apply node.own }, ?_, stays⟩)
        rw [at_slot, if_pos rfl, found, Option.map_some]
    · refine Or.inr (mem_entries.mpr ⟨other, node, ?_, own⟩)
      rw [at_slot, if_neg here, found]
  intro other after there handler member
  have before : ∃ node, h.node? other = some node ∧ handler ∈ node.effective.handlers.values := by
    rw [at_slot] at there
    split at there
    · obtain ⟨node, found, rfl⟩ := Option.map_eq_some_iff.mp there
      exact ⟨node, found, member⟩
    · exact ⟨after, there, member⟩
  obtain ⟨node, found, effective⟩ := before
  rcases covered other node found handler effective with given | own
  · exact Or.inl (List.mem_append_left _ given)
  · exact (moved handler own).imp (List.mem_append_right _) id

/-- Effective tables that are renewed hold handlers of own tables alone, and own tables stay. -/
theorem renew (covered : h.Covered aside) (slot : Nat) : (h.renew slot).Covered aside := by
  have entries : (h.renew slot).entries = h.entries := entries_adjust _ _ _ fun _ => rfl
  intro other after there handler member
  rw [Hierarchy.renew, node?_adjust] at there
  rw [entries]
  split at there
  · obtain ⟨node, found, rfl⟩ := Option.map_eq_some_iff.mp there
    exact Or.inr (mem_entries_of_mem_mergedTables member)
  · exact covered other after there handler member

theorem foldl_renew (covered : h.Covered aside) (slots : List Nat) :
    (slots.foldl Hierarchy.renew h).Covered aside := by
  induction slots generalizing h with
  | nil => exact covered
  | cons slot rest ih => exact ih (covered.renew slot)

/-- A compiler comes without entries, and own tables stay. -/
theorem attach (covered : h.Covered aside) (linked : h.Linked) {p : Nat} {above : CompilerNode H}
    (found : h.node? p = some above) (parents : List Nat) :
    ((h.insert (freshNode parents)).2.adjust p fun above =>
      { above with
        children := above.children ++ [(h.insert (freshNode parents)).1] }).Covered aside := by
  intro other after there handler member
  have bare : (freshNode parents : CompilerNode H).own.handlers.values = [] := rfl
  rw [entries_adjust, (entries_insert linked bare).mem_iff]
  · rw [linked.node?_attach found] at there
    split at there
    · cases there
      cases member
    · split at there
      · cases there
        exact covered p above found handler member
      · exact covered other after there handler member
  · exact fun _ => rfl

end Covered

/-! ## Compilers that leave -/

/-- A compiler that leaves a hierarchy was in it, with the tables that it has. -/
theorem alike_of_mem_vacate (h : Hierarchy H) (id : Nat) {gone : CompilerNode H}
    (left : gone ∈ (h.vacate id).1) :
    ∃ slot node, h.node? slot = some node ∧ node.Alike gone := by
  fun_induction vacate h id with
  | case1 => cases left
  | case2 h id node found idle highest =>
    cases List.mem_singleton.mp left
    exact ⟨id, gone, found, rfl, rfl, rfl⟩
  | case3 h id node found idle parent last others after above ih =>
    rw [above] at ih
    rcases List.mem_cons.mp left with rfl | later
    · exact ⟨id, gone, found, rfl, rfl, rfl⟩
    · obtain ⟨slot, remaining, there, same⟩ := ih later
      obtain ⟨before, was, kept⟩ := remains_remove h id node there
      rw [kept] at same
      exact ⟨slot, before, was, same.parents, same.own, same.effective⟩
  | case4 => cases left

/-- Handlers in the effective tables of the compilers that leave with a handle stand in own tables,
of those or of others that stay. -/
theorem Covered.released {h : Hierarchy H} (covered : h.Covered []) (id : Nat) {handler : H}
    (member : handler ∈ (h.release id).1.flatMap (·.effective.handlers.values)) :
    handler ∈ (h.release id).1.flatMap (·.own.handlers.values) ∨
      handler ∈ (h.release id).2.entries := by
  obtain ⟨gone, left, effective⟩ := List.mem_flatMap.mp member
  obtain ⟨slot, node, found, same⟩ := alike_of_mem_vacate _ id left
  have before : ∃ was, h.node? slot = some was ∧ was.effective = node.effective := by
    rw [node?_adjust] at found
    split at found
    · obtain ⟨was, there, rfl⟩ := Option.map_eq_some_iff.mp found
      exact ⟨was, there, rfl⟩
    · exact ⟨node, found, rfl⟩
  obtain ⟨was, there, tables⟩ := before
  have own := (covered slot was there handler (by rwa [tables, same.effective])).resolve_left
    List.not_mem_nil
  exact List.mem_append.mp ((entries_release h id).mem_iff.mpr own)

end Hierarchy

/-- Between calls the effective tables of a hierarchy in use hold handlers of own tables alone. -/
theorem Usage.Reachable.covered {u : Usage H} (reached : u.Reachable) : u.hierarchy.Covered [] :=
  Hierarchy.covered_of_fresh reached.inherits.fresh

end RowMapper
