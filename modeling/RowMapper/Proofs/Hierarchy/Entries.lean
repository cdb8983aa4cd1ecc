import RowMapper.Proofs.Hierarchy.Usage
/-!
The handlers in the own tables of all compilers of a hierarchy. A new child brings none, and a
registration puts its handler in, once for each tag, and the handlers out that it yields.
-/

set_option autoImplicit false

namespace RowMapper

theorem modify_eq_set_of_getElem? {α : Type} {l : List α} {i : Nat} {a : α} (there : l[i]? = some a)
    (f : α → α) : l.modify i f = l.set i (f a) := by
  rw [List.modify_eq_set_getElem?, there]
  rfl

namespace Hierarchy

variable {H : Type}

theorem entries_refresh (h : Hierarchy H) (id : Nat) : (h.refresh id).entries = h.entries := by
  rw [refresh, refreshTo_eq_foldl]
  generalize h.belowTo h.slots.length id = ids
  induction ids generalizing h with
  | nil => rfl
  | cons first rest ih =>
    rw [List.foldl_cons, ih, renew]
    exact entries_adjust h first _ fun _ => rfl

theorem occupied_of_node? {h : Hierarchy H} {id : Nat} {node : CompilerNode H}
    (found : h.node? id = some node) : h.slots[id]? = some (some node) := by
  simpa only [node?, Option.join_eq_some_iff] using found

/-- A change of own tables exchanges the handlers in them. -/
theorem entries_edit {h : Hierarchy H} {id : Nat} {node : CompilerNode H}
    (found : h.node? id = some node) (f : Tables H → Tables H) :
    (node.own.handlers.values ++ (h.edit id f).entries).Perm
      ((f node.own).handlers.values ++ h.entries) := by
  have occupied := occupied_of_node? found
  have exchanged := flatMap_set_perm entriesIn occupied (some { node with own := f node.own })
  rw [edit, entries_refresh, adjust, modify_eq_set_of_getElem? occupied]
  exact exchanged

theorem entries_register {h : Hierarchy H} {id : Nat} {node : CompilerNode H}
    (found : h.node? id = some node) (tags : List Tag) (handler : H) :
    ((h.register id tags handler).1 ++ (h.register id tags handler).2.entries).Perm
      (List.replicate tags.length handler ++ h.entries) := by
  have own : h.ownTables id = node.own := by simp only [ownTables, found]
  have exchanged := entries_edit found fun own => own.register tags handler
  have registered := node.own.values_register_perm tags handler
  simp only [register, own]
  refine List.perm_append_left_iff node.own.handlers.values |>.mp ?_
  refine (List.perm_append_comm_assoc ..).trans ?_
  refine (exchanged.append_left _).trans ?_
  rw [← List.append_assoc]
  refine (registered.append_right _).trans ?_
  rw [List.append_assoc]
  exact List.perm_append_comm_assoc ..

theorem entries_insert {h : Hierarchy H} (linked : h.Linked) {node : CompilerNode H}
    (bare : node.own.handlers.values = []) : (h.insert node).2.entries.Perm h.entries := by
  rcases insert_cases h node with ⟨free, front, grown⟩ | ⟨-, slot, grown⟩
  · have member : (h.insert node).1 ∈ h.free := front ▸ List.mem_cons_self
    obtain ⟨inside, vacant⟩ := (linked.empty _).mp member
    have hollow : h.slots[(h.insert node).1]? = some none := by
      rw [node?, List.getElem?_eq_getElem inside, Option.join_some] at vacant
      rw [List.getElem?_eq_getElem inside, vacant]
    have exchanged := flatMap_set_perm entriesIn hollow (some node)
    rw [grown]
    simpa only [entries, entriesIn, bare, List.nil_append] using exchanged
  · rw [grown]
    simp only [entries, List.flatMap_append, List.flatMap_singleton, entriesIn, bare,
      List.append_nil]
    exact .refl _

theorem entries_createChild {h : Hierarchy H} (linked : h.Linked) {parent : Nat}
    {above : CompilerNode H} (found : h.node? parent = some above) :
    (h.createChild parent).2.entries.Perm h.entries := by
  rw [createChild_eq found, entries_refresh]
  rw [entries_adjust]
  · exact entries_insert linked rfl
  · exact fun _ => rfl

end Hierarchy

end RowMapper
