import RowMapper.Proofs.Hierarchy.Inheritance
import RowMapper.Settings.Dialect
/-!
Dialects as layers. A compiler answers as the one above it, with what was set on itself over that.
So the dialect of a compiler reserves the words that the settings add, does not reserve those that
they take out, and follows the compiler above it in all others, whatever becomes of that one. No
other compiler notices that a dialect comes or goes.
-/

set_option autoImplicit false

namespace RowMapper

variable {H : Type}

theorem Tables.get?_extend_reserved (t other : Tables H) (word : String) :
    (t.extend other).reserved.get? word = (other.reserved.get? word).or (t.reserved.get? word) :=
  Dict.get?_extend t.reserved other.reserved word

/-- A layer of words over tables: those taken out win over those added, and both over what lies
below. -/
theorem Tables.isReserved_layer (below : Tables H) (reserved unreserved : List String)
    (word : String) :
    (below.extend ((Tables.empty.markWords true reserved).markWords false unreserved)).isReserved
      word = if Text.toLowerCase word ∈ unreserved.map Text.toLowerCase then false
      else if Text.toLowerCase word ∈ reserved.map Text.toLowerCase then true
      else below.isReserved word := by
  rw [isReserved, get?_extend_reserved, get?_markWords, get?_markWords]
  split
  · rfl
  · split
    · rfl
    · rfl

namespace Hierarchy

theorem effective_eq {h : Hierarchy H} {id : Nat} {node : CompilerNode H}
    (found : h.node? id = some node) :
    h.effective id = node.effective := by
  simp only [effective, found]

theorem effective_congr {h h' : Hierarchy H} {id : Nat} (same : h'.node? id = h.node? id) :
    h'.effective id = h.effective id := by
  simp only [effective, same]

/-- An empty slot is on no path. -/
theorem Linked.off_path_of_vacant {h : Hierarchy H} (linked : h.Linked) {slot id : Nat}
    {node : CompilerNode H} (vacant : h.node? slot = none) (found : h.node? id = some node) :
    slot ∉ node.parents := by
  intro onPath
  obtain ⟨above, -, -, there, -, -⟩ := linked.above_of_mem found onPath
  cases vacant.symm.trans there

/-- A change of tables is not noticed by compilers that are not below it. -/
theorem Linked.effective_edit {h : Hierarchy H} (linked : h.Linked) {slot other : Nat}
    (f : Tables H → Tables H) (apart : other ≠ slot)
    (elsewhere : ∀ node, h.node? other = some node → slot ∉ node.parents) :
    (h.edit slot f).effective other = h.effective other := by
  refine effective_congr ?_
  rw [node?_edit linked]
  cases found : h.node? other with
  | none => rfl
  | some node => simp only [Option.map_some, apart, elsewhere node found, ↓reduceIte]

/-- No compiler notices that a child comes under one of them. -/
theorem Linked.effective_createChild {h : Hierarchy H} (linked : h.Linked) {parent other : Nat}
    {above : CompilerNode H} (found : h.node? parent = some above)
    (apart : other ≠ (h.createChild parent).1) :
    (h.createChild parent).2.effective other = h.effective other := by
  have at_slot := node?_createChild linked found other
  rw [if_neg (Ne.symm apart)] at at_slot
  by_cases here : parent = other
  · subst here
    rw [if_pos rfl] at at_slot
    rw [effective_eq at_slot, effective_eq found]
  · rw [if_neg here] at at_slot
    exact effective_congr at_slot

/-- A change of tables leaves the path of the compiler and changes its own tables. -/
theorem Linked.edited {h : Hierarchy H} (linked : h.Linked) {id : Nat} {node : CompilerNode H}
    (found : h.node? id = some node) (f : Tables H → Tables H) :
    ∃ after, (h.edit id f).node? id = some after ∧ after.parents = node.parents ∧
      after.own = f node.own := by
  have at_slot := node?_edit linked id id f
  rw [found, Option.map_some, if_pos rfl] at at_slot
  exact ⟨_, at_slot, rfl, rfl⟩

/-- A change of tables changes no path. -/
theorem Linked.parents_edit {h : Hierarchy H} (linked : h.Linked) (id : Nat)
    (f : Tables H → Tables H) {other : Nat} {node : CompilerNode H}
    (there : (h.edit id f).node? other = some node) :
    ∃ before, h.node? other = some before ∧ node.parents = before.parents := by
  rw [node?_edit linked] at there
  obtain ⟨before, was, rfl⟩ := Option.map_eq_some_iff.mp there
  refine ⟨before, was, ?_⟩
  split
  · rfl
  · split <;> rfl

/-- The tables merged along a path are those merged along the path of the compiler above, with the
own ones over them. -/
theorem mergedTables_below {h : Hierarchy H} {parent id : Nat} {above node : CompilerNode H}
    (path : node.parents = above.parents ++ [parent]) (found : h.node? id = some node) :
    h.mergedTables id node = (h.mergedTables parent above).extend node.own := by
  simp only [mergedTables, path, Tables.merge, List.map_append, List.foldl_append, List.map_cons,
    List.map_nil, List.foldl_cons, List.foldl_nil, ownTables_eq found]

end Hierarchy

namespace Usage

/-- A compiler answers as the one above it, with what was set on itself over that. -/
theorem Reachable.effective_below {u : Usage H} (reached : u.Reachable) {id parent : Nat}
    {node : CompilerNode H} (found : u.hierarchy.node? id = some node)
    (last : node.parents.getLast? = some parent) :
    u.hierarchy.effective id = (u.hierarchy.effective parent).extend node.own := by
  have inherits := reached.inherits
  rcases reached.sound.linked.rooted found with root | ⟨p, above, there, path⟩
  · rw [root] at last
    cases last
  · rw [path, List.getLast?_concat] at last
    cases last
    rw [Hierarchy.effective_eq found, Hierarchy.effective_eq there, inherits.fresh found,
      inherits.fresh there, Hierarchy.mergedTables_below path found]

end Usage

/-! ## What leaves a compiler alone -/

/-- A call on a compiler that does not change the tables of the one in a slot and drops no handle on
it. -/
def Call.Spares (slot id : Nat) : Call H → Prop
  | .createChild | .clone => True
  | .drop | .edit _ => id ≠ slot

instance (slot id : Nat) (c : Call H) : Decidable (c.Spares slot id) :=
  match c with
  | .createChild | .clone => inferInstanceAs (Decidable True)
  | .drop | .edit _ => inferInstanceAs (Decidable (id ≠ slot))

namespace Usage

/-- What calls on outstanding handles lead to that leave the compiler in a slot alone. -/
inductive Sparing (slot : Nat) (u : Usage H) : Usage H → Prop
  | start : Sparing slot u u
  | call {v : Usage H} {id : Nat} (c : Call H) (earlier : Sparing slot u v)
      (outstanding : id ∈ v.held) (spares : c.Spares slot id) : Sparing slot u (v.call id c)

/-- A compiler that is held has a path and tables of its own. -/
def Keeps (u : Usage H) (slot : Nat) (parents : List Nat) (own : Tables H) : Prop :=
  slot ∈ u.held ∧ ∃ node, u.hierarchy.node? slot = some node ∧ node.parents = parents ∧
    node.own = own

theorem Keeps.call {u : Usage H} {slot id : Nat} {parents : List Nat} {own : Tables H}
    (keeps : u.Keeps slot parents own) (sound : u.Sound) (outstanding : id ∈ u.held) (c : Call H)
    (spares : c.Spares slot id) : (u.call id c).Keeps slot parents own := by
  obtain ⟨held, node, found, path, tables⟩ := keeps
  cases c with
  | createChild =>
    obtain ⟨above, there⟩ := sound.live outstanding
    have vacant := Hierarchy.vacant_createChild sound.linked there
    have apart : (u.hierarchy.createChild id).1 ≠ slot := by
      rintro rfl
      cases vacant.symm.trans found
    have at_slot := Hierarchy.node?_createChild sound.linked there slot
    rw [if_neg apart] at at_slot
    refine ⟨List.mem_cons_of_mem _ held, ?_⟩
    by_cases here : id = slot
    · subst here
      cases found.symm.trans there
      rw [if_pos rfl] at at_slot
      exact ⟨_, at_slot, path, tables⟩
    · rw [if_neg here] at at_slot
      exact ⟨node, at_slot.trans found, path, tables⟩
  | clone =>
    refine ⟨List.mem_cons_of_mem _ held, ?_⟩
    change ∃ node, (u.hierarchy.addHandle id).node? slot = some node ∧ _
    rw [Hierarchy.addHandle, Hierarchy.node?_adjust, found]
    split
    · exact ⟨_, rfl, path, tables⟩
    · exact ⟨node, rfl, path, tables⟩
  | drop =>
    have still : slot ∈ u.held.erase id := (List.mem_erase_of_ne (Ne.symm spares)).mpr held
    obtain ⟨after, there⟩ := (sound.drop id).live still
    obtain ⟨between, dropped, same⟩ := Hierarchy.remains_vacate _ id there
    rw [Hierarchy.node?_adjust, if_neg spares, found] at dropped
    cases dropped
    exact ⟨still, after, there, by rw [same, path], by rw [same, tables]⟩
  | edit e =>
    have at_slot := Hierarchy.node?_edit sound.linked id slot e.apply
    rw [← e.perform_eq, found, Option.map_some, if_neg (Ne.symm spares)] at at_slot
    refine ⟨held, _, at_slot, ?_, ?_⟩
    · split <;> exact path
    · split <;> exact tables

/-- The compiler stays where it is, with its path and its own tables. -/
theorem Sparing.keeps {u v : Usage H} {slot : Nat} {parents : List Nat} {own : Tables H}
    (sparing : u.Sparing slot v) (reached : u.Reachable) (keeps : u.Keeps slot parents own) :
    v.Reachable ∧ v.Keeps slot parents own := by
  induction sparing with
  | start => exact ⟨reached, keeps⟩
  | call c _ outstanding spares ih =>
    obtain ⟨before, kept⟩ := ih
    exact ⟨.call c before outstanding, kept.call before.sound outstanding c spares⟩

/-- Dropping a handle changes the tables of no compiler that is left. -/
theorem Sound.effective_drop {u : Usage H} (sound : u.Sound) (id : Nat) {other : Nat}
    (held : other ∈ (u.call id .drop).held) :
    (u.call id .drop).hierarchy.effective other = u.hierarchy.effective other := by
  obtain ⟨after, there⟩ := (sound.drop id).live held
  obtain ⟨between, dropped, same⟩ := Hierarchy.remains_vacate _ id there
  have tables : after.effective = between.effective := by rw [same]
  rw [Hierarchy.effective_eq there, tables]
  rw [Hierarchy.node?_adjust] at dropped
  split at dropped
  · obtain ⟨before, was, rfl⟩ := Option.map_eq_some_iff.mp dropped
    rw [Hierarchy.effective_eq was]
  · rw [Hierarchy.effective_eq dropped]

/-! ## Dialects -/

/-- What making the dialect of a compiler leads to: a child, to which words are added and from which
words are taken out. -/
def makingDialect (u : Usage H) (s : Settings) (parent : Nat) : Usage H :=
  let slot := (s.dialect u.hierarchy parent).1
  ((u.call parent .createChild).call slot (.edit (.markWords true s.compile.reserved))).call slot
    (.edit (.markWords false s.compile.unreserved))

theorem hierarchy_makingDialect (u : Usage H) (s : Settings) (parent : Nat) :
    (u.makingDialect s parent).hierarchy = (s.dialect u.hierarchy parent).2 := rfl

theorem held_makingDialect (u : Usage H) (s : Settings) (parent : Nat) :
    (u.makingDialect s parent).held = (s.dialect u.hierarchy parent).1 :: u.held := rfl

namespace Reachable

variable {u : Usage H} {parent : Nat} {above : CompilerNode H}

theorem makingDialect (reached : u.Reachable) (outstanding : parent ∈ u.held) (s : Settings) :
    (u.makingDialect s parent).Reachable := by
  have created : (u.call parent .createChild).Reachable := .call .createChild reached outstanding
  have added := Reachable.call (.edit (.markWords true s.compile.reserved)) created
    List.mem_cons_self
  exact Reachable.call (.edit (.markWords false s.compile.unreserved)) added List.mem_cons_self

/-- A dialect is right below its compiler and has the words of the settings for its own tables. -/
theorem keeps_makingDialect (reached : u.Reachable) (found : u.hierarchy.node? parent = some above)
    (s : Settings) :
    (u.makingDialect s parent).Keeps (s.dialect u.hierarchy parent).1 (above.parents ++ [parent])
      ((Tables.empty.markWords true s.compile.reserved).markWords false s.compile.unreserved) := by
  have grown : (u.hierarchy.createChild parent).2.Linked := reached.sound.linked.createChild found
  have child := Hierarchy.node?_createChild reached.sound.linked found
    (u.hierarchy.createChild parent).1
  rw [if_pos rfl] at child
  obtain ⟨between, there, path, own⟩ :=
    grown.edited child fun own => own.markWords true s.compile.reserved
  obtain ⟨after, there', path', own'⟩ :=
    (grown.edit _ _).edited there fun own => own.markWords false s.compile.unreserved
  refine ⟨List.mem_cons_self, after, there', path'.trans path, ?_⟩
  rw [own', own]
  rfl

/-- No other compiler notices that a dialect comes. -/
theorem effective_makingDialect (reached : u.Reachable) {other : Nat}
    (outstanding : parent ∈ u.held) (s : Settings)
    (apart : other ≠ (s.dialect u.hierarchy parent).1) :
    (u.makingDialect s parent).hierarchy.effective other = u.hierarchy.effective other := by
  have linked := reached.sound.linked
  obtain ⟨above, found⟩ := reached.sound.live outstanding
  let slot := (u.hierarchy.createChild parent).1
  let grown := (u.hierarchy.createChild parent).2
  let added := grown.markWords slot true s.compile.reserved
  have different : other ≠ slot := apart
  have grown_linked : grown.Linked := linked.createChild found
  have added_linked : added.Linked := grown_linked.edit slot _
  have vacant := Hierarchy.vacant_createChild linked found
  -- the slot was empty, so it was on no path, and the paths of the others stay as they were
  have elsewhere : ∀ node, grown.node? other = some node → slot ∉ node.parents := by
    intro node there
    rw [Hierarchy.node?_createChild linked found, if_neg (Ne.symm different)] at there
    split at there
    · have off := linked.off_path_of_vacant vacant found
      cases there
      exact off
    · exact linked.off_path_of_vacant vacant there
  have still : ∀ node, added.node? other = some node → slot ∉ node.parents := by
    intro node there
    obtain ⟨before, was, path⟩ := grown_linked.parents_edit slot _ there
    exact path ▸ elsewhere before was
  calc (u.makingDialect s parent).hierarchy.effective other
      = (added.markWords slot false s.compile.unreserved).effective other := rfl
    _ = added.effective other := added_linked.effective_edit _ different still
    _ = grown.effective other := grown_linked.effective_edit _ different elsewhere
    _ = u.hierarchy.effective other := linked.effective_createChild found different

end Reachable

end Usage

/-- The dialect of a compiler, made of any settings at any depth of a hierarchy in use, does not
reserve the words that the settings take out, reserves all others that they add, and follows the
compiler above it in the rest, whatever is then done to that one and to all others. Neither that it
comes nor that it goes changes the tables of another compiler. -/
theorem dialect_is_a_layer {u : Usage H} (reached : u.Reachable) {parent : Nat}
    (outstanding : parent ∈ u.held) (s : Settings) :
    let slot := (s.dialect u.hierarchy parent).1
    let made := u.makingDialect s parent
    made.hierarchy = (s.dialect u.hierarchy parent).2 ∧ made.held = slot :: u.held ∧ slot ∉ u.held ∧
    (∀ other, other ≠ slot → made.hierarchy.effective other = u.hierarchy.effective other) ∧
    ∀ later, made.Sparing slot later →
      (∀ word, (later.hierarchy.effective slot).isReserved word =
        if Text.toLowerCase word ∈ s.compile.unreserved.map Text.toLowerCase then false
        else if Text.toLowerCase word ∈ s.compile.reserved.map Text.toLowerCase then true
        else (later.hierarchy.effective parent).isReserved word) ∧
      ∀ other ∈ (later.call slot .drop).held,
        (later.call slot .drop).hierarchy.effective other = later.hierarchy.effective other := by
  intro slot made
  obtain ⟨above, found⟩ := reached.sound.live outstanding
  have vacant : u.hierarchy.node? slot = none :=
    Hierarchy.vacant_createChild reached.sound.linked found
  refine ⟨u.hierarchy_makingDialect s parent, u.held_makingDialect s parent, ?_,
    fun other apart => reached.effective_makingDialect outstanding s apart, fun later sparing => ?_⟩
  · intro held
    obtain ⟨node, there⟩ := reached.sound.live held
    cases vacant.symm.trans there
  · obtain ⟨after, held, node, there, path, own⟩ :=
      sparing.keeps (reached.makingDialect outstanding s) (reached.keeps_makingDialect found s)
    have last : node.parents.getLast? = some parent := by rw [path, List.getLast?_concat]
    refine ⟨fun word => ?_, fun other held => after.sound.effective_drop slot held⟩
    rw [after.effective_below there last, own]
    exact (later.hierarchy.effective parent).isReserved_layer s.compile.reserved
      s.compile.unreserved word

/-- A child of a root that reserves a word. -/
def tiered : Usage Nat :=
  ((⟨.root, [0], []⟩ : Usage Nat).call 0 (.edit (.markWords true ["Select"]))).call 0 .createChild

/-- Settings that add two words and take two out, one of them in both lists. -/
def overlapping : Settings :=
  { compile := { reserved := ["LIMIT", "Order"], unreserved := ["order", "SELECT"] } }

/-- The dialect of the child, after words were added to the child, to another child of it and to the
root. -/
def tieredLater : Usage Nat :=
  ((((tiered.makingDialect overlapping 1).call 1 (.edit (.markWords true ["Offset"]))).call 1
    .createChild).call 3 (.edit (.markWords true ["Fetch"]))).call 0
      (.edit (.markWords true ["ORDER", "union"]))

/-- The dialect goes on reserving what the settings add, and not what they take out, though the root
reserves it; it follows the child and the root in other words, and does not see those of the other
child. When it goes, the child reserves what it did. -/
theorem tiered_dialect_is_a_layer :
    (["limit", "Order", "select", "offset", "union", "fetch"].map
      (tieredLater.hierarchy.effective 2).isReserved) =
        [true, false, false, true, true, false] ∧
      (tieredLater.call 2 .drop).held = [3, 1, 0] ∧
      (tieredLater.call 2 .drop).hierarchy.effective 1 = tieredLater.hierarchy.effective 1 := by
  have reached : tiered.Reachable := by
    refine .call _ (.call _ .root ?_) ?_
    all_goals decide +kernel
  have sparing : (tiered.makingDialect overlapping 1).Sparing 2 tieredLater := by
    refine .call _ (.call _ (.call _ (.call _ .start ?_ ?_) ?_ trivial) ?_ ?_) ?_ ?_
    all_goals decide +kernel
  have outstanding : 1 ∈ tiered.held := by decide +kernel
  obtain ⟨-, -, -, -, always⟩ := dialect_is_a_layer reached outstanding overlapping
  obtain ⟨words, gone⟩ := always tieredLater sparing
  have held : (tieredLater.call 2 .drop).held = [3, 1, 0] := by decide +kernel
  refine ⟨?_, held, gone 1 (held ▸ by decide)⟩
  refine (List.map_congr_left fun word _ => words word).trans ?_
  decide +kernel

end RowMapper
