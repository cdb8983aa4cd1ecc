import Mathlib.Data.List.Count
import RowMapper.Compiler.Forest
import RowMapper.Proofs.Hierarchy.Entries
/-!
References into a forest. A handler of the program counts the references to it: those from outside
and its entries in tables. It owns the handles that it was given as long as there is one. Every
hierarchy is one in use, with the handles that are outstanding from outside and those that handlers
own. Each operation of the forest keeps this, and so does dropping references, with all that goes
with them.
-/

set_option autoImplicit false

namespace RowMapper

@[simp] theorem Handler.reference?_builtin (b : Builtin) : (Handler.builtin b).reference? = none :=
  rfl

@[simp] theorem Handler.reference?_custom (id : HandlerId) :
    (Handler.custom id).reference? = some (.handler id) := rfl

theorem count_handler_references (handlers : List Handler) (id : HandlerId) :
    (handlers.filterMap Handler.reference?).count (.handler id) = handlers.count (.custom id) := by
  induction handlers with
  | nil => rfl
  | cons handler rest ih =>
    cases handler <;> simp [List.filterMap_cons, List.count_cons, ih]

theorem count_handle_references (handlers : List Handler) (h : Handle) :
    (handlers.filterMap Handler.reference?).count (.handle h) = 0 := by
  induction handlers with
  | nil => rfl
  | cons handler rest ih =>
    cases handler <;> simp [List.filterMap_cons, ih]

theorem count_handle_owned (owned : List Handle) (h : Handle) :
    (owned.map Reference.handle).count (.handle h) = owned.count h :=
  List.count_map_of_injective owned Reference.handle (fun _ _ same => Reference.handle.inj same) h

theorem count_handler_owned (owned : List Handle) (id : HandlerId) :
    (owned.map Reference.handle).count (.handler id) = 0 := by
  simp [List.count_eq_zero]

namespace Forest

variable {P : Type}

/-- How many references to a compiler there are, those given from outside and those of handlers. -/
def holders (f : Forest P) (references : List Reference) (h : Handle) : Nat :=
  references.count (.handle h) + f.owned.count h

/-- How many references to a handler there are, those given from outside and those in tables. -/
def users (f : Forest P) (references : List Reference) (id : HandlerId) : Nat :=
  references.count (.handler id) + f.entries.count (.custom id)

def recording (f : Forest P) (handler : CustomHandler P) : Forest P :=
  { f with handlers := f.handlers ++ [handler] }

section

variable {f : Forest P} {handler : CustomHandler P}

theorem length_recording : (f.recording handler).handlers.length = f.handlers.length + 1 := by
  rw [recording, List.length_append, List.length_singleton]

theorem getElem?_recording {id : HandlerId} {found : CustomHandler P}
    (now : (f.recording handler).handlers[id]? = some found) :
    id = f.handlers.length ∧ found = handler ∨ id ≠ f.handlers.length ∧
      f.handlers[id]? = some found := by
  by_cases last : id = f.handlers.length
  · subst last
    rw [recording, List.getElem?_concat_length, Option.some.injEq] at now
    exact Or.inl ⟨rfl, now.symm⟩
  · have inside := (List.getElem?_eq_some_iff.mp now).1
    rw [length_recording] at inside
    rw [recording, List.getElem?_append_left (Nat.lt_of_le_of_ne (Nat.le_of_lt_succ inside) last)]
      at now
    exact Or.inr ⟨last, now⟩

theorem users_recording (f : Forest P) (references : List Reference) (program : P)
    (owned : List Handle) (id : HandlerId) (different : id ≠ f.handlers.length) :
    (f.recording ⟨program, owned, 1⟩).users (.handler f.handlers.length :: references) id =
      f.users (owned.map .handle ++ references) id := by
  rw [users, users, List.count_append, count_handler_owned,
    List.count_cons_of_ne fun same => different (Reference.handler.inj same).symm, Nat.zero_add]
  rfl

theorem holders_recording (f : Forest P) (references : List Reference) (program : P)
    (owned : List Handle) (h : Handle) :
    (f.recording ⟨program, owned, 1⟩).holders (.handler f.handlers.length :: references) h =
      f.holders (owned.map .handle ++ references) h := by
  simp only [recording, holders, Forest.owned, List.flatMap_append, List.flatMap_singleton,
    List.count_append, count_handle_owned,
    List.count_cons_of_ne (show Reference.handler f.handlers.length ≠ .handle h by simp)]
  omega

end

/-- Registers a handler for tags. Those that it puts out are dropped in the order of the tags, and
then the reference to it that was given to the call. -/
def registerHandler (f : Forest P) (h : Handle) (tags : List Tag) (id : HandlerId) : Forest P :=
  let f := f.retainHandler id tags.length
  let (replaced, hierarchy) := (f.hierarchy h.hierarchy).register h.slot tags (.custom id)
  (f.setHierarchy h.hierarchy hierarchy).drop
    (replaced.filterMap Handler.reference? ++ [.handler id])

theorem register_eq_registerHandler (f : Forest P) (h : Handle) (tags : List Tag) (program : P)
    (owned : List Handle) :
    f.register h tags program owned =
      (f.addHandler program owned).2.registerHandler h tags (f.addHandler program owned).1 := rfl

/-- The forest is right for the references into it from outside, the births of the compilers of each
hierarchy and the handles that the handlers were given. -/
structure Holds (f : Forest P) (references : List Reference) (born : Nat → List (Nat × Nat))
    (given : List (List Handle)) : Prop where
  used : ∀ {i h}, f.hierarchies[i]? = some h → ∃ u : Usage Handler, u.Reachable ∧ u.hierarchy = h ∧
    births u.past = born i ∧ ∀ slot, u.held.count slot = f.holders references ⟨i, slot⟩
  unborn : ∀ {i}, f.hierarchies.length ≤ i → born i = []
  placed : ∀ {h}, 0 < f.holders references h → h.hierarchy < f.hierarchies.length
  counted : ∀ {id : HandlerId} {handler : CustomHandler P}, f.handlers[id]? = some handler →
    handler.references = f.users references id
  known : ∀ {id}, 0 < f.users references id → id < f.handlers.length
  owns : ∀ {id : HandlerId} {handler : CustomHandler P}, f.handlers[id]? = some handler →
    handler.owned = if handler.references = 0 then [] else (given[id]?).getD []
  recorded : given.length = f.handlers.length

namespace Holds

variable {f : Forest P} {references : List Reference} {born : Nat → List (Nat × Nat)}
  {given : List (List Handle)}

/-- Only how often something is referred to counts. -/
theorem of_perm (holds : f.Holds references born given) {others : List Reference}
    (same : references.Perm others) : f.Holds others born given := by
  have holders : f.holders others = f.holders references := by
    funext h
    rw [Forest.holders, Forest.holders, same.count_eq]
  have users : f.users others = f.users references := by
    funext id
    rw [Forest.users, Forest.users, same.count_eq]
  constructor
  case used => exact fun found => holders ▸ holds.used found
  case unborn => exact holds.unborn
  case placed => exact holders ▸ holds.placed
  case counted => exact users ▸ holds.counted
  case known => exact users ▸ holds.known
  case owns => exact holds.owns
  case recorded => exact holds.recorded

/-! ## A hierarchy changes -/

/-- A call on an outstanding handle, which may change what refers to compilers of its hierarchy. -/
theorem call (holds : f.Holds references born given) {h : Handle}
    (outstanding : 0 < f.holders references h) (c : Call Handler) {others : List Reference}
    {after : Hierarchy Handler} {later : Nat → List (Nat × Nat)}
    (called : ∀ u : Usage Handler, u.Reachable → u.hierarchy = f.hierarchy h.hierarchy →
      h.slot ∈ u.held → births u.past = born h.hierarchy →
      (u.call h.slot c).hierarchy = after ∧ births (u.call h.slot c).past = later h.hierarchy ∧
      ∀ slot, (u.call h.slot c).held.count slot + references.count (.handle ⟨h.hierarchy, slot⟩) =
        u.held.count slot + others.count (.handle ⟨h.hierarchy, slot⟩))
    (elsewhere : ∀ other : Handle, other.hierarchy ≠ h.hierarchy →
      others.count (.handle other) = references.count (.handle other))
    (apart : ∀ i, i ≠ h.hierarchy → later i = born i)
    (users : ∀ id, (f.setHierarchy h.hierarchy after).users others id = f.users references id) :
    (f.setHierarchy h.hierarchy after).Holds others later given := by
  have inside := holds.placed outstanding
  have there : f.hierarchies[h.hierarchy]? = some (f.hierarchy h.hierarchy) := by
    simp only [hierarchy, List.getElem?_eq_getElem inside, Option.getD_some]
  have away : ∀ other : Handle, other.hierarchy ≠ h.hierarchy →
      (f.setHierarchy h.hierarchy after).holders others other = f.holders references other := by
    intro other different
    rw [Forest.holders, Forest.holders, elsewhere other different]
    rfl
  constructor
  case used =>
    intro i now found
    by_cases here : i = h.hierarchy
    · subst here
      simp only [setHierarchy, List.getElem?_set_self inside, Option.some.injEq] at found
      obtain ⟨u, reached, same, past, held⟩ := holds.used there
      have member : h.slot ∈ u.held := List.count_pos_iff.mp (held h.slot ▸ outstanding)
      obtain ⟨hierarchy, births, counts⟩ := called u reached same member past
      refine ⟨u.call h.slot c, .call c reached member, hierarchy.trans found, births, ?_⟩
      intro slot
      have before := held slot
      have moved := counts slot
      simp only [Forest.holders, setHierarchy, Forest.owned] at before ⊢
      omega
    · simp only [setHierarchy, List.getElem?_set_ne (Ne.symm here)] at found
      obtain ⟨u, reached, same, past, held⟩ := holds.used found
      refine ⟨u, reached, same, past.trans (apart i here).symm, ?_⟩
      intro slot
      rw [held slot, away ⟨i, slot⟩ here]
  case unborn =>
    intro i beyond
    simp only [setHierarchy, List.length_set] at beyond
    rw [apart i (by omega)]
    exact holds.unborn beyond
  case placed =>
    intro other held
    simp only [setHierarchy, List.length_set]
    by_cases here : other.hierarchy = h.hierarchy
    · exact here ▸ inside
    · exact holds.placed (away other here ▸ held)
  case counted =>
    intro id handler found
    rw [users id]
    exact holds.counted found
  case known => exact fun {id} used => holds.known (users id ▸ used)
  case owns => exact holds.owns
  case recorded => exact holds.recorded

/-- An outstanding handle has its compiler. -/
theorem live (holds : f.Holds references born given) {h : Handle}
    (outstanding : 0 < f.holders references h) :
    f.hierarchies[h.hierarchy]? = some (f.hierarchy h.hierarchy) ∧
      (f.hierarchy h.hierarchy).Linked ∧
      ∃ node, (f.hierarchy h.hierarchy).node? h.slot = some node := by
  have there : f.hierarchies[h.hierarchy]? = some (f.hierarchy h.hierarchy) := by
    simp only [hierarchy, List.getElem?_eq_getElem (holds.placed outstanding), Option.getD_some]
  obtain ⟨u, reached, same, -, held⟩ := holds.used there
  have member : h.slot ∈ u.held := List.count_pos_iff.mp (held h.slot ▸ outstanding)
  exact ⟨there, same ▸ reached.sound.linked, same ▸ reached.sound.live member⟩

theorem addHandle (holds : f.Holds references born given) {h : Handle}
    (outstanding : 0 < f.holders references h) :
    (f.addHandle h).Holds (.handle h :: references) born given := by
  obtain ⟨there, linked, node, found⟩ := holds.live outstanding
  obtain ⟨i, slot⟩ := h
  have same_entries : ((f.hierarchy i).addHandle slot).entries = (f.hierarchy i).entries :=
    Hierarchy.entries_adjust _ _ _ fun _ => rfl
  have kept := (f.entries_kept there (.of_eq same_entries)).count_eq
  apply holds.call outstanding .clone
  · intro u reached same member past
    refine ⟨by rw [← same]; rfl, past, ?_⟩
    intro other
    change (slot :: u.held).count other + _ = _
    simp only [List.count_cons, beq_iff_eq, Reference.handle.injEq, Handle.mk.injEq, true_and]
    omega
  · intro other different
    rw [List.count_cons_of_ne]
    intro same
    exact different (congrArg Handle.hierarchy (Reference.handle.inj same)).symm
  · exact fun _ _ => rfl
  · intro id
    rw [users, users, List.count_cons_of_ne (by simp)]
    exact congrArg (_ + ·) (kept (.custom id))

theorem createChild (holds : f.Holds references born given) {h : Handle}
    (outstanding : 0 < f.holders references h) :
    (f.createChild h).2.Holds (.handle (f.createChild h).1 :: references)
      (Function.update born h.hierarchy (((f.createChild h).1.slot, h.slot) :: born h.hierarchy))
      given := by
  obtain ⟨there, linked, node, found⟩ := holds.live outstanding
  obtain ⟨i, slot⟩ := h
  have same_entries := Hierarchy.entries_createChild linked found
  have kept := (f.entries_kept there same_entries).count_eq
  apply holds.call outstanding .createChild
  · intro u reached same member past
    refine ⟨by rw [← same]; rfl, ?_, ?_⟩
    · rw [Function.update_self, ← past]
      change (_, slot) :: births u.past = _
      rw [same]
      rfl
    · intro other
      change ((u.hierarchy.createChild slot).1 :: u.held).count other + _ =
        _ + (.handle ⟨i, ((f.hierarchy i).createChild slot).1⟩ :: references).count _
      rw [same]
      simp only [List.count_cons, beq_iff_eq, Reference.handle.injEq, Handle.mk.injEq, true_and]
      omega
  · intro other different
    rw [List.count_cons_of_ne]
    intro same
    exact different (congrArg Handle.hierarchy (Reference.handle.inj same)).symm
  · exact fun other different => Function.update_of_ne different ..
  · intro id
    rw [users, users, List.count_cons_of_ne (by simp)]
    exact congrArg (_ + ·) (kept (.custom id))

/-- Tables change, and with them what refers to handlers. -/
theorem edit (holds : f.Holds references born given) {h : Handle}
    (outstanding : 0 < f.holders references h) (e : Edit Handler) {others : List Reference}
    (handles : ∀ other, others.count (.handle other) = references.count (.handle other))
    (users : ∀ id, (f.setHierarchy h.hierarchy (e.perform (f.hierarchy h.hierarchy) h.slot)).users
      others id = f.users references id) :
    (f.setHierarchy h.hierarchy (e.perform (f.hierarchy h.hierarchy) h.slot)).Holds others
      born given := by
  apply holds.call outstanding (.edit e) _ (fun other _ => handles other) (fun _ _ => rfl) users
  intro u reached same member past
  refine ⟨by rw [← same]; rfl, past, fun slot => ?_⟩
  rw [handles]
  rfl

theorem setPrecedence (holds : f.Holds references born given) {h : Handle}
    (outstanding : 0 < f.holders references h) (precedence : Int) (tags : List Tag) :
    (f.setPrecedence h precedence tags).Holds references born given := by
  obtain ⟨there, linked, node, found⟩ := holds.live outstanding
  have kept := f.entries_exchanged there
    (Hierarchy.entries_edit found fun own => own.setPrecedence precedence tags)
  refine holds.edit outstanding (.setPrecedence precedence tags) (fun _ => rfl) fun id => ?_
  exact congrArg (_ + ·) ((List.perm_append_left_iff _ |>.mp kept).count_eq (.custom id))

theorem markWords (holds : f.Holds references born given) {h : Handle}
    (outstanding : 0 < f.holders references h) (reserved : Bool) (words : List String) :
    (f.markWords h reserved words).Holds references born given := by
  obtain ⟨there, linked, node, found⟩ := holds.live outstanding
  have kept := f.entries_exchanged there
    (Hierarchy.entries_edit found fun own => own.markWords reserved words)
  refine holds.edit outstanding (.markWords reserved words) (fun _ => rfl) fun id => ?_
  exact congrArg (_ + ·) ((List.perm_append_left_iff _ |>.mp kept).count_eq (.custom id))

/-- The references to a handler go into tables, and those to the handlers that it puts out come from
there. -/
theorem registered (holds : f.Holds references born given) {h : Handle} {tags : List Tag}
    {id : HandlerId} {others : List Reference}
    (handed : references.Perm (List.replicate tags.length (.handler id) ++ others))
    (outstanding : 0 < f.holders references h) :
    let done := (f.hierarchy h.hierarchy).register h.slot tags (.custom id)
    (f.setHierarchy h.hierarchy done.2).Holds (done.1.filterMap Handler.reference? ++ others)
      born given := by
  obtain ⟨there, linked, node, found⟩ := holds.live outstanding
  have kept := f.entries_exchanged there (Hierarchy.entries_register found tags (.custom id))
  refine holds.edit outstanding (.register tags (.custom id)) ?_ ?_
  · intro other
    rw [handed.count_eq, List.count_append, List.count_append, count_handle_references,
      List.count_replicate]
    simp
  · intro other
    have moved := kept.count_eq (.custom other)
    rw [users, users, handed.count_eq]
    simp only [Edit.perform, List.count_append, count_handler_references,
      List.count_replicate, beq_iff_eq, Handler.custom.injEq, Reference.handler.injEq] at moved ⊢
    omega

theorem dropHandle {h : Handle} (holds : f.Holds (.handle h :: references) born given) :
    (f.dropOne (.handle h)).2.Holds ((f.dropOne (.handle h)).1 ++ references) born given := by
  obtain ⟨i, slot⟩ := h
  have outstanding : 0 < f.holders (.handle ⟨i, slot⟩ :: references) ⟨i, slot⟩ := by
    rw [holders, List.count_cons_self]
    omega
  have kept := f.entries_release (holds.live outstanding).1
  -- what goes with the handle are handlers, those in the tables of the compilers that leave
  have dropped : f.dropOne (.handle ⟨i, slot⟩) =
      ((((f.hierarchy i).release slot).1.flatMap fun node => node.own.handlers.values).filterMap
        Handler.reference?, f.setHierarchy i ((f.hierarchy i).release slot).2) := by
    rw [List.filterMap_flatMap]
    rfl
  rw [dropped]
  apply holds.call outstanding .drop
  · intro u reached same member past
    refine ⟨by rw [← same]; rfl, past, ?_⟩
    intro other
    change (u.held.erase slot).count other + _ = _
    simp only [List.count_append, count_handle_references, List.count_cons, beq_iff_eq,
      Reference.handle.injEq, Handle.mk.injEq, true_and]
    by_cases here : slot = other
    · subst here
      have positive := List.count_pos_iff.mpr member
      simp only [List.count_erase_self, ↓reduceIte] at positive ⊢
      omega
    · rw [List.count_erase_of_ne (Ne.symm here)]
      simp only [here, ↓reduceIte]
      omega
  · intro other different
    rw [List.count_append, count_handle_references, Nat.zero_add, List.count_cons_of_ne]
    intro same
    exact different (congrArg Handle.hierarchy (Reference.handle.inj same)).symm
  · exact fun _ _ => rfl
  · intro id
    have moved := kept.count_eq (.custom id)
    rw [List.count_append] at moved
    rw [users, users, List.count_append, count_handler_references, List.count_cons_of_ne (by simp)]
    dsimp only at moved ⊢
    omega

/-! ## A handler changes -/

/-- A handler counts anew, or lets go what it owns. -/
theorem setHandler (holds : f.Holds references born given) {id : HandlerId}
    {handler after : CustomHandler P}
    (there : f.handlers[id]? = some handler) {others : List Reference}
    (holders : ∀ h, ({ f with handlers := f.handlers.set id after } : Forest P).holders others h =
      f.holders references h)
    (users : ∀ other, other ≠ id →
      others.count (.handler other) = references.count (.handler other))
    (counted : after.references = f.users others id)
    (owns : after.owned = if after.references = 0 then [] else (given[id]?).getD []) :
    ({ f with handlers := f.handlers.set id after } : Forest P).Holds others born given := by
  have inside := (List.getElem?_eq_some_iff.mp there).1
  have same_users : ∀ other, other ≠ id → f.users others other = f.users references other := by
    intro other different
    rw [Forest.users, Forest.users, users other different]
  constructor
  case used =>
    intro i h found
    obtain ⟨u, reached, same, past, held⟩ := holds.used found
    exact ⟨u, reached, same, past, fun slot => (held slot).trans (holders ⟨i, slot⟩).symm⟩
  case unborn => exact holds.unborn
  case placed => exact fun {h} held => holds.placed (holders h ▸ held)
  case counted =>
    intro other found now
    by_cases here : other = id
    · subst here
      rw [List.getElem?_set_self inside, Option.some.injEq] at now
      exact now ▸ counted
    · rw [List.getElem?_set_ne (Ne.symm here)] at now
      exact (holds.counted now).trans (same_users other here).symm
  case known =>
    intro other used
    rw [List.length_set]
    by_cases here : other = id
    · exact here ▸ inside
    · exact holds.known (same_users other here ▸ used)
  case owns =>
    intro other found now
    by_cases here : other = id
    · subst here
      rw [List.getElem?_set_self inside, Option.some.injEq] at now
      exact now ▸ owns
    · rw [List.getElem?_set_ne (Ne.symm here)] at now
      exact holds.owns now
  case recorded => rw [List.length_set, holds.recorded]

theorem dropHandler {id : HandlerId} (holds : f.Holds (.handler id :: references) born given) :
    (f.dropOne (.handler id)).2.Holds ((f.dropOne (.handler id)).1 ++ references) born given := by
  have inside : id < f.handlers.length := holds.known (by rw [users, List.count_cons_self]; omega)
  have there : f.handlers[id]? = some f.handlers[id] := List.getElem?_eq_getElem inside
  generalize f.handlers[id] = handler at there
  have counted := holds.counted there
  have owns := holds.owns there
  rw [users, List.count_cons_self] at counted
  have apart : ∀ other, other ≠ id →
      references.count (.handler other) =
      (Reference.handler id :: references).count (.handler other) := by
    intro other different
    rw [List.count_cons_of_ne fun same => different (Reference.handler.inj same).symm]
  simp only [dropOne, there]
  split
  · -- the last reference goes, and with it all that the handler owns
    rename_i last
    have gone := f.owned_setHandler there { handler with owned := [], references := 0 }
    refine holds.setHandler there ?_ ?_ ?_ ?_
    · intro h
      have moved := gone.count_eq h
      simp only [List.count_append, List.nil_append, holders, count_handle_owned,
        List.count_cons_of_ne (show Reference.handler id ≠ .handle h by simp)] at moved ⊢
      omega
    · intro other different
      rw [List.count_append, count_handler_owned, Nat.zero_add, apart other different]
    · rw [users, List.count_append, count_handler_owned]
      dsimp only
      omega
    · rfl
  · rename_i several
    have kept := f.owned_setHandler there { handler with references := handler.references - 1 }
    refine holds.setHandler there ?_ ?_ ?_ ?_
    · intro h
      have moved := (List.perm_append_left_iff _ |>.mp kept).count_eq h
      rw [holders, holders, moved, List.nil_append, List.count_cons_of_ne (by simp)]
    · exact fun other different => apart other different
    · rw [users, List.nil_append]
      dsimp only
      omega
    · rw [if_neg (by omega)] at owns
      rw [if_neg (by dsimp only; omega)]
      exact owns

theorem dropOne {reference : Reference} (holds : f.Holds (reference :: references) born given) :
    (f.dropOne reference).2.Holds ((f.dropOne reference).1 ++ references) born given := by
  cases reference with
  | handler id => exact holds.dropHandler
  | handle h => exact holds.dropHandle

/-- Dropping references lets go what goes with them, and the others are left. -/
theorem drop {dropped : List Reference} (holds : f.Holds (dropped ++ references) born given) :
    (f.drop dropped).Holds references born given := by
  fun_induction Forest.drop f dropped with
  | case1 => exact holds
  | case2 f reference rest ih =>
    apply ih
    rw [List.append_assoc]
    exact dropOne holds

theorem release {h : Handle} (holds : f.Holds references born given)
    (held : .handle h ∈ references) :
    (f.release h).Holds (references.erase (.handle h)) born given :=
  drop (holds.of_perm (List.perm_cons_erase held))

/-! ## A handler comes -/

theorem retainHandler (holds : f.Holds references born given) {id : HandlerId}
    (referred : 0 < f.users references id) (count : Nat) :
    (f.retainHandler id count).Holds (List.replicate count (.handler id) ++ references)
      born given := by
  have inside : id < f.handlers.length := holds.known referred
  have there : f.handlers[id]? = some f.handlers[id] := List.getElem?_eq_getElem inside
  generalize f.handlers[id] = handler at there
  have counted := holds.counted there
  have owns := holds.owns there
  rw [users] at counted referred
  have grown := f.owned_setHandler there { handler with references := handler.references + count }
  rw [Forest.retainHandler, modify_eq_set_of_getElem? there]
  refine holds.setHandler there ?_ ?_ ?_ ?_
  · intro h
    have kept := (List.perm_append_left_iff _ |>.mp grown).count_eq h
    rw [holders, holders, kept, List.count_append, List.count_replicate]
    simp
  · intro other different
    rw [List.count_append, List.count_replicate, if_neg (by simpa using Ne.symm different),
      Nat.zero_add]
  · rw [users, List.count_append, List.count_replicate_self]
    dsimp only
    omega
  · rw [if_neg (by omega)] at owns
    rw [if_neg (by dsimp only; omega)]
    exact owns

theorem addHandles {owned : List Handle} (holds : f.Holds references born given)
    (outstanding : ∀ h ∈ owned, 0 < f.holders references h) :
    (owned.foldl Forest.addHandle f).Holds (owned.map .handle ++ references) born given := by
  induction owned generalizing f references with
  | nil => exact holds
  | cons h rest ih =>
    have more := holds.addHandle (outstanding h List.mem_cons_self)
    have still : ∀ other ∈ rest, 0 < (f.addHandle h).holders (.handle h :: references) other := by
      intro other member
      have before := outstanding other (List.mem_cons_of_mem h member)
      change 0 < _ + f.owned.count other
      rw [holders] at before
      rw [List.count_cons]
      omega
    exact (ih more still).of_perm List.perm_middle

/-- A handler comes, with the reference to it that is given out, and is handed what it owns. -/
theorem recording {owned : List Handle}
    (holds : f.Holds (owned.map .handle ++ references) born given) (program : P) :
    (f.recording ⟨program, owned, 1⟩).Holds (.handler f.handlers.length :: references) born
      (given ++ [owned]) := by
  have unused : f.users (owned.map .handle ++ references) f.handlers.length = 0 := by
    by_contra used
    exact Nat.lt_irrefl _ (holds.known (Nat.pos_of_ne_zero used))
  have same_users := f.users_recording references program owned
  have same_holders := f.holders_recording references program owned
  constructor
  case used =>
    intro i h found
    obtain ⟨u, reached, same, past, held⟩ := holds.used found
    exact ⟨u, reached, same, past, fun slot => (held slot).trans (same_holders ⟨i, slot⟩).symm⟩
  case unborn => exact holds.unborn
  case placed => exact fun {h} held => holds.placed (same_holders h ▸ held)
  case counted =>
    intro id found now
    rcases getElem?_recording now with ⟨rfl, rfl⟩ | ⟨different, there⟩
    · rw [users, List.count_append, count_handler_owned] at unused
      rw [users, List.count_cons_self]
      change 1 = _ + f.entries.count _
      omega
    · rw [same_users id different]
      exact holds.counted there
  case known =>
    intro id used
    rw [length_recording]
    by_cases last : id = f.handlers.length
    · exact last ▸ Nat.lt_succ_self _
    · exact Nat.lt_succ_of_lt (holds.known (same_users id last ▸ used))
  case owns =>
    intro id found now
    rcases getElem?_recording now with ⟨rfl, rfl⟩ | ⟨-, there⟩
    · rw [← holds.recorded, List.getElem?_concat_length]
      rfl
    · have inside : id < given.length := holds.recorded ▸ (List.getElem?_eq_some_iff.mp there).1
      rw [List.getElem?_append_left inside]
      exact holds.owns there
  case recorded => rw [length_recording, List.length_append, holds.recorded]; rfl

theorem addHandler (holds : f.Holds references born given) (program : P) {owned : List Handle}
    (outstanding : ∀ h ∈ owned, 0 < f.holders references h) :
    (f.addHandler program owned).2.Holds
      (.handler (f.addHandler program owned).1 :: references) born (given ++ [owned]) :=
  (holds.addHandles outstanding).recording program

theorem map_owned_retainHandler (f : Forest P) (id : HandlerId) (count : Nat) :
    (f.retainHandler id count).handlers.map CustomHandler.owned =
      f.handlers.map CustomHandler.owned := by
  apply List.ext_getElem?
  intro other
  rw [Forest.retainHandler, List.getElem?_map, List.getElem?_map, List.getElem?_modify]
  split <;> cases f.handlers[other]? <;> rfl

theorem owned_retainHandler (f : Forest P) (id : HandlerId) (count : Nat) :
    (f.retainHandler id count).owned = f.owned := by
  rw [Forest.owned, Forest.owned, List.flatMap_def, List.flatMap_def, map_owned_retainHandler]

theorem owned_addHandler (f : Forest P) (program : P) (owned : List Handle) :
    (f.addHandler program owned).2.owned = f.owned ++ owned := by
  have kept : (owned.foldl Forest.addHandle f).handlers = f.handlers := by
    induction owned generalizing f with
    | nil => rfl
    | cons h rest ih => exact ih (f.addHandle h)
  simp [Forest.addHandler, Forest.owned, kept]

/-- A handler is in the tables for tags; the references to those that it puts out and the one that
was given to the call are to be dropped. -/
theorem registering (holds : f.Holds references born given) {h : Handle}
    (outstanding : 0 < f.holders references h) (tags : List Tag) {id : HandlerId}
    (passed : .handler id ∈ references) :
    let retained := f.retainHandler id tags.length
    let done := (retained.hierarchy h.hierarchy).register h.slot tags (.custom id)
    (retained.setHierarchy h.hierarchy done.2).Holds
      ((done.1.filterMap Handler.reference? ++ [.handler id]) ++ references.erase (.handler id))
        born given := by
  have referred : 0 < f.users references id := Nat.add_pos_left (List.count_pos_iff.mpr passed) _
  have retained := holds.retainHandler referred tags.length
  have still : 0 < (f.retainHandler id tags.length).holders
      (List.replicate tags.length (.handler id) ++ references) h := by
    rw [holders] at outstanding ⊢
    rw [owned_retainHandler, List.count_append]
    omega
  have placed := retained.registered (.refl _) still
  dsimp only
  rw [List.append_assoc]
  exact placed.of_perm ((List.perm_cons_erase passed).append_left _)

/-- A handler is registered and those that it puts out go, and with them the reference that was
given to the call. -/
theorem registerHandler (holds : f.Holds references born given) {h : Handle}
    (outstanding : 0 < f.holders references h) (tags : List Tag) {id : HandlerId}
    (passed : .handler id ∈ references) :
    (f.registerHandler h tags id).Holds (references.erase (.handler id)) born given :=
  drop (holds.registering outstanding tags passed)

/-- A handler comes with the handles that it is given, and those that it puts out go. -/
theorem register (holds : f.Holds references born given) {h : Handle}
    (outstanding : 0 < f.holders references h) (tags : List Tag) (program : P) {owned : List Handle}
    (ownable : ∀ h ∈ owned, 0 < f.holders references h) :
    (f.register h tags program owned).Holds references born (given ++ [owned]) := by
  have added := holds.addHandler program ownable
  have still : 0 < (f.addHandler program owned).2.holders
      (.handler (f.addHandler program owned).1 :: references) h := by
    rw [holders] at outstanding ⊢
    rw [owned_addHandler, List.count_append, List.count_cons]
    omega
  have registered := added.registerHandler still tags List.mem_cons_self
  rwa [List.erase_cons_head, ← register_eq_registerHandler] at registered

end Holds

end Forest

end RowMapper
