import RowMapper.Proofs.Forest.Machine
/-!
No handler dies while a hierarchy is borrowed. A call that has a hierarchy borrowed does its tasks
one after the other, and each is careful: what it takes out of tables it has in its hands, or it
stands in own tables still. So nothing is dropped before the hierarchy is given back, and a handler
that dies then may own handles on the same hierarchy. The machine, which looks for references
instead of counting them, comes to the forest that counting leads to.
-/

set_option autoImplicit false

namespace RowMapper

/-- What comes from a list is left when one element is set to another, but for what comes from that
one. -/
theorem mem_flatMap_set {α β : Type} (g : α → List β) {l : List α} {i : Nat} {a : α}
    (there : l[i]? = some a) (b : α) {x : β} (member : x ∈ l.flatMap g) :
    x ∈ g a ∨ x ∈ (l.set i b).flatMap g :=
  List.mem_append.mp ((Hierarchy.flatMap_set_perm g there b).mem_iff.mpr
    (List.mem_append_right _ member))

theorem Reference.handler?_eq_some {reference : Reference} {handler : Handler} :
    reference.handler? = some handler ↔ ∃ id, reference = .handler id ∧ handler = .custom id := by
  cases reference with
  | handler id => simp [handler?, eq_comm]
  | handle h => simp [handler?]

/-- Between calls the effective tables of every hierarchy hold handlers of own tables alone. -/
theorem Forest.Holds.covered {P : Type} {f : Forest P} {references : List Reference}
    {born : Nat → List (Nat × Nat)} {given : List (List Handle)}
    (holds : f.Holds references born given) {i : Nat} {h : Hierarchy Handler}
    (there : f.hierarchies[i]? = some h) : h.Covered [] := by
  obtain ⟨u, reached, same, -⟩ := holds.used there
  exact same ▸ reached.covered

namespace Machine

/-! ## What is referred to -/

/-- What is referred to while nothing but dropping is under way. -/
theorem mem_handlers_dropping {hierarchies : List (Hierarchy Handler)} {owned : List (List Handle)}
    {held : List Handler} {lists : List (List Reference)} {handler : Handler} :
    handler ∈ (Machine.mk hierarchies owned held (lists.map .dropping)).handlers ↔
      handler ∈ hierarchies.flatMap Hierarchy.handlers ++ held ∨
        ∃ id, handler = .custom id ∧ .handler id ∈ lists.flatten := by
  have below : (lists.map Frame.dropping).flatMap Frame.handlers =
      lists.flatten.filterMap Reference.handler? := by
    rw [List.flatMap_map, List.filterMap_flatten]
    rfl
  rw [handlers, below, List.mem_append, List.mem_filterMap]
  refine or_congr_right ⟨?_, ?_⟩
  · rintro ⟨reference, listed, referred⟩
    obtain ⟨id, rfl, rfl⟩ := Reference.handler?_eq_some.mp referred
    exact ⟨id, rfl, listed⟩
  · rintro ⟨id, rfl, listed⟩
    exact ⟨.handler id, listed, rfl⟩

theorem mem_handlers_cons {hierarchies : List (Hierarchy Handler)} {owned : List (List Handle)}
    {held : List Handler} {id : HandlerId} {references : List Reference}
    {lists : List (List Reference)} {handler : Handler} :
    handler ∈ (Machine.mk hierarchies owned held
      (((.handler id :: references) :: lists).map .dropping)).handlers ↔
      handler = .custom id ∨
        handler ∈ (Machine.mk hierarchies owned held
          ((references :: lists).map .dropping)).handlers := by
  rw [mem_handlers_dropping, mem_handlers_dropping]
  simp only [List.flatten_cons, List.cons_append, List.mem_cons, Reference.handler.injEq]
  grind

/-! ## Calls that have a hierarchy borrowed -/

section

variable {last : Machine} {hierarchies : List (Hierarchy Handler)} {owned : List (List Handle)}
    {held : List Handler} {i : Nat} {h : Hierarchy Handler} {replaced : List Handler}
    {released : List (CompilerNode Handler)} {tasks : List (Task Handler)} {rest : List Frame}

/-- A careful task leaves every handler referred to. -/
theorem mem_handlers_perform (there : hierarchies[i]? = some h) {task : Task Handler}
    (careful : task.Careful h replaced) (further : List (Task Handler)) {handler : Handler}
    (member : handler ∈ (Machine.mk hierarchies owned held
      (.borrowing i tasks replaced released :: rest)).handlers) :
    handler ∈ (Machine.mk (hierarchies.set i (task.perform h).hierarchy) owned held
      (.borrowing i further (replaced ++ (task.perform h).replaced)
        (released ++ (task.perform h).released) :: rest)).handlers := by
  have inside : i < hierarchies.length := (List.getElem?_eq_some_iff.mp there).1
  have tables : handler ∈ (task.perform h).hierarchy.handlers →
      handler ∈ (hierarchies.set i (task.perform h).hierarchy).flatMap Hierarchy.handlers :=
    fun stays => List.mem_flatMap.mpr ⟨_, List.mem_set inside _, stays⟩
  simp only [handlers, List.flatMap_cons, Frame.handlers, List.flatMap_append,
    List.mem_append] at member ⊢
  rcases member with (inTables | outside) | ((inHand | inTaken) | below)
  · rcases mem_flatMap_set Hierarchy.handlers there (task.perform h).hierarchy inTables
      with here | elsewhere
    · rcases careful.kept handler here with stays | given | gone | taken
      · exact Or.inl (Or.inl (tables stays))
      · exact Or.inr (Or.inl (Or.inl (Or.inl given)))
      · exact Or.inr (Or.inl (Or.inl (Or.inr gone)))
      · exact Or.inr (Or.inl (Or.inr (Or.inr taken)))
    · exact Or.inl (Or.inl elsewhere)
  · exact Or.inl (Or.inr outside)
  · exact Or.inr (Or.inl (Or.inl (Or.inl inHand)))
  · exact Or.inr (Or.inl (Or.inr (Or.inl inTaken)))
  · exact Or.inr (Or.inr below)

/-- A careful task is done from a safe state. -/
theorem Ends.task (there : hierarchies[i]? = some h) {task : Task Handler}
    (careful : task.Careful h replaced)
    (ends : Ends last ⟨hierarchies.set i (task.perform h).hierarchy, owned, held,
      .borrowing i ((task.perform h).next ++ tasks) (replaced ++ (task.perform h).replaced)
      (released ++ (task.perform h).released) :: rest⟩) :
    Ends last ⟨hierarchies, owned, held,
      .borrowing i (task :: tasks) replaced released :: rest⟩ := by
  let now : Machine :=
    ⟨hierarchies, owned, held, .borrowing i (task :: tasks) replaced released :: rest⟩
  let next : Machine := ⟨hierarchies.set i (task.perform h).hierarchy, owned, held,
    .borrowing i ((task.perform h).next ++ tasks) (replaced ++ (task.perform h).replaced)
      (released ++ (task.perform h).released) :: rest⟩
  have inside : i < hierarchies.length := (List.getElem?_eq_some_iff.mp there).1
  have before : now.hierarchy i = h := by simp only [hierarchy, now, there, Option.getD_some]
  have after : next.hierarchy i = (task.perform h).hierarchy := by
    simp only [hierarchy, next, List.getElem?_set_self inside, Option.getD_some]
  have kept : ∀ handler ∈ now.handlers, handler ∈ next.handlers :=
    fun _ => mem_handlers_perform there careful ((task.perform h).next ++ tasks)
  have stepped : now.step = some next := by
    change some (now.settle ⟨hierarchies.set i (task.perform (now.hierarchy i)).hierarchy,
      owned, held, .borrowing i ((task.perform (now.hierarchy i)).next ++ tasks)
        (replaced ++ (task.perform (now.hierarchy i)).replaced)
        (released ++ (task.perform (now.hierarchy i)).released) :: rest⟩) = some next
    rw [before]
    exact congrArg some (settle_of_kept kept)
  refine .step ?_ stepped ends
  constructor
  case alive =>
    intro j following same _ _
    cases stepped.symm.trans same
    exact kept
  case held =>
    intro j slot further aside taken below same handler member
    cases same
    rw [before] at member ⊢
    exact careful.held slot rfl handler member
  case handedOut =>
    intro j other further aside taken below following same next_eq
    cases same
    cases stepped.symm.trans next_eq
    refine ⟨_, _, _, rfl, fun slot node found gone => ?_⟩
    rw [before] at found
    rw [after] at gone
    exact careful.handedOut slot node found gone
  case unborrowed =>
    intro references below same
    cases same

/-- The effective tables of compilers are overwritten one after the other, each with those of all
below it. The induction is on how deep it goes below them, and then on the compilers; what was
overwritten already is in `done`. -/
theorem Ends.updates (linked : h.Linked) (inside : i < hierarchies.length)
    (covered : h.Covered replaced) (depth : Nat) (slots done : List Nat)
    (tasks : List (Task Handler)) (live : ∀ slot ∈ slots, ∃ node, h.node? slot = some node ∧
      h.slots.length ≤ node.parents.length + depth)
    (ends : Ends last ⟨hierarchies.set i
      ((done ++ slots.flatMap (h.belowTo depth)).foldl Hierarchy.renew h), owned, held,
      .borrowing i tasks replaced released :: rest⟩) :
    Ends last ⟨hierarchies.set i (done.foldl Hierarchy.renew h), owned, held,
      .borrowing i (slots.map .update ++ tasks) replaced released :: rest⟩ := by
  induction depth generalizing slots done tasks with
  | zero =>
    cases slots with
    | nil => simpa using ends
    | cons slot more =>
      -- no path is longer than there are slots
      obtain ⟨node, found, deep⟩ := live slot List.mem_cons_self
      exact absurd (linked.length_parents_lt found) (Nat.not_lt.mpr deep)
  | succ depth below =>
    induction slots generalizing done with
    | nil => simpa using ends
    | cons slot more along =>
      obtain ⟨node, found, deep⟩ := live slot List.mem_cons_self
      have children : (Hierarchy.renew (done.foldl Hierarchy.renew h) slot).childrenOf slot =
          node.children := by
        rw [Hierarchy.childrenOf_renew, Hierarchy.childrenOf_foldl_renew,
          Hierarchy.childrenOf_eq found]
      have reached : h.belowTo (depth + 1) slot =
          slot :: node.children.flatMap (h.belowTo depth) := by
        rw [Hierarchy.belowTo, Hierarchy.childrenOf_eq found]
      refine Ends.task (List.getElem?_set_self inside) (.update (covered.foldl_renew done) slot) ?_
      simp only [Task.perform, children, List.set_set, List.append_nil]
      have further : (done ++ [slot]).foldl Hierarchy.renew h =
          Hierarchy.renew (done.foldl Hierarchy.renew h) slot := by rw [List.foldl_append]; rfl
      rw [← further]
      refine below node.children (done ++ [slot]) _ ?_ ?_
      · intro child listed
        obtain ⟨nearest, there, own⟩ := linked.parents_of_listed found listed
        refine ⟨nearest, there, ?_⟩
        rw [own, List.length_append, List.length_singleton]
        omega
      · refine along _ (fun other member => live other (List.mem_cons_of_mem _ member)) ?_
        rw [List.flatMap_cons, reached] at ends
        simpa only [List.append_assoc, List.cons_append, List.nil_append] using ends

/-- The effective tables of a compiler and of all below it are overwritten. -/
theorem Ends.update (there : hierarchies[i]? = some h) (linked : h.Linked)
    (covered : h.Covered replaced) {slot : Nat} {node : CompilerNode Handler}
    (found : h.node? slot = some node)
    (ends : Ends last ⟨hierarchies.set i (h.refresh slot), owned, held,
      .borrowing i tasks replaced released :: rest⟩) :
    Ends last ⟨hierarchies, owned, held,
      .borrowing i (.update slot :: tasks) replaced released :: rest⟩ := by
  obtain ⟨inside, same⟩ := List.getElem?_eq_some_iff.mp there
  have deep : ∀ other ∈ [slot], ∃ node, h.node? other = some node ∧
      h.slots.length ≤ node.parents.length + h.slots.length := by
    intro other member
    cases List.mem_singleton.mp member
    exact ⟨node, found, Nat.le_add_left ..⟩
  have whole : ([] ++ [slot].flatMap (h.belowTo h.slots.length)).foldl Hierarchy.renew h =
      h.refresh slot := by
    rw [List.nil_append, List.flatMap_singleton, Hierarchy.refresh, Hierarchy.refreshTo_eq_foldl]
  have updated : Ends last ⟨hierarchies.set i h, owned, held,
      .borrowing i (.update slot :: tasks) replaced released :: rest⟩ :=
    Ends.updates linked inside covered h.slots.length [slot] [] tasks deep (whole ▸ ends)
  rwa [← same, List.set_getElem_self] at updated

/-- The tables of a compiler change. -/
theorem Ends.edit (there : hierarchies[i]? = some h) (linked : h.Linked) (covered : h.Covered [])
    {slot : Nat} {node : CompilerNode Handler} (found : h.node? slot = some node) (e : Edit Handler)
    (ends : Ends last ⟨hierarchies.set i (e.perform h slot), owned, held,
      .borrowing i [] (e.replaced (h.ownTables slot)) [] :: rest⟩) :
    Ends last ⟨hierarchies, owned, held,
      .borrowing i [.change slot e, .update slot] [] [] :: rest⟩ := by
  have inside := (List.getElem?_eq_some_iff.mp there).1
  have changed : (h.adjust slot fun node => { node with own := e.apply node.own }).node? slot =
      some { node with own := e.apply node.own } := by
    rw [Hierarchy.node?_adjust, if_pos rfl, found, Option.map_some]
  have changedLinked : (h.adjust slot fun node => { node with own := e.apply node.own }).Linked :=
    linked.adjust slot fun _ => rfl
  refine Ends.task there (.change slot e) ?_
  refine Ends.update (List.getElem?_set_self inside) changedLinked
    (covered.change slot e) changed ?_
  rw [List.set_set]
  rwa [e.perform_eq] at ends

/-- A child comes, and its effective tables are merged. -/
theorem Ends.createChild (there : hierarchies[i]? = some h) (linked : h.Linked)
    (covered : h.Covered []) {parent : Nat} {above : CompilerNode Handler}
    (found : h.node? parent = some above)
    (ends : Ends last ⟨hierarchies.set i (h.createChild parent).2, owned, held,
      .borrowing i [] [] [] :: rest⟩) :
    Ends last ⟨hierarchies, owned, held, .borrowing i [.adopt parent] [] [] :: rest⟩ := by
  have inside := (List.getElem?_eq_some_iff.mp there).1
  have attached := linked.node?_attach found (Hierarchy.freshNode (above.parents ++ [parent]))
    (h.insert (Hierarchy.freshNode (above.parents ++ [parent]))).1
  rw [if_pos rfl] at attached
  have changedLinked :=
    linked.attach found (Hierarchy.freshNode (above.parents ++ [parent])) rfl rfl
  refine Ends.task there (.adopt linked found) ?_
  simp only [Task.perform, found, List.append_nil]
  refine Ends.update (List.getElem?_set_self inside) changedLinked
    (covered.attach linked found _) attached ?_
  rw [List.set_set]
  rwa [Hierarchy.createChild_eq found] at ends

/-- Compilers that nothing needs are taken out, going up. -/
theorem Ends.vacate (there : hierarchies[i]? = some h) (slot : Nat)
    (ends : Ends last ⟨hierarchies.set i (h.vacate slot).2, owned, held,
      .borrowing i tasks replaced (released ++ (h.vacate slot).1) :: rest⟩) :
    Ends last ⟨hierarchies, owned, held,
      .borrowing i (.vacate slot :: tasks) replaced released :: rest⟩ := by
  fun_induction Hierarchy.vacate h slot generalizing hierarchies released with
  | case1 h slot vacant =>
    refine Ends.task there (.vacate slot) ?_
    rw [Task.perform_vacate_of_none vacant]
    simpa only [List.append_nil, List.nil_append] using ends
  | case2 h slot node found idle highest =>
    refine Ends.task there (.vacate slot) ?_
    rw [Task.perform_vacate_of_idle found idle, highest]
    simpa only [Option.toList_none, List.map_nil, List.append_nil, List.nil_append] using ends
  | case3 h slot node found idle parent nearest left after above ih =>
    refine Ends.task there (.vacate slot) ?_
    rw [Task.perform_vacate_of_idle found idle, nearest]
    simp only [above] at ih
    simp only [Option.toList_some, List.map_cons, List.map_nil, List.cons_append, List.nil_append,
      List.append_nil]
    refine ih (List.getElem?_set_self (List.getElem?_eq_some_iff.mp there).1) ?_
    simpa only [List.set_set, List.append_assoc, List.cons_append, List.nil_append] using ends
  | case4 h slot node found needed =>
    refine Ends.task there (.vacate slot) ?_
    rw [Task.perform_vacate_of_needed found needed]
    simpa only [List.append_nil, List.nil_append] using ends

/-- A call gives its hierarchy back and goes on to drop what it has in its hands. -/
theorem Ends.giveBack (lists : List (List Reference))
    (ends : Ends last ⟨hierarchies, owned, held,
      (Frame.letGo replaced released :: lists).map .dropping⟩) :
    Ends last ⟨hierarchies, owned, held,
      .borrowing i [] replaced released :: lists.map .dropping⟩ := by
  refine .step ?_ rfl ends
  constructor
  case alive =>
    intro j next stepped _ borrowed
    cases stepped
    rw [isBorrowed_dropping (Frame.letGo replaced released :: lists) rfl] at borrowed
    cases borrowed
  case held => exact fun same => nomatch same
  case handedOut => exact fun same => nomatch same
  case unborrowed => exact fun same => nomatch same

/-- A reference to a handler that is referred to elsewhere is dropped, and nothing follows. -/
theorem Ends.dropReferred {id : HandlerId} {references : List Reference}
    {lists : List (List Reference)}
    (referred : .custom id ∈
      (Machine.mk hierarchies owned held ((references :: lists).map .dropping)).handlers) (ends :
      Ends last ⟨hierarchies, owned, held, (references :: lists).map .dropping⟩) :
    Ends last ⟨hierarchies, owned, held, ((.handler id :: references) :: lists).map .dropping⟩ := by
  refine .step (safe_of_dropping _ rfl)
    (congrArg some (settle_of_kept fun handler member => ?_)) ends
  rcases mem_handlers_cons.mp member with rfl | other
  · exact referred
  · exact other

/-- The last reference to a handler is dropped, and what the handler owned is dropped next. -/
theorem Ends.dropLast {id : HandlerId} {references : List Reference} {lists : List (List Reference)}
    {handles : List Handle} (there : owned[id]? = some handles)
    (gone : .custom id ∉ (Machine.mk hierarchies owned held
      ((references :: lists).map .dropping)).handlers)
    (ends : Ends last ⟨hierarchies, owned.set id [], held,
      (handles.map .handle :: references :: lists).map .dropping⟩) :
    Ends last ⟨hierarchies, owned, held, ((.handler id :: references) :: lists).map .dropping⟩ := by
  let after : Machine := ⟨hierarchies, owned, held, (references :: lists).map .dropping⟩
  have dies : (Machine.mk hierarchies owned held
      (((.handler id :: references) :: lists).map .dropping)).settle after = after.bury [id] :=
    settle_of_last (List.getElem?_eq_some_iff.mp there).1 (fun _ => mem_handlers_cons.mp)
      (mem_handlers_cons.mpr (Or.inl rfl)) gone
  refine .step (safe_of_dropping _ rfl) (congrArg some dies) ?_
  simpa [bury, after, there] using ends

/-- References to handlers that are referred to elsewhere are dropped one after the other. -/
theorem Ends.dropAllReferred (handlers : List Handler) {references : List Reference}
    {lists : List (List Reference)} (referred : ∀ id, .custom id ∈ handlers →
      .custom id ∈ hierarchies.flatMap Hierarchy.handlers ∨ .handler id ∈ references)
    (ends : Ends last ⟨hierarchies, owned, held, (references :: lists).map .dropping⟩) :
    Ends last ⟨hierarchies, owned, held,
      ((handlers.filterMap Handler.reference? ++ references) :: lists).map .dropping⟩ := by
  induction handlers with
  | nil => exact ends
  | cons handler more ih =>
    have further := ih fun id member => referred id (List.mem_cons_of_mem _ member)
    cases handler with
    | builtin b => exact further
    | custom id =>
      refine Ends.dropReferred (mem_handlers_dropping.mpr ?_) further
      rcases referred id List.mem_cons_self with tables | following
      · exact Or.inl (List.mem_append_left _ tables)
      · exact Or.inr ⟨id, rfl, List.mem_append_left _ (List.mem_append_right _ following)⟩

/-- A handle is dropped. What stands in the caches of the compilers that leave is in tables still or
dropped later, so that their own tables alone decide what dies. -/
theorem Ends.release (there : hierarchies[i]? = some h) (covered : h.Covered []) (slot : Nat)
    (lists : List (List Reference))
    (ends : Ends last ⟨hierarchies.set i (h.release slot).2, owned, held,
      (((h.release slot).1.flatMap (·.own.handlers.values)).filterMap Handler.reference? ::
        lists).map .dropping⟩) :
    Ends last ⟨hierarchies, owned, held,
      .borrowing i [.discount slot, .vacate slot] [] [] :: lists.map .dropping⟩ := by
  have inside := (List.getElem?_eq_some_iff.mp there).1
  refine Ends.task there (.discount slot) ?_
  refine Ends.vacate (List.getElem?_set_self inside) slot ?_
  refine Ends.giveBack lists ?_
  rw [List.set_set]
  change Ends last ⟨hierarchies.set i (h.release slot).2, owned, held,
    (Frame.letGo [] (h.release slot).1 :: lists).map .dropping⟩
  rw [Frame.letGo, List.nil_append, List.filterMap_append]
  refine Ends.dropAllReferred _ (fun id member => ?_) ends
  rcases covered.released slot member with own | stays
  · exact Or.inr (List.mem_filterMap.mpr ⟨_, own, rfl⟩)
  · exact Or.inl (List.mem_flatMap.mpr ⟨_, List.mem_set inside _,
      Hierarchy.mem_handlers_of_mem_entries stays⟩)

end

/-! ## Dropping references -/

section

variable {P : Type} {last : Machine} {f : Forest P} {kept rest : List Reference}
    {born : Nat → List (Nat × Nat)} {given : List (List Handle)}

/-- The machine drops references from a forest, in whatever pieces they lie, and ends. -/
def Drops (last : Machine) (f : Forest P) (kept references : List Reference) : Prop :=
  ∀ lists : List (List Reference), lists.flatten = references →
    Ends last (.of f kept (lists.map .dropping))

/-- Empty pieces are passed. -/
theorem Drops.of_first {reference : Reference}
    (first : ∀ references lists, references ++ lists.flatten = rest →
      Ends last (.of f kept (((reference :: references) :: lists).map .dropping))) :
    Drops last f kept (reference :: rest) := by
  intro lists whole
  induction lists with
  | nil => cases whole
  | cons piece lists ih =>
    cases piece with
    | nil => exact .step (safe_of_dropping ([] :: lists) rfl) rfl (ih whole)
    | cons head references =>
      obtain ⟨rfl, rest_eq⟩ := List.cons.inj whole
      exact first references lists rest_eq

theorem Drops.nil (f : Forest P) (kept : List Reference) : Drops (.of f kept []) f kept [] := by
  intro lists nothing
  induction lists with
  | nil => exact .rest rfl
  | cons piece lists ih =>
    obtain ⟨rfl, others⟩ := List.append_eq_nil_iff.mp nothing
    exact .step (safe_of_dropping ([] :: lists) rfl) rfl (ih others)

/-- Between calls a handler that stands anywhere in tables stands in own tables. -/
theorem mem_tables (holds : f.Holds kept born given) {handler : Handler} :
    handler ∈ f.hierarchies.flatMap Hierarchy.handlers ↔ handler ∈ f.entries := by
  simp only [Forest.entries, List.mem_flatMap]
  constructor
  · rintro ⟨h, there, member⟩
    obtain ⟨i, found⟩ := List.mem_iff_getElem?.mp there
    exact ⟨h, there, (holds.covered found).mem_entries_of_mem_handlers member⟩
  · rintro ⟨h, there, member⟩
    exact ⟨h, there, Hierarchy.mem_handlers_of_mem_entries member⟩

/-- The handlers that are referred to are those that have users. -/
theorem mem_handlers_of {references : List Reference} (holds : f.Holds references born given)
    {lists : List (List Reference)} {id : HandlerId} :
    .custom id ∈ (Machine.of f kept (lists.map .dropping)).handlers ↔
      0 < f.users (lists.flatten ++ kept) id := by
  have held : .custom id ∈ kept.filterMap Reference.handler? ↔ .handler id ∈ kept := by
    simp [List.mem_filterMap, Reference.handler?_eq_some]
  rw [of, mem_handlers_dropping, List.mem_append, mem_tables holds, held, Forest.users,
    Nat.add_pos_iff_pos_or_pos, List.count_pos_iff, List.count_pos_iff, List.mem_append]
  simp only [Handler.custom.injEq, ↓existsAndEq, true_and]
  tauto

/-- A reference to a handler goes, and with the last one what the handler owns. The count of the
handler tells whether the machine finds another one. -/
theorem Drops.handler {id : HandlerId} (holds : f.Holds (.handler id :: rest ++ kept) born given)
    (drops : Drops last (f.dropOne (.handler id)).2 kept ((f.dropOne (.handler id)).1 ++ rest)) :
    Drops last f kept (.handler id :: rest) := by
  refine Drops.of_first fun references lists pieces => ?_
  have referred : 0 < f.users (.handler id :: rest ++ kept) id := by
    rw [Forest.users, List.cons_append, List.count_cons_self]
    omega
  have inside : id < f.handlers.length := holds.known referred
  have there : f.handlers[id]? = some f.handlers[id] := List.getElem?_eq_getElem inside
  have owned_set : ∀ after : CustomHandler P,
      (f.handlers.set id after).map CustomHandler.owned =
      (f.handlers.map CustomHandler.owned).set id after.owned :=
    fun after => List.map_set
  have owned_there : (f.handlers.map CustomHandler.owned)[id]? = some f.handlers[id].owned := by
    rw [List.getElem?_map, there, Option.map_some]
  generalize f.handlers[id] = handler at there owned_there
  have counted := holds.counted there
  rw [Forest.users, List.cons_append, List.count_cons_self] at counted
  have whole : (references :: lists).flatten ++ kept = rest ++ kept := by
    rw [List.flatten_cons, pieces]
  simp only [Forest.dropOne, there] at drops
  split at drops
  · rename_i single
    have unused : ¬0 < f.users ((references :: lists).flatten ++ kept) id := by
      rw [whole, Forest.users]
      omega
    have dead := drops (handler.owned.map .handle :: references :: lists)
      (by rw [List.flatten_cons, List.flatten_cons, pieces])
    refine Ends.dropLast owned_there
      (fun referred => unused ((mem_handlers_of holds).mp referred)) ?_
    rwa [of, owned_set] at dead
  · rename_i several
    have used : 0 < f.users ((references :: lists).flatten ++ kept) id := by
      rw [whole, Forest.users]
      omega
    have alive := drops (references :: lists) pieces
    refine Ends.dropReferred ((mem_handlers_of holds).mpr used) ?_
    obtain ⟨_, same⟩ := List.getElem?_eq_some_iff.mp owned_there
    rwa [of, owned_set, ← same, List.set_getElem_self] at alive

/-- A handle goes. Its hierarchy is borrowed for that, and what leaves it is dropped afterwards. -/
theorem Drops.handle {h : Handle} (holds : f.Holds (.handle h :: rest ++ kept) born given)
    (drops : Drops last (f.dropOne (.handle h)).2 kept ((f.dropOne (.handle h)).1 ++ rest)) :
    Drops last f kept (.handle h :: rest) := by
  refine Drops.of_first fun references lists pieces => ?_
  have outstanding : 0 < f.holders (.handle h :: rest ++ kept) h := by
    rw [Forest.holders, List.cons_append, List.count_cons_self]
    omega
  obtain ⟨there, -⟩ := holds.live outstanding
  let now : Machine := .of f kept (((.handle h :: references) :: lists).map .dropping)
  have unborrowed : now.isBorrowed h.hierarchy = false := isBorrowed_dropping _ rfl h.hierarchy
  have started : now.step = some (.of f kept
      (.borrowing h.hierarchy [.discount h.slot, .vacate h.slot] [] [] :: (references :: lists).map
        .dropping)) :=
    if_neg (unborrowed ▸ Bool.false_ne_true)
  have ends := drops ((f.dropOne (.handle h)).1 :: references :: lists)
    (by rw [List.flatten_cons, List.flatten_cons, pieces])
  refine .step (safe_of_dropping _ rfl) started ?_
  refine Ends.release there (holds.covered there) h.slot (references :: lists) ?_
  rwa [List.filterMap_flatMap]

/-- The machine drops references as a forest does. -/
theorem Drops.drop {references : List Reference} (holds : f.Holds (references ++ kept) born given) :
    Drops (.of (f.drop references) kept []) f kept references := by
  fun_induction Forest.drop f references with
  | case1 => exact Drops.nil _ _
  | case2 f reference rest ih =>
    have drops := ih (by rw [List.append_assoc]; exact holds.dropOne)
    cases reference with
    | handler id => exact drops.handler holds
    | handle h => exact drops.handle holds

/-- A call that has nothing in its hands ends when it has given its hierarchy back. -/
theorem Ends.finish (f : Forest P) (kept : List Reference) {i : Nat} :
    Ends (.of f kept []) (.of f kept [.borrowing i [] [] []]) :=
  Ends.giveBack [] (Drops.nil f kept [[]] rfl)

end

end Machine

/-- Every command that is allowed goes through safe states alone and ends in what it leads to. -/
theorem Custody.Sound.ends {P : Type} {c : Custody P} (sound : c.Sound) {command : Command P}
    (allowed : c.Allows command) :
    Machine.Ends (.of (c.perform command).forest (c.perform command).held [])
      (c.begin command) := by
  obtain ⟨born, given, holds⟩ := sound
  cases command with
  | createRoot | createStandard | makeHandler | cloneHandler => exact .rest rfl
  | createChild parent =>
    obtain ⟨there, linked, above, found⟩ := holds.live (Sound.holders_pos allowed)
    exact .createChild there linked (holds.covered there) found
      (.finish (c.forest.createChild parent).2 c.held)
  | clone h =>
    obtain ⟨there, -⟩ := holds.live (Sound.holders_pos allowed)
    exact .task there (.count h.slot) (.finish (c.forest.addHandle h) c.held)
  | register h tags id =>
    obtain ⟨there, linked, node, found⟩ := holds.live (Sound.holders_pos allowed.1)
    have drops :=
      Machine.Drops.drop (holds.registering (Sound.holders_pos allowed.1) tags allowed.2)
    refine .edit there linked (holds.covered there) found (.register tags (.custom id))
      (.giveBack [[.handler id]] ?_)
    have ends := drops [_, [.handler id]] rfl
    rw [Frame.letGo, List.flatMap_nil, List.flatMap_nil, List.append_nil, List.append_nil,
      ← Forest.Holds.map_owned_retainHandler c.forest id tags.length]
    exact ends
  | setPrecedence h precedence tags =>
    obtain ⟨there, linked, node, found⟩ := holds.live (Sound.holders_pos allowed)
    exact .edit there linked (holds.covered there) found (.setPrecedence precedence tags)
      (.finish (c.forest.setPrecedence h precedence tags) c.held)
  | markWords h reserved words =>
    obtain ⟨there, linked, node, found⟩ := holds.live (Sound.holders_pos allowed)
    exact .edit there linked (holds.covered there) found (.markWords reserved words)
      (.finish (c.forest.markWords h reserved words) c.held)
  | drop reference =>
    exact Machine.Drops.drop (holds.of_perm (List.perm_cons_erase allowed)) [[reference]] rfl

namespace Custody

/-- No handler dies while a hierarchy is borrowed. Whatever a program has done before, a command
that is allowed runs through safe states alone, never has to borrow a hierarchy that is borrowed,
and comes to rest; and then the machine has what the forest has after the command. -/
theorem no_handler_dies_while_borrowed {P : Type} {c : Custody P} (reached : c.Reachable)
    {command : Command P} (allowed : c.Allows command) :
    (∀ n, ∃ now, (c.begin command).run n = some now ∧ now.Safe) ∧
      ∃ n, (c.begin command).run n =
      some (.of (c.perform command).forest (c.perform command).held []) :=
  (reached.sound.ends allowed).run

/-- A handler in two tables of the root owns the only handle on a grandchild, and the program has
another handler. -/
def ownerRegistered : Custody Unit :=
  ((((((((initial.perform .createRoot).perform (.createChild ⟨0, 0⟩)).perform
    (.createChild ⟨0, 1⟩)).perform (.makeHandler () [⟨0, 2⟩])).perform
      (.register ⟨0, 0⟩ [.token, .literal] 0)).perform
    (.drop (.handle ⟨0, 2⟩))).perform (.drop (.handle ⟨0, 1⟩))).perform (.makeHandler () []))

/-- When the other handler takes its place, the one that owns the handle dies and the compilers
below the root leave, one borrow after the other. -/
theorem ownerReplaced_safely :
    ownerRegistered.Reachable ∧
    let replacing : Command Unit := .register ⟨0, 0⟩ [.literal, .token] 1
    ownerRegistered.Allows replacing ∧ (ownerRegistered.forest.hierarchy 0).size = 3 ∧
    (∀ n, ∃ now, (ownerRegistered.begin replacing).run n = some now ∧ now.Safe) ∧
    (∃ n, (ownerRegistered.begin replacing).run n =
      some (.of (ownerRegistered.perform replacing).forest
        (ownerRegistered.perform replacing).held [])) ∧
    ((ownerRegistered.perform replacing).forest.hierarchy 0).size = 1 := by
  have reached : ownerRegistered.Reachable := by
    refine .perform (.perform
      (.perform (.perform (.perform (.perform (.perform (.perform .initial ?_) ?_) ?_) ?_) ?_) ?_)
        ?_) ?_
    all_goals decide +kernel
  have allowed : ownerRegistered.Allows (.register ⟨0, 0⟩ [.literal, .token] 1) := by decide +kernel
  have safely := no_handler_dies_while_borrowed reached allowed
  exact ⟨reached, allowed, by decide +kernel, safely.1, safely.2, by decide +kernel⟩

end Custody

end RowMapper
