import RowMapper.Compiler.Render
import RowMapper.Proofs.Hierarchy.Usage
/-!
What compilers inherit. The effective tables of a compiler answer as the nearest compiler on the way
up to the root does on which the answer was ever set, with what was set there last; so a node is
given to the handler of the first tag of its lineage that has one anywhere on that way.
-/

set_option autoImplicit false

namespace RowMapper

variable {H α : Type}

def Edit.handlerFor (tag : Tag) : Edit H → Option H
  | .register tags handler => if tag ∈ tags then some handler else none
  | _ => none

def Edit.precedenceFor (tag : Tag) : Edit H → Option Int
  | .setPrecedence precedence tags => if tag ∈ tags then some precedence else none
  | _ => none

/-- What a change marks a word as, the word given in lower case. -/
def Edit.markFor (word : String) : Edit H → Option Bool
  | .markWords reserved words => if word ∈ words.map Text.toLowerCase then some reserved else none
  | _ => none

/-- What was set last on a compiler since it came into its slot. -/
def lastSet (set : Edit H → Option α) (id : Nat) : List (Event H) → Option α
  | [] => none
  | .created child _ :: earlier => if child = id then none else lastSet set id earlier
  | .edited other e :: earlier =>
    if other = id then (set e).or (lastSet set id earlier) else lastSet set id earlier

/-- What was set last on the nearest compiler of the way up on which anything was set. -/
def nearest (set : Edit H → Option α) (past : List (Event H)) (id : Nat) : Option α :=
  (pathUp (births past) id).findSome? fun other => lastSet set other past

/-- The handler of the first tag of a lineage that has one anywhere on the way up. -/
def firstHandler (past : List (Event H)) (id : Nat) (lineage : List Tag) : Option H :=
  lineage.findSome? fun tag => nearest (Edit.handlerFor tag) past id

/-- A lookup in tables, with what a change sets for it. -/
structure Query (H α : Type) where
  find : Tables H → Option α
  set : Edit H → Option α
  find_empty : find .empty = none
  find_extend : ∀ t other : Tables H, find (t.extend other) = (find other).or (find t)
  find_apply : ∀ (e : Edit H) (t : Tables H), find (e.apply t) = (set e).or (find t)

namespace Query

def handler (tag : Tag) : Query H H where
  find t := t.handlers.get? tag
  set := Edit.handlerFor tag
  find_empty := rfl
  find_extend t other := Dict.get?_extend t.handlers other.handlers tag
  find_apply e t := by
    cases e with
    | register tags handler =>
      rw [Edit.apply, Tables.get?_register, Edit.handlerFor]
      split <;> rfl
    | setPrecedence precedence tags => rfl
    | markWords reserved words => rfl

def precedence (tag : Tag) : Query H Int where
  find t := t.precedences.get? tag
  set := Edit.precedenceFor tag
  find_empty := rfl
  find_extend t other := Dict.get?_extend t.precedences other.precedences tag
  find_apply e t := by
    cases e with
    | register tags handler => rfl
    | setPrecedence precedence tags =>
      rw [Edit.apply, Tables.get?_setPrecedence, Edit.precedenceFor]
      split <;> rfl
    | markWords reserved words => rfl

/-- The mark of a word, given in lower case. -/
def mark (word : String) : Query H Bool where
  find t := t.reserved.get? word
  set := Edit.markFor word
  find_empty := rfl
  find_extend t other := Dict.get?_extend t.reserved other.reserved word
  find_apply e t := by
    cases e with
    | register tags handler => rfl
    | setPrecedence precedence tags => rfl
    | markWords reserved words =>
      rw [Edit.apply, Tables.get?_markWords, Edit.markFor]
      split <;> rfl

/-- Merged tables answer as the last of them that does. -/
theorem find_merge (q : Query H α) (path : List (Tables H)) :
    q.find (.merge path) = path.reverse.findSome? q.find := by
  induction path using List.reverseRecOn with
  | nil => exact q.find_empty
  | append_singleton path last ih =>
    rw [Tables.merge, List.foldl_append, List.foldl_cons, List.foldl_nil, q.find_extend,
      List.reverse_append, List.reverse_singleton, List.singleton_append, List.findSome?_cons]
    rw [Tables.merge] at ih
    rw [ih]
    cases q.find last <;> rfl

end Query

namespace Usage

/-- The tables of a hierarchy in use agree with what has happened: the path of every compiler is the
one on which it came, its own tables hold what was set last since then, and those in effect are
merged from the own tables on its path. -/
structure Inherits (u : Usage H) : Prop where
  path : ∀ {id node}, u.hierarchy.node? id = some node →
    node.parents ++ [id] = (pathUp (births u.past) id).reverse
  own : ∀ {α : Type} (q : Query H α) {id node}, u.hierarchy.node? id = some node →
    q.find node.own = lastSet q.set id u.past
  fresh : ∀ {id node}, u.hierarchy.node? id = some node →
    node.effective = u.hierarchy.mergedTables id node

end Usage

/-- The two compilers have the same path and the same tables. -/
structure CompilerNode.Alike (a b : CompilerNode H) : Prop where
  parents : a.parents = b.parents
  own : a.own = b.own
  effective : a.effective = b.effective

namespace Hierarchy

theorem ownTables_eq {h : Hierarchy H} {id : Nat} {node : CompilerNode H}
    (found : h.node? id = some node) : h.ownTables id = node.own := by
  simp only [ownTables, found]

/-- What is merged along a path depends on the own tables on it alone. -/
theorem mergedTables_congr {h h' : Hierarchy H} {id : Nat} {node node' : CompilerNode H}
    (parents : node'.parents = node.parents)
    (own : ∀ p ∈ node.parents ++ [id], h'.ownTables p = h.ownTables p) :
    h'.mergedTables id node' = h.mergedTables id node := by
  rw [mergedTables, mergedTables, parents, List.map_congr_left own]

/-- The compilers on the path of a compiler, and it itself, are there. -/
theorem Linked.live_path {h : Hierarchy H} (linked : h.Linked) {id p : Nat} {node : CompilerNode H}
    (found : h.node? id = some node) (onPath : p ∈ node.parents ++ [id]) :
    ∃ above, h.node? p = some above := by
  rcases List.mem_append.mp onPath with higher | last
  · obtain ⟨above, -, -, there, -, -⟩ := linked.above_of_mem found higher
    exact ⟨above, there⟩
  · exact ⟨node, List.mem_singleton.mp last ▸ found⟩

/-- Beside a new child, every compiler was there, and only its children may differ. -/
theorem Linked.alike_createChild {h : Hierarchy H} (linked : h.Linked) {p : Nat}
    {above : CompilerNode H} (found : h.node? p = some above) {id : Nat} {node : CompilerNode H}
    (there : (h.createChild p).2.node? id = some node) :
    ((h.createChild p).1 = id ∧ node.parents = above.parents ++ [p] ∧ node.own = .empty ∧
      node.effective = (h.createChild p).2.mergedTables id node) ∨
    ∃ before, h.node? id = some before ∧ node.Alike before := by
  rcases linked.cases_createChild found there with ⟨new, rfl⟩ | ⟨rfl, rfl⟩ | was
  · exact Or.inl ⟨new, rfl, rfl, rfl⟩
  · exact Or.inr ⟨above, found, rfl, rfl, rfl⟩
  · exact Or.inr ⟨node, was, rfl, rfl, rfl⟩

theorem Linked.ownTables_createChild {h : Hierarchy H} (linked : h.Linked) {p id : Nat}
    {above node : CompilerNode H} (found : h.node? p = some above)
    (there : h.node? id = some node) :
    (h.createChild p).2.ownTables id = h.ownTables id := by
  have after := node?_createChild linked found id
  rw [if_neg (linked.createChild_ne found there)] at after
  rw [ownTables_eq there]
  by_cases here : p = id
  · subst here
    cases found.symm.trans there
    rw [if_pos rfl] at after
    rw [ownTables_eq after]
  · rw [if_neg here, there] at after
    rw [ownTables_eq after]

/-- An edit of the own tables of a compiler renews the tables in effect there and below. -/
theorem Linked.back_edit {h : Hierarchy H} (linked : h.Linked) {id other : Nat} {e : Edit H}
    {node : CompilerNode H} (there : (e.perform h id).node? other = some node) :
    ∃ before, h.node? other = some before ∧ node.parents = before.parents ∧
      (node.own = if other = id then e.apply before.own else before.own) ∧
      (node.effective = (e.perform h id).mergedTables other node ∨
        id ∉ before.parents ++ [other] ∧ node.effective = before.effective) := by
  rw [e.perform_eq] at there ⊢
  rw [node?_edit linked id other e.apply] at there
  obtain ⟨before, was, rfl⟩ := Option.map_eq_some_iff.mp there
  refine ⟨before, was, ?_⟩
  by_cases here : other = id
  · simp only [here, ↓reduceIte]
    exact ⟨trivial, trivial, Or.inl rfl⟩
  · by_cases below : id ∈ before.parents
    · simp only [here, below, ↓reduceIte]
      exact ⟨trivial, trivial, Or.inl rfl⟩
    · have elsewhere : id ∉ before.parents ++ [other] := by
        simpa [below] using fun same => here same.symm
      simp only [here, below, ↓reduceIte]
      exact ⟨trivial, trivial, Or.inr ⟨elsewhere, trivial⟩⟩

theorem Linked.ownTables_edit {h : Hierarchy H} (linked : h.Linked) {id other : Nat} {e : Edit H}
    {node : CompilerNode H} (there : h.node? other = some node) (different : other ≠ id) :
    (e.perform h id).ownTables other = h.ownTables other := by
  have after := node?_edit linked id other e.apply
  rw [← e.perform_eq, there, Option.map_some, if_neg different] at after
  rw [ownTables_eq after, ownTables_eq there]
  split <;> rfl

end Hierarchy

namespace Usage

namespace Inherits

variable {u : Usage H}

theorem root : (⟨.root, [0], []⟩ : Usage H).Inherits := by
  constructor
  case path =>
    intro id node found
    obtain ⟨rfl, rfl⟩ := Hierarchy.eq_of_node?_root found
    rfl
  case own =>
    intro α q id node found
    rw [(Hierarchy.eq_of_node?_root found).2]
    exact q.find_empty
  case fresh =>
    intro id node found
    obtain ⟨rfl, rfl⟩ := Hierarchy.eq_of_node?_root found
    rfl

/-- Calls that only let compilers go, or that change nothing but handles. -/
theorem of_alike (inherits : u.Inherits) (after : Usage H) (past : after.past = u.past)
    (linked : after.hierarchy.Linked)
    (alike : ∀ {id node}, after.hierarchy.node? id = some node →
      ∃ before, u.hierarchy.node? id = some before ∧ node.Alike before) : after.Inherits := by
  constructor
  case path =>
    intro id node found
    obtain ⟨before, was, same⟩ := alike found
    rw [past, same.parents, inherits.path was]
  case own =>
    intro α q id node found
    obtain ⟨before, was, same⟩ := alike found
    rw [past, same.own, inherits.own q was]
  case fresh =>
    intro id node found
    obtain ⟨before, was, same⟩ := alike found
    rw [same.effective, inherits.fresh was]
    refine (Hierarchy.mergedTables_congr same.parents ?_).symm
    intro p onPath
    obtain ⟨above, there⟩ := linked.live_path found (same.parents ▸ onPath)
    obtain ⟨higher, present, own⟩ := alike there
    rw [Hierarchy.ownTables_eq there, Hierarchy.ownTables_eq present, own.own]

theorem clone (inherits : u.Inherits) (sound : u.Sound) (id : Nat) :
    (u.call id .clone).Inherits := by
  have linked : (u.call id .clone).hierarchy.Linked := sound.linked.adjust id fun _ => rfl
  apply inherits.of_alike (u.call id .clone) rfl linked
  intro other node there
  change (u.hierarchy.addHandle id).node? other = some node at there
  rw [Hierarchy.addHandle, Hierarchy.node?_adjust] at there
  split at there
  · obtain ⟨before, was, rfl⟩ := Option.map_eq_some_iff.mp there
    exact ⟨before, was, rfl, rfl, rfl⟩
  · exact ⟨node, there, rfl, rfl, rfl⟩

theorem drop (inherits : u.Inherits) (sound : u.Sound) (id : Nat) : (u.call id .drop).Inherits := by
  apply inherits.of_alike (u.call id .drop) rfl (sound.drop id).linked
  intro other node there
  obtain ⟨between, dropped, same⟩ := Hierarchy.remains_vacate _ id there
  rw [Hierarchy.node?_adjust] at dropped
  split at dropped
  · obtain ⟨before, was, rfl⟩ := Option.map_eq_some_iff.mp dropped
    exact ⟨before, was, by rw [same], by rw [same], by rw [same]⟩
  · exact ⟨between, dropped, by rw [same], by rw [same], by rw [same]⟩

theorem createChild (inherits : u.Inherits) (sound : u.Sound) {id : Nat}
    (outstanding : id ∈ u.held) :
    (u.call id .createChild).Inherits := by
  obtain ⟨above, found⟩ := sound.live outstanding
  have linked := sound.linked
  constructor
  case path =>
    intro other node there
    change node.parents ++ [other] =
      (pathUp (((u.hierarchy.createChild id).1, id) :: births u.past) other).reverse
    rcases linked.alike_createChild found there with ⟨rfl, parents, -, -⟩ | ⟨before, was, same⟩
    · rw [pathUp, if_pos rfl, List.reverse_cons, ← inherits.path found, parents]
    · rw [pathUp, if_neg (linked.createChild_ne found was), ← inherits.path was, same.parents]
  case own =>
    intro α q other node there
    change q.find node.own = lastSet q.set other
      (.created (u.hierarchy.createChild id).1 id :: u.past)
    rcases linked.alike_createChild found there with ⟨rfl, -, none_yet, -⟩ | ⟨before, was, same⟩
    · rw [lastSet, if_pos rfl, none_yet, q.find_empty]
    · rw [lastSet, if_neg (linked.createChild_ne found was), ← inherits.own q was, same.own]
  case fresh =>
    intro other node there
    change node.effective = (u.hierarchy.createChild id).2.mergedTables other node
    rcases linked.alike_createChild found there with ⟨-, -, -, merged⟩ | ⟨before, was, same⟩
    · exact merged
    · rw [same.effective, inherits.fresh was]
      refine (Hierarchy.mergedTables_congr same.parents ?_).symm
      intro p onPath
      obtain ⟨higher, present⟩ := linked.live_path was onPath
      exact linked.ownTables_createChild found present

theorem edit (inherits : u.Inherits) (sound : u.Sound) (id : Nat) (e : Edit H) :
    (u.call id (.edit e)).Inherits := by
  have linked := sound.linked
  constructor
  case path =>
    intro other node there
    obtain ⟨before, was, parents, -, -⟩ := linked.back_edit there
    change node.parents ++ [other] = (pathUp (births u.past) other).reverse
    rw [parents, inherits.path was]
  case own =>
    intro α q other node there
    obtain ⟨before, was, -, own, -⟩ := linked.back_edit there
    change q.find node.own = lastSet q.set other (.edited id e :: u.past)
    rw [lastSet, own, ← inherits.own q was]
    by_cases here : other = id
    · rw [if_pos here, if_pos here.symm, q.find_apply]
    · rw [if_neg here, if_neg fun same => here same.symm]
  case fresh =>
    intro other node there
    obtain ⟨before, was, parents, -, renewed | ⟨elsewhere, kept⟩⟩ := linked.back_edit there
    · exact renewed
    · change node.effective = (e.perform u.hierarchy id).mergedTables other node
      rw [kept, inherits.fresh was]
      refine (Hierarchy.mergedTables_congr parents ?_).symm
      -- no compiler on the path has changed
      intro p onPath
      obtain ⟨above, present⟩ := linked.live_path was onPath
      exact linked.ownTables_edit present fun same => elsewhere (same ▸ onPath)

end Inherits

/-- Whatever calls are made on outstanding handles, the tables agree with what has happened. -/
theorem Reachable.inherits {u : Usage H} (reached : u.Reachable) : u.Inherits := by
  induction reached with
  | root => exact Inherits.root
  | call c earlier outstanding ih =>
    cases c with
    | createChild => exact ih.createChild earlier.sound outstanding
    | clone => exact ih.clone earlier.sound _
    | drop => exact ih.drop earlier.sound _
    | edit e => exact ih.edit earlier.sound _ e

/-- The tables in effect on a compiler answer what was set last on the nearest compiler of the way
up. -/
theorem Reachable.find_effective {u : Usage H} (reached : u.Reachable) {id : Nat}
    (held : id ∈ u.held) (q : Query H α) :
    q.find (u.hierarchy.effective id) = nearest q.set u.past id := by
  obtain ⟨node, found⟩ := reached.sound.live held
  have inherits := reached.inherits
  have tables : u.hierarchy.effective id = u.hierarchy.mergedTables id node := by
    rw [← inherits.fresh found]
    simp only [Hierarchy.effective, found]
  have up : pathUp (births u.past) id = (node.parents ++ [id]).reverse := by
    rw [inherits.path found, List.reverse_reverse]
  have own : ∀ p ∈ (node.parents ++ [id]).reverse,
      q.find (u.hierarchy.ownTables p) = lastSet q.set p u.past := by
    intro p onPath
    obtain ⟨above, there⟩ := reached.sound.linked.live_path found (List.mem_reverse.mp onPath)
    rw [Hierarchy.ownTables_eq there, inherits.own q there]
  calc q.find (u.hierarchy.effective id)
      = ((node.parents ++ [id]).reverse.map fun p => q.find (u.hierarchy.ownTables p)).findSome?
        (·) := by
        rw [tables, Hierarchy.mergedTables, q.find_merge, ← List.map_reverse, List.findSome?_map,
          List.findSome?_map]
        rfl
    _ = ((node.parents ++ [id]).reverse.map fun p => lastSet q.set p u.past).findSome? (·) := by
        rw [List.map_congr_left own]
    _ = nearest q.set u.past id := by
        rw [nearest, up, List.findSome?_map]
        rfl

theorem Reachable.handler?_effective {u : Usage H} (reached : u.Reachable) {id : Nat}
    (held : id ∈ u.held) (lineage : List Tag) :
    (u.hierarchy.effective id).handler? lineage = firstHandler u.past id lineage := by
  have each : (u.hierarchy.effective id).handlers.get? =
      fun tag => nearest (Edit.handlerFor tag) u.past id := by
    funext tag
    exact reached.find_effective held (Query.handler tag)
  rw [Tables.handler?, firstHandler, each]

theorem Reachable.precedence_effective {u : Usage H} (reached : u.Reachable) {id : Nat}
    (held : id ∈ u.held) (tag : Tag) :
    (u.hierarchy.effective id).precedence tag =
      (nearest (Edit.precedenceFor tag) u.past id).getD Tables.highest := by
  have found := reached.find_effective held (Query.precedence tag)
  exact congrArg (Option.getD · Tables.highest) found

theorem Reachable.isReserved_effective {u : Usage H} (reached : u.Reachable) {id : Nat}
    (held : id ∈ u.held) (word : String) :
    (u.hierarchy.effective id).isReserved word =
      (nearest (Edit.markFor (Text.toLowerCase word)) u.past id).getD false := by
  have found := reached.find_effective held (Query.mark (Text.toLowerCase word))
  exact congrArg (Option.getD · false) found

end Usage

theorem firstHandler_eq_none {past : List (Event H)} {id : Nat} {lineage : List Tag} :
    firstHandler past id lineage = none ↔
      ∀ tag ∈ lineage, ∀ other ∈ pathUp (births past) id,
      lastSet (Edit.handlerFor tag) other past = none := by
  simp only [firstHandler, nearest, List.findSome?_eq_none_iff]

/-- What the tables of a compiler answer is what was set last on the nearest compiler of the way up
to the root on which it was ever set. A node goes to the handler of the first tag of its lineage
that has one anywhere on that way, with the precedence of its own tag; it fails, naming its own tag,
exactly if no tag of its lineage has one. -/
theorem effective_tables_are_nearest {u : Usage H} (reached : u.Reachable) {id : Nat}
    (held : id ∈ u.held) :
    (∀ tag, (u.hierarchy.effective id).handlers.get? tag =
      nearest (Edit.handlerFor tag) u.past id) ∧
    (∀ tag, (u.hierarchy.effective id).precedence tag =
      (nearest (Edit.precedenceFor tag) u.past id).getD Tables.highest) ∧
    (∀ word, (u.hierarchy.effective id).isReserved word =
      (nearest (Edit.markFor (Text.toLowerCase word)) u.past id).getD false) ∧
    ∀ {σ : Type} (c : Compiler σ H) (run : H → Node → Act (Compiling σ) String) (outer : Int)
      (node : Node) (s : Compiling σ), c.tables s.outer = u.hierarchy.effective id →
      (∀ handler, firstHandler u.past id node.lineage = some handler →
        let inner := (nearest (Edit.precedenceFor node.tag) u.past id).getD Tables.highest
        c.compileNode run outer node s =
          (do let text ← run handler node
              return if inner < outer then "(" ++ text ++ ")" else text : Act (Compiling σ) String)
            ⟨s.outer, s.pass.withPrecedence inner⟩) ∧
      ((∃ e, (c.lookup node s).1 = .error e) ↔
        ∀ tag ∈ node.lineage, ∀ other ∈ pathUp (births u.past) id,
        lastSet (Edit.handlerFor tag) other u.past = none) ∧
      ((∀ tag ∈ node.lineage, ∀ other ∈ pathUp (births u.past) id,
          lastSet (Edit.handlerFor tag) other u.past = none) →
        c.compileNode run outer node s =
          (.error (.noHandler node.tag.name (c.describe s.outer node)), s)) := by
  refine ⟨fun tag => reached.find_effective held (Query.handler tag),
    reached.precedence_effective held, reached.isReserved_effective held, ?_⟩
  intro σ c run outer node s tables
  have handlers : (c.tables s.outer).handler? node.lineage =
      firstHandler u.past id node.lineage := by
    rw [tables, reached.handler?_effective held]
  refine ⟨?_, ?_, ?_⟩
  · intro handler first
    have compiled := c.compileNode_of_handler run outer node s (handlers.trans first)
    rw [tables, reached.precedence_effective held] at compiled
    exact compiled
  · rw [c.lookup_error_iff, handlers, firstHandler_eq_none]
  · intro nowhere
    have absent := handlers.trans (firstHandler_eq_none.mpr nowhere)
    rw [Compiler.compileNode, Act.bind_of_error _ _ _ _ _ (c.lookup_of_none node s absent)]

/-- A child that reserved a word is dropped, and its slot used again for a child with a handler for
all operators, under which another child comes; a handler for subtraction alone is on the root. -/
def reusedSlot : Usage Nat :=
  (((((((⟨.root, [0], []⟩ : Usage Nat).call 0 .createChild).call 1
    (.edit (.markWords true ["Total"]))).call 1 .drop).call 0 .createChild).call 0
      (.edit (.register [BinaryOp.sub.tag] 7))).call 1
    (.edit (.register [.binary] 8))).call 1 .createChild

theorem reusedSlot_reachable : reusedSlot.Reachable := by
  refine .call _ (.call _ (.call _ (.call _ (.call _ (.call _ (.call _ .root ?_) ?_) ?_) ?_) ?_) ?_)
    ?_
  all_goals decide +kernel

/-- Below the slot used again, the word is not reserved any more, and a subtraction goes to the
handler on the root although a compiler nearer by has one for all operators. -/
theorem reusedSlot_tables_are_nearest :
    reusedSlot.Reachable ∧ 2 ∈ reusedSlot.held ∧
    (reusedSlot.hierarchy.effective 2).handlers.get? .binary = some 8 ∧
    (reusedSlot.hierarchy.effective 2).isReserved "total" = false ∧
    ∀ left right : Expr, Compiler.compileNode ⟨fun _ => reusedSlot.hierarchy.effective 2,
      fun _ _ => ""⟩ (fun handler _ => pure (toString handler)) 0
      (.binary .sub left right) ⟨(), {}⟩ =
        (.ok "7", ⟨(), { precedence := 1000 }⟩) := by
  have held : 2 ∈ reusedSlot.held := by decide +kernel
  obtain ⟨handlers, -, reserved, compiled⟩ := effective_tables_are_nearest reusedSlot_reachable held
  refine ⟨reusedSlot_reachable, held, (handlers _).trans (by decide +kernel),
    (reserved _).trans (by decide +kernel), ?_⟩
  intro left right
  have first : firstHandler reusedSlot.past 2 (Node.binary .sub left right).lineage = some 7 := by
    change firstHandler reusedSlot.past 2 [BinaryOp.sub.tag, .nonAssociative, .binary] = some 7
    decide +kernel
  have own : nearest (Edit.precedenceFor (Node.binary .sub left right).tag) reusedSlot.past 2 =
      none := by
    change nearest (Edit.precedenceFor BinaryOp.sub.tag) reusedSlot.past 2 = none
    decide +kernel
  refine ((compiled _ _ 0 (.binary .sub left right) ⟨(), {}⟩ rfl).1 7 first).trans ?_
  rw [own]
  rfl

end RowMapper
