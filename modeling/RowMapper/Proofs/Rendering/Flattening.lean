import RowMapper.Proofs.Hierarchy.Default
/-!
Flattening. Handlers that use the compiler which they are called on only to compile parts and to ask
for reserved words cannot tell a compiler in a hierarchy from a root alone with the effective tables
of that compiler for its own. So a handler that comes from a compiler further up still renders the
parts of its node with all that the compiler in use overrides.
-/

set_option autoImplicit false

namespace RowMapper

variable {σ τ H α β : Type}

/-- How a part is compiled, as a handler sees it. -/
abbrev Parts := Options → Expr → Pass → Except Error String × Pass

/-- What a handler does: given which words are reserved and how parts are compiled, it makes a text
of a node, or fails, and changes the state of the compilation. -/
abbrev Conduct := (String → Bool) → Parts → Node → Pass → Except Error String × Pass

/-- How parts are compiled where the outside has a state. -/
def Recur.parts (recur : Recur σ) (outer : σ) : Parts := fun options e pass =>
  let done := recur options e ⟨outer, pass⟩
  (done.1, done.2.pass)

def Conduct.run (conduct : Conduct) (c : Compiler σ H) (recur : Recur σ) (node : Node) :
    Act (Compiling σ) String :=
  fun s =>
    let done := conduct (c.tables s.outer).isReserved (recur.parts s.outer) node s.pass
    (done.1, ⟨s.outer, done.2⟩)

/-- The compiler in a slot, whose state of the outside is the hierarchy. -/
def Hierarchy.compilerAt (describe : Node → String) (id : Nat) : Compiler (Hierarchy H) H where
  tables h := h.effective id
  describe _ := describe

/-- Compiles through the compiler in a slot, with handlers nested at most so deeply. -/
def Hierarchy.compileAt (describe : Node → String) (conduct : H → Conduct) (id depth : Nat) :
    Recur (Hierarchy H) :=
  (compilerAt describe id).compile
    (fun handler => (conduct handler).run (compilerAt describe id)) depth

/-! ## Tables with the same answers -/

/-- The two tables answer alike. -/
structure Tables.Agree (t t' : Tables H) : Prop where
  handlers : ∀ tag, t.handlers.get? tag = t'.handlers.get? tag
  precedences : ∀ tag, t.precedences.get? tag = t'.precedences.get? tag
  reserved : ∀ word, t.reserved.get? word = t'.reserved.get? word

namespace Tables.Agree

variable {t t' t'' : Tables H}

theorem ofQueries (same : ∀ {α : Type} (q : Query H α), q.find t = q.find t') : t.Agree t' :=
  ⟨fun tag => same (.handler tag), fun tag => same (.precedence tag), fun word => same (.mark word)⟩

theorem trans (first : t.Agree t') (second : t'.Agree t'') : t.Agree t'' where
  handlers tag := (first.handlers tag).trans (second.handlers tag)
  precedences tag := (first.precedences tag).trans (second.precedences tag)
  reserved word := (first.reserved word).trans (second.reserved word)

theorem symm (agree : t.Agree t') : t'.Agree t where
  handlers tag := (agree.handlers tag).symm
  precedences tag := (agree.precedences tag).symm
  reserved word := (agree.reserved word).symm

theorem handler? (agree : t.Agree t') (lineage : List Tag) :
    t.handler? lineage = t'.handler? lineage := by
  rw [Tables.handler?, Tables.handler?, funext agree.handlers]

theorem precedence (agree : t.Agree t') (tag : Tag) : t.precedence tag = t'.precedence tag := by
  rw [Tables.precedence, Tables.precedence, agree.precedences]

theorem isReserved (agree : t.Agree t') : t.isReserved = t'.isReserved := by
  funext word
  rw [Tables.isReserved, Tables.isReserved, agree.reserved]

end Tables.Agree

/-! ## Compilations that do the same -/

/-- Two computations, beside two states of the outside, do the same to every state of a compilation,
and neither changes what is outside. -/
def Mirrors (outer : σ) (outer' : τ) (act : Act (Compiling σ) α)
    (act' : Act (Compiling τ) α) : Prop :=
  ∀ pass, ∃ outcome after,
    act ⟨outer, pass⟩ = (outcome, ⟨outer, after⟩) ∧ act' ⟨outer', pass⟩ = (outcome, ⟨outer', after⟩)

namespace Mirrors

variable {outer : σ} {outer' : τ}

theorem pure (a : α) : Mirrors outer outer' (Pure.pure a) (Pure.pure a) :=
  fun pass => ⟨_, pass, rfl, rfl⟩

theorem read (f : Pass → α) : Mirrors outer outer' (Compiling.read f) (Compiling.read f) :=
  fun pass => ⟨_, pass, rfl, rfl⟩

theorem change (f : Pass → Pass) : Mirrors outer outer' (Compiling.change f) (Compiling.change f) :=
  fun pass => ⟨_, f pass, rfl, rfl⟩

theorem bind {first : Act (Compiling σ) α} {first' : Act (Compiling τ) α}
    {next : α → Act (Compiling σ) β} {next' : α → Act (Compiling τ) β}
    (mirrors : Mirrors outer outer' first first')
    (rest : ∀ a, Mirrors outer outer' (next a) (next' a)) :
    Mirrors outer outer' (first >>= next) (first' >>= next') := by
  intro pass
  obtain ⟨outcome, between, ran, ran'⟩ := mirrors pass
  cases outcome with
  | error e => exact ⟨_, between, Act.bind_of_error _ _ _ _ _ ran, Act.bind_of_error _ _ _ _ _ ran'⟩
  | ok a =>
    obtain ⟨outcome, after, went, went'⟩ := rest a between
    exact ⟨outcome, after, (Act.bind_of_ok _ _ _ _ _ ran).trans went,
      (Act.bind_of_ok _ _ _ _ _ ran').trans went'⟩

section

variable {single : Int → Node → Act (Compiling σ) String}
    {single' : Int → Node → Act (Compiling τ) String}
    (nodes : ∀ precedence node,
      Mirrors outer outer' (single precedence node) (single' precedence node))
include nodes

mutual

theorem compileExpr (options : Options) (e : Expr) :
    Mirrors outer outer' (Compiler.compileExpr single options e)
      (Compiler.compileExpr single' options e) := by
  cases e with
  | node mark node =>
    rw [Compiler.compileExpr, Compiler.compileExpr]
    cases (Expr.node mark node).passthrough options.raw with
    | some text => exact pure text
    | none => exact bind (read _) fun _ => bind (nodes _ _) fun _ => bind (change _) fun _ => pure _
  | seq items =>
    rw [Compiler.compileExpr, Compiler.compileExpr]
    exact bind (read _) fun _ => bind (compileItems options _ items) fun _ =>
      bind (change _) fun _ => pure _

theorem compileItems (options : Options) (precedence : Int) (items : List Expr) :
    Mirrors outer outer' (Compiler.compileItems single options precedence items)
      (Compiler.compileItems single' options precedence items) := by
  cases items with
  | nil =>
    rw [Compiler.compileItems, Compiler.compileItems]
    exact pure []
  | cons e rest =>
    have later := compileItems options precedence rest
    cases e with
    | node mark node =>
      rw [Compiler.compileItems, Compiler.compileItems]
      cases (Expr.node mark node).passthrough options.raw with
      | some text => exact bind (pure text) fun _ => bind later fun _ => pure _
      | none => exact bind (nodes _ _) fun _ => bind later fun _ => pure _
    | seq inner =>
      have first := compileExpr options (.seq inner)
      rw [Compiler.compileItems, Compiler.compileItems]
      exact bind (change _) fun _ => bind first fun _ => bind later fun _ => pure _

end

end

variable {c : Compiler σ H} {d : Compiler τ H}

theorem lookup (agree : (c.tables outer).Agree (d.tables outer'))
    (describes : c.describe outer = d.describe outer') (node : Node) :
    Mirrors outer outer' (c.lookup node) (d.lookup node) := by
  intro pass
  simp only [Compiler.lookup, agree.handler?, agree.precedence, describes]
  cases (d.tables outer').handler? node.lineage with
  | some handler => exact ⟨_, pass, rfl, rfl⟩
  | none => exact ⟨_, pass, rfl, rfl⟩

theorem parts {recur : Recur σ} {recur' : Recur τ}
    (same : ∀ options e, Mirrors outer outer' (recur options e) (recur' options e)) :
    recur.parts outer = recur'.parts outer' := by
  funext options e pass
  obtain ⟨outcome, after, ran, ran'⟩ := same options e pass
  simp only [Recur.parts, ran, ran']

/-- A handler is given the same reserved words and the same parts, so it does the same. -/
theorem conduct (agree : (c.tables outer).Agree (d.tables outer')) {recur : Recur σ}
    {recur' : Recur τ} (same : ∀ options e,
      Mirrors outer outer' (recur options e) (recur' options e)) (conduct : Conduct)
    (node : Node) :
    Mirrors outer outer' (conduct.run c recur node) (conduct.run d recur' node) := by
  intro pass
  simp only [Conduct.run, agree.isReserved, parts same]
  exact ⟨_, _, rfl, rfl⟩

theorem compileNode (agree : (c.tables outer).Agree (d.tables outer'))
    (describes : c.describe outer = d.describe outer') {run : H → Node → Act (Compiling σ) String}
    {run' : H → Node → Act (Compiling τ) String}
    (same : ∀ handler node, Mirrors outer outer' (run handler node) (run' handler node))
    (precedence : Int) (node : Node) :
    Mirrors outer outer' (c.compileNode run precedence node) (d.compileNode run' precedence node) :=
  bind (lookup agree describes node) fun found =>
    bind (change (·.withPrecedence found.2)) fun _ => bind (same found.1 node) fun _ => pure _

/-- Compilers with the same tables do the same, however deeply handlers are nested. -/
theorem compile (agree : (c.tables outer).Agree (d.tables outer'))
    (describes : c.describe outer = d.describe outer') (conducts : H → Conduct) (depth : Nat)
    (options : Options) (e : Expr) :
    Mirrors outer outer' (c.compile (fun handler => (conducts handler).run c) depth options e)
      (d.compile (fun handler => (conducts handler).run d) depth options e) := by
  induction depth generalizing options e with
  | zero => exact fun pass => ⟨_, pass, rfl, rfl⟩
  | succ depth ih =>
    rw [Compiler.compile, Compiler.compile]
    refine compileExpr (fun precedence node => ?_) options e
    exact compileNode agree describes (fun handler node => conduct agree ih (conducts handler) node)
      precedence node

end Mirrors

/-- A node is given to its handler with the reserved words of the compiler in the slot and with
parts that are compiled through that one. -/
theorem Hierarchy.compileAt_node {h : Hierarchy H} {id : Nat} (describe : Node → String)
    (conduct : H → Conduct) {options : Options} {mark : Nat} {part : Node}
    (compiled : (Expr.node mark part).passthrough options.raw = none) {handler : H}
    (found : (h.effective id).handler? (Compiler.asToken options.token mark part).lineage =
      some handler)
    (depth : Nat) (pass : Pass) :
    let node := Compiler.asToken options.token mark part
    let inner := (h.effective id).precedence node.tag
    compileAt describe conduct id (depth + 1) options (.node mark part) ⟨h, pass⟩ =
      match conduct handler (h.effective id).isReserved
        ((compileAt describe conduct id depth).parts h) node
        (pass.withPrecedence inner) with
      | (.ok text, after) =>
        (.ok (if inner < pass.precedence then "(" ++ text ++ ")" else text),
          ⟨h, after.withPrecedence pass.precedence⟩)
      | (.error e, after) => (.error e, ⟨h, after⟩) := by
  intro node inner
  have ran : ∀ outcome after, conduct handler (h.effective id).isReserved
      ((compileAt describe conduct id depth).parts h) node (pass.withPrecedence inner) =
      (outcome, after) →
      (conduct handler).run (compilerAt describe id) (compileAt describe conduct id depth) node
        ⟨h, pass.withPrecedence inner⟩ = (outcome, ⟨h, after⟩) := by
    intro outcome after done
    simp only [Conduct.run, compilerAt, done]
  have step : compileAt describe conduct id (depth + 1) options (.node mark part) =
      Compiler.compileExpr ((compilerAt describe id).compileNode fun handler =>
        (conduct handler).run (compilerAt describe id) (compileAt describe conduct id depth))
        options (.node mark part) := rfl
  rw [step, Compiler.compileExpr, compiled]
  dsimp only
  rw [Act.bind_of_ok (Compiling.read (·.precedence)) _ ⟨h, pass⟩ ⟨h, pass⟩ pass.precedence rfl]
  cases done : conduct handler (h.effective id).isReserved
    ((compileAt describe conduct id depth).parts h) node
      (pass.withPrecedence inner) with
  | mk outcome after =>
    have given := ran outcome after done
    have dispatched := (compilerAt describe id).compileNode_of_handler
      (fun handler => (conduct handler).run (compilerAt describe id)
        (compileAt describe conduct id depth))
      pass.precedence node ⟨h, pass⟩ found
    cases outcome with
    | error e =>
      exact Act.bind_of_error _ _ _ _ _ (dispatched.trans (Act.bind_of_error _ _ _ _ _ given))
    | ok text => exact Act.bind_of_ok _ _ _ _ _ (dispatched.trans (Act.bind_of_ok _ _ _ _ _ given))

/-! ## A root with the effective tables of a compiler -/

/-- The compiler in a slot is a root, and its own tables answer as the given ones. -/
def Hierarchy.IsFlat (h : Hierarchy H) (id : Nat) (tables : Tables H) : Prop :=
  ∃ node, h.node? id = some node ∧ node.parents = [] ∧ node.own.Agree tables

/-- The changes of the own tables of a compiler since it came into its slot, the latest first. -/
def editsOf (id : Nat) : List (Event H) → List (Edit H)
  | [] => []
  | .created child _ :: earlier => if child = id then [] else editsOf id earlier
  | .edited other e :: earlier => if other = id then e :: editsOf id earlier else editsOf id earlier

theorem lastSet_eq (set : Edit H → Option α) (id : Nat) (past : List (Event H)) :
    lastSet set id past = (editsOf id past).findSome? set := by
  induction past with
  | nil => rfl
  | cons event earlier ih =>
    cases event with
    | created child parent =>
      rw [lastSet, editsOf, ih]
      split <;> rfl
    | edited other e =>
      rw [lastSet, editsOf, ih]
      split
      · rw [List.findSome?_cons]
        cases set e <;> rfl
      · rfl

namespace Usage

/-- All changes on the way up from a compiler, those of the root first. -/
def pathEdits (u : Usage H) (id : Nat) : List (Edit H) :=
  ((pathUp (births u.past) id).flatMap fun other => editsOf other u.past).reverse

/-- Done on a root alone, they make tables that answer as those in effect on the compiler. -/
theorem Reachable.find_pathEdits {u : Usage H} (reached : u.Reachable) {id : Nat}
    (held : id ∈ u.held) (q : Query H α) :
    q.find (Edit.tables (u.pathEdits id)) = q.find (u.hierarchy.effective id) := by
  rw [q.find_tables, reached.find_effective held, nearest, pathEdits, List.reverse_reverse]
  induction pathUp (births u.past) id with
  | nil => rfl
  | cons other above ih =>
    rw [List.flatMap_cons, List.findSome?_append, ih, List.findSome?_cons, lastSet_eq]
    cases (editsOf other u.past).findSome? q.set <;> rfl

/-- A root is in effect what its own tables are. -/
theorem Reachable.effective_of_root {v : Usage H} (reached : v.Reachable) {id : Nat}
    {node : CompilerNode H} (found : v.hierarchy.node? id = some node) (root : node.parents = []) :
    (v.hierarchy.effective id).Agree node.own := by
  have merged : v.hierarchy.effective id = .merge [node.own] := by
    have fresh := reached.inherits.fresh found
    rw [Hierarchy.mergedTables, root, List.nil_append, List.map_singleton,
      Hierarchy.ownTables_eq found] at fresh
    rw [← fresh, Hierarchy.effective, found]
  refine .ofQueries fun q => ?_
  rw [merged, q.find_merge, List.reverse_singleton, List.findSome?_singleton]

/-- There is a flat compiler for every one in use. -/
theorem Reachable.exists_flat {u : Usage H} (reached : u.Reachable) {id : Nat}
    (held : id ∈ u.held) :
    ∃ (v : Usage H) (flat : Nat), v.Reachable ∧ flat ∈ v.held ∧
      v.hierarchy.IsFlat flat (u.hierarchy.effective id) :=
  ⟨_, 0, reachable_lone (u.pathEdits id), List.mem_cons_self, _, rfl, rfl,
    .ofQueries fun q => reached.find_pathEdits held q⟩

end Usage

/-- Flattening. Compiling through a compiler in use and through a root whose own tables are those in
effect there has the same outcome, text or error, and leaves the same state of the compilation,
whatever the handlers do with their nodes, with that state, with the reserved words and with the
parts that they compile; neither changes a hierarchy. Such a root always exists. In particular,
whatever compiler further up a handler comes from, it is run with the reserved words of the compiler
in use, and the parts of its node are compiled through that one. -/
theorem compiling_is_flattened {u : Usage H} (reached : u.Reachable) {id : Nat} (held : id ∈ u.held)
    (describe : Node → String) (conduct : H → Conduct) :
    (∃ (v : Usage H) (flat : Nat), v.Reachable ∧ flat ∈ v.held ∧
      v.hierarchy.IsFlat flat (u.hierarchy.effective id)) ∧
    (∀ {v : Usage H} {flat : Nat}, v.Reachable → flat ∈ v.held →
      v.hierarchy.IsFlat flat (u.hierarchy.effective id) → ∀ depth options e pass, ∃ outcome after,
        Hierarchy.compileAt describe conduct id depth options e ⟨u.hierarchy, pass⟩ =
          (outcome, ⟨u.hierarchy, after⟩) ∧
        Hierarchy.compileAt describe conduct flat depth options e ⟨v.hierarchy, pass⟩ =
          (outcome, ⟨v.hierarchy, after⟩)) ∧
    ∀ options mark part, (Expr.node mark part).passthrough options.raw = none →
      let node := Compiler.asToken options.token mark part
      ∀ handler, firstHandler u.past id node.lineage = some handler → ∀ depth pass,
        let inner := (u.hierarchy.effective id).precedence node.tag
        Hierarchy.compileAt describe conduct id (depth + 1) options (.node mark part)
          ⟨u.hierarchy, pass⟩ = match conduct handler (u.hierarchy.effective id).isReserved
            ((Hierarchy.compileAt describe conduct id depth).parts u.hierarchy) node
              (pass.withPrecedence inner) with
          | (.ok text, after) =>
            (.ok (if inner < pass.precedence then "(" ++ text ++ ")" else text),
              ⟨u.hierarchy, after.withPrecedence pass.precedence⟩)
          | (.error e, after) => (.error e, ⟨u.hierarchy, after⟩) := by
  refine ⟨reached.exists_flat held, ?_, ?_⟩
  · intro v flat flatReached flatHeld isFlat depth options e pass
    obtain ⟨node, found, root, own⟩ := isFlat
    have agree : (u.hierarchy.effective id).Agree (v.hierarchy.effective flat) :=
      ((flatReached.effective_of_root found root).trans own).symm
    exact Mirrors.compile (c := Hierarchy.compilerAt describe id)
      (d := Hierarchy.compilerAt describe flat) agree rfl
      conduct depth options e pass
  · intro options mark part compiled node handler first depth pass inner
    have found : (u.hierarchy.effective id).handler? node.lineage = some handler :=
      (reached.handler?_effective held node.lineage).trans first
    exact Hierarchy.compileAt_node describe conduct compiled found depth pass

/-- Two handlers on a root, and a child that overrides the second one and reserves a word. -/
def overriding : Usage Nat :=
  (((((⟨.root, [0], []⟩ : Usage Nat).call 0 (.edit (.register [⟨"list"⟩] 7))).call 0
    (.edit (.register [⟨"leaf"⟩] 8))).call 0 .createChild).call 1
      (.edit (.register [⟨"leaf"⟩] 9))).call 1
    (.edit (.markWords true ["Total"]))

theorem overriding_reachable : overriding.Reachable := by
  refine .call _ (.call _ (.call _ (.call _ (.call _ .root ?_) ?_) ?_) ?_) ?_
  all_goals decide +kernel

/-- The first handler writes the name of its node, marks it if it is reserved, and goes on with the
first part; the others write their numbers. -/
def spelling : Nat → Conduct
  | 7, reserved, parts, .custom _ name (part :: _), pass =>
    let (text, after) := parts {} part pass
    (text.map fun text => name ++ (if reserved name then "!" else "") ++ text, after)
  | handler, _, _, _, pass => (.ok (toString handler), pass)

def nestedLists : Expr :=
  .node 0 (.custom [⟨"list"⟩] "total"
    [.node 1 (.custom [⟨"list"⟩] "count" [.node 2 (.custom [⟨"leaf"⟩] "" [])])])

/-- What is written of it through the compiler in a slot. -/
def spelled (h : Hierarchy Nat) (id : Nat) : Except Error String :=
  (Hierarchy.compileAt (fun _ => "") spelling id 3 {} nestedLists ⟨h, {}⟩).1

/-- Two lists deep, the handler from the root still uses what the child overrides and reserves, and
a flat compiler writes the same; the root itself does not. -/
theorem overriding_is_flattened :
    overriding.Reachable ∧ 1 ∈ overriding.held ∧
      spelled overriding.hierarchy 1 = .ok "total!count9" ∧
    spelled overriding.hierarchy 0 = .ok "totalcount8" ∧
    ∃ (v : Usage Nat) (flat : Nat), v.Reachable ∧
      v.hierarchy.IsFlat flat (overriding.hierarchy.effective 1) ∧
      spelled v.hierarchy flat = .ok "total!count9" := by
  have held : 1 ∈ overriding.held := by decide +kernel
  have written : spelled overriding.hierarchy 1 = .ok "total!count9" := by rfl
  obtain ⟨⟨v, flat, reached, flatHeld, isFlat⟩, same, -⟩ :=
    compiling_is_flattened overriding_reachable held (fun _ => "") spelling
  obtain ⟨outcome, after, ran, ran'⟩ := same reached flatHeld isFlat 3 {} nestedLists {}
  have outcome_eq : outcome = .ok "total!count9" := (congrArg Prod.fst ran).symm.trans written
  exact ⟨overriding_reachable, held, written, by rfl, v, flat, reached, isFlat,
    (congrArg Prod.fst ran').trans outcome_eq⟩

end RowMapper
