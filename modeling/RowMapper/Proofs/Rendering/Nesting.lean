import RowMapper.Proofs.Rendering.Precedence
/-!
Sequences in sequences. If no sequence inside another is empty, it does not matter how a sequence is
nested: compiling it comes to what compiling its nodes one after another comes to. The join of
joined groups is the join of all their texts, and what an inner sequence does to the precedence
around it is what no node asks for.
-/

set_option autoImplicit false

namespace RowMapper

variable {σ H : Type}

/-! ## Expressions without their sequences -/

namespace Expr

mutual

/-- The nodes of an expression that no other node is around, from left to right. -/
def flattened : Expr → List Expr
  | .node mark part => [.node mark part]
  | .seq items => allFlattened items

/-- The nodes of some expressions that no other node is around, from left to right. -/
def allFlattened : List Expr → List Expr
  | [] => []
  | e :: rest => flattened e ++ allFlattened rest

end

mutual

/-- No sequence that no node is around is empty. -/
def isFilled : Expr → Bool
  | .node .. => true
  | .seq items => !items.isEmpty && allFilled items

/-- None of the expressions is or has an empty sequence that no node is around. -/
def allFilled : List Expr → Bool
  | [] => true
  | e :: rest => isFilled e && allFilled rest

end

mutual

theorem nodes_flattened (e : Expr) : ∀ part ∈ e.flattened, ∃ mark node, part = .node mark node := by
  cases e with
  | node mark part =>
    rw [flattened]
    exact List.forall_mem_singleton.mpr ⟨mark, part, rfl⟩
  | seq items =>
    rw [flattened]
    exact nodes_allFlattened items

theorem nodes_allFlattened (items : List Expr) :
    ∀ part ∈ allFlattened items, ∃ mark node, part = .node mark node := by
  cases items with
  | nil => nofun
  | cons e rest =>
    rw [allFlattened]
    exact List.forall_mem_append.mpr ⟨nodes_flattened e, nodes_allFlattened rest⟩

end

end Expr

/-- Joining the joins of groups of texts joins all of them. -/
theorem intercalate_groups (join : String) {groups : List (List String)}
    (filled : ∀ group ∈ groups, group ≠ []) :
    String.intercalate join (groups.map (String.intercalate join)) =
      String.intercalate join groups.flatten := by
  induction groups with
  | nil => rfl
  | cons group rest ih =>
    have ⟨nonempty, others⟩ := List.forall_mem_cons.mp filled
    cases rest with
    | nil => simp
    | cons next more =>
      have later : (next :: more).flatten ≠ [] := by
        rw [List.flatten_cons]
        exact List.append_ne_nil_of_left_ne_nil (others next List.mem_cons_self) _
      rw [List.flatten_cons, String.intercalate_append_of_ne_nil nonempty later, ← ih others,
        List.map_cons, String.intercalate_cons_of_ne_nil (by simp)]

/-! ## Rendering one list behind another -/

theorem Turn.kept_andThen (turn : Turn) : Turn.kept.andThen turn = turn := by
  cases turn <;> rfl

theorem Turn.andThen_assoc (first second third : Turn) :
    (first.andThen second).andThen third = first.andThen (second.andThen third) := by
  cases third <;> rfl

namespace Compiler

variable {c : Compiler σ H} {run : H → Node → Act (Compiling σ) String} {options : Options}
    {around : Int}

/-- Either the first item fails, or its text comes out and the others go on from there. -/
theorem RendersAll.cons_cases {e : Expr} {rest : List Expr} {s after : Compiling σ}
    {outcome : Except Error (List String)} {turn : Turn}
    (renders : RendersAll c run options around (e :: rest) s outcome after turn) :
    (∃ error, outcome = .error error ∧ Renders c run options around e s (.error error) after turn) ∨
    ∃ text middle first others last, Renders c run options around e s (.ok text) middle first ∧
      RendersAll c run options around rest middle others after last ∧
      outcome = others.map (text :: ·) ∧ turn = first.andThen last := by
  cases renders with
  | cons head tail => exact .inr ⟨_, _, _, _, _, head, tail, rfl, rfl⟩
  | stuck head => exact .inl ⟨_, rfl, head⟩

theorem RendersAll.append {first second : List Expr} {s middle after : Compiling σ}
    {texts : List String} {outcome : Except Error (List String)} {turn last : Turn}
    (head : RendersAll c run options around first s (.ok texts) middle turn)
    (tail : RendersAll c run options around second middle outcome after last) :
    RendersAll c run options around (first ++ second) s (outcome.map (texts ++ ·)) after
      (turn.andThen last) := by
  induction first generalizing s texts turn with
  | nil =>
    cases head
    rw [Turn.kept_andThen]
    cases outcome <;> exact tail
  | cons e rest ih =>
    rcases head.cons_cases with ⟨_, failed, -⟩ | ⟨text, _, _, others, _, here, later, texts_eq, rfl⟩
    · cases failed
    cases others with
    | error _ => cases texts_eq
    | ok more =>
      cases texts_eq
      rw [Turn.andThen_assoc]
      have joined := RendersAll.cons here (ih later)
      cases outcome <;> exact joined

theorem RendersAll.append_error {first : List Expr} (second : List Expr)
    {s after : Compiling σ} {e : Error} {turn : Turn}
    (head : RendersAll c run options around first s (.error e) after turn) :
    RendersAll c run options around (first ++ second) s (.error e) after turn := by
  induction first generalizing s turn with
  | nil => cases head
  | cons _ rest ih =>
    rcases head.cons_cases with ⟨_, failed, here⟩ | ⟨_, _, _, others, _, here, later, failed, rfl⟩
    · cases failed
      exact .stuck here
    cases others with
    | ok _ => cases failed
    | error _ =>
      cases failed
      exact .cons here (ih later)

/-! ## Rendering what is flattened -/

/-- A text is what the texts of the flattened expression are joined to. -/
def Flattens (join : String) (outcome : Except Error String)
    (parts : Except Error (List String)) : Prop :=
  outcome = parts.map (String.intercalate join) ∧ parts ≠ .ok []

/-- The texts are what groups of the texts of the flattened expressions are joined to. -/
def FlattensAll (join : String) (outcome parts : Except Error (List String)) : Prop :=
  ∃ groups : Except Error (List (List String)),
    outcome = groups.map (List.map (String.intercalate join)) ∧
    parts = groups.map List.flatten ∧ ∀ filled, groups = .ok filled → ∀ group ∈ filled, group ≠ []

theorem Flattens.alone {join : String} (outcome : Except Error String) :
    Flattens join outcome (outcome.map fun text => [text]) := by
  cases outcome with
  | ok text => exact ⟨congrArg Except.ok String.intercalate_singleton.symm, by simp [Except.map]⟩
  | error e => exact ⟨rfl, nofun⟩

theorem Flattens.of_error {join : String} {e : Error} {parts : Except Error (List String)}
    (flattens : Flattens join (.error e) parts) : parts = .error e := by
  obtain ⟨outcome_eq, -⟩ := flattens
  cases parts with
  | error e => exact congrArg Except.error (Except.error.inj outcome_eq).symm
  | ok group => cases outcome_eq

theorem Flattens.of_ok {join text : String} {parts : Except Error (List String)}
    (flattens : Flattens join (.ok text) parts) : ∃ group, parts = .ok group := by
  obtain ⟨outcome_eq, -⟩ := flattens
  cases parts with
  | error e => cases outcome_eq
  | ok group => exact ⟨group, rfl⟩

/-- Joining once more what an inner sequence comes to changes nothing. -/
theorem FlattensAll.joined {join : String} {outcome parts : Except Error (List String)}
    (flattens : FlattensAll join outcome parts) :
    outcome.map (String.intercalate join) = parts.map (String.intercalate join) := by
  obtain ⟨groups, rfl, rfl, filled⟩ := flattens
  cases groups with
  | error e => rfl
  | ok groups => exact congrArg Except.ok (intercalate_groups join (filled groups rfl))

theorem FlattensAll.ne_nil {join : String} {outcome parts : Except Error (List String)}
    (flattens : FlattensAll join outcome parts) (items : outcome ≠ .ok []) : parts ≠ .ok [] := by
  obtain ⟨groups, rfl, rfl, filled⟩ := flattens
  cases groups with
  | error e => nofun
  | ok groups =>
    cases groups with
    | nil => exact (items rfl).elim
    | cons group rest =>
      have first := filled _ rfl group List.mem_cons_self
      simp [Except.map, first]

theorem FlattensAll.cons {join text : String} {outcome : Except Error (List String)}
    {group : List String} {parts : Except Error (List String)}
    (head : Flattens join (.ok text) (.ok group)) (tail : FlattensAll join outcome parts) :
    FlattensAll join (outcome.map (text :: ·)) (parts.map (group ++ ·)) := by
  obtain ⟨text_eq, nonempty⟩ := head
  obtain ⟨groups, rfl, rfl, filled⟩ := tail
  refine ⟨groups.map (group :: ·), ?_, ?_, ?_⟩
  · cases text_eq
    cases groups <;> rfl
  · cases groups <;> rfl
  · cases groups with
    | error e => nofun
    | ok groups =>
      rintro _ ⟨⟩
      exact List.forall_mem_cons.mpr ⟨fun empty => nonempty (congrArg Except.ok empty),
        filled groups rfl⟩

/-- The texts of a list with items are at least one. -/
theorem RendersAll.ne_nil {items : List Expr} {s after : Compiling σ}
    {outcome : Except Error (List String)} {last : Turn}
    (renders : RendersAll c run options around items s outcome after last) (occupied : items ≠ []) :
    outcome ≠ .ok [] := by
  cases renders with
  | nil => exact (occupied rfl).elim
  | @cons _ _ _ _ _ _ others _ _ head tail => cases others <;> simp [Except.map]
  | stuck head => nofun

mutual

/-- Rendering a filled expression and rendering its nodes one after another come to the same text or
error and to the same state but for the precedence. -/
theorem Renders.flattened {e : Expr} {s after : Compiling σ} {outcome : Except Error String}
    {last : Turn} (filled : e.isFilled)
    (renders : Renders c run options around e s outcome after last) :
    ∃ parts left turn, RendersAll c run options around e.flattened s parts left turn ∧
      Flattens options.join outcome parts ∧
      left.withPrecedence around = after.withPrecedence around := by
  cases e with
  | node mark node =>
    refine ⟨_, after, last, ?_, .alone outcome, rfl⟩
    rw [Expr.flattened]
    cases outcome with
    | ok text => exact .cons renders .nil
    | error e => exact .stuck renders
  | seq items =>
    rw [Expr.isFilled, Bool.and_eq_true] at filled
    have occupied : items ≠ [] := by simpa using filled.1
    rw [Expr.flattened]
    -- An inner sequence starts with the precedence around, its flattened nodes with any.
    have started : (s.withPrecedence around).withPrecedence s.pass.precedence = s := rfl
    cases renders with
    | seq each | stuck each =>
      obtain ⟨parts, left, turn, flat, flattens, same⟩ := RendersAll.flattened filled.2 each
      have moved := flat.from_any s.pass.precedence
      rw [started] at moved
      exact ⟨parts, _, turn, moved, ⟨flattens.joined, flattens.ne_nil (each.ne_nil occupied)⟩, same⟩

theorem RendersAll.flattened {items : List Expr} {s after : Compiling σ}
    {outcome : Except Error (List String)} {last : Turn} (filled : Expr.allFilled items)
    (renders : RendersAll c run options around items s outcome after last) :
    ∃ parts left turn, RendersAll c run options around (Expr.allFlattened items) s parts left turn ∧
      FlattensAll options.join outcome parts ∧
      left.withPrecedence around = after.withPrecedence around := by
  cases items with
  | nil =>
    cases renders
    exact ⟨.ok [], s, .kept, .nil, ⟨.ok [], rfl, rfl, by simp⟩, rfl⟩
  | cons e rest =>
    rw [Expr.allFilled, Bool.and_eq_true] at filled
    rw [Expr.allFlattened]
    rcases renders.cons_cases with ⟨error, rfl, here⟩ | ⟨text, middle, first, others, turn, here,
      later, rfl, rfl⟩
    · obtain ⟨parts, left, turn, flat, flattens, same⟩ := Renders.flattened filled.1 here
      obtain rfl := flattens.of_error
      exact ⟨_, left, turn, flat.append_error _, ⟨.error error, rfl, rfl, nofun⟩, same⟩
    · obtain ⟨parts, between, turn, flat, flattens, same⟩ := Renders.flattened filled.1 here
      obtain ⟨group, rfl⟩ := flattens.of_ok
      obtain ⟨parts, left, turn', flat', flattens', same'⟩ := RendersAll.flattened filled.2 later
      -- The flattened rest goes on from a state with another precedence.
      have moved := flat'.from_any between.pass.precedence
      have between_eq : middle.withPrecedence between.pass.precedence = between :=
        congrArg (·.withPrecedence between.pass.precedence) same.symm
      rw [between_eq] at moved
      exact ⟨_, _, _, flat.append moved, .cons flattens flattens', same'⟩

end

/-- Compiling a sequence is rendering its items where the precedence in effect is around, joining
their texts, and going back to that precedence if they come out. -/
theorem compile_seq_of_renders {run : H → Recur σ → Node → Act (Compiling σ) String} {depth : Nat}
    {items : List Expr} {s after : Compiling σ} {outcome : Except Error (List String)} {last : Turn}
    (renders : RendersAll c (fun handler => run handler (c.compile run depth)) options
      s.pass.precedence items s outcome after last) :
    c.compile run (depth + 1) options (.seq items) s =
      (outcome.map (String.intercalate options.join), after.settle s.pass.precedence outcome) := by
  change compileExpr _ options (.seq items) s = _
  rw [compileExpr_apply, compileItem_seq, Compiling.withPrecedence_self,
    compileItems_of_renders renders]
  cases outcome <;> rfl

end Compiler

/-- Nested sequences flatten. If no sequence inside a sequence is empty, compiling it and compiling
the sequence of its nodes have the same outcome, text or error, whatever the handlers do, and leave
the same state but for the precedence. If a text comes out, the precedence is that of the start
after both. -/
theorem nested_sequences_flatten (c : Compiler σ H)
    (run : H → Recur σ → Node → Act (Compiling σ) String) (depth : Nat) (options : Options)
    {items : List Expr} (filled : Expr.allFilled items) (s : Compiling σ) :
    let nested := c.compile run depth options (.seq items) s
    let flat := c.compile run depth options (.seq (Expr.allFlattened items)) s
    (∀ e ∈ Expr.allFlattened items, ∃ mark node, e = .node mark node) ∧
      nested.1 = flat.1 ∧
      nested.2 = flat.2.withPrecedence nested.2.pass.precedence ∧
      ∀ text, nested.1 = .ok text →
        nested.2.pass.precedence = s.pass.precedence ∧
        flat.2.pass.precedence = s.pass.precedence := by
  intro nested flat
  refine ⟨Expr.nodes_allFlattened items, ?_⟩
  cases depth with
  | zero => exact ⟨rfl, rfl, nofun⟩
  | succ depth =>
    obtain ⟨outcome, after, last, renders⟩ := Compiler.RendersAll.exists items s
    obtain ⟨parts, left, turn, rendersFlat, flattens, same⟩ := renders.flattened filled
    have nested_eq : nested = _ := Compiler.compile_seq_of_renders renders
    have flat_eq : flat = _ := Compiler.compile_seq_of_renders rendersFlat
    rw [nested_eq, flat_eq]
    have joined := flattens.joined
    obtain ⟨groups, rfl, rfl, -⟩ := flattens
    cases groups with
    | error e =>
      have moved := congrArg (·.withPrecedence after.pass.precedence) same
      exact ⟨rfl, moved.symm, nofun⟩
    | ok groups => exact ⟨joined, same.symm, fun _ _ => ⟨rfl, rfl⟩⟩

/-- A compiler with one handler, for names and for custom nodes, which have the precedence 20. -/
def parameterCounter : Compiler Unit Unit where
  tables _ := (Tables.empty.register [.token, ⟨"item"⟩] ()).setPrecedence 20 [⟨"item"⟩]
  describe _ _ := "?"

/-- The handler shows how many parameters have been bound before, binds one more and leaves a
precedence behind. -/
def countParameters (_ : Unit) (_ : Recur Unit) (node : Node) : Act (Compiling Unit) String := do
  let before ← Compiling.read (·.parameters.length)
  Compiling.change fun p => (p.bind (.cell before)).withPrecedence (-7)
  return node.tag.name ++ toString before

/-- A name and a sequence of a custom node, a raw text in a sequence of its own, and a literal
text. -/
def nestedItems : List Expr :=
  [.node 0 (.token "a"), .seq [.node 1 (.custom [⟨"item"⟩] "b" []), .seq [.node 2 (.raw "r")],
    .node 3 (.value (.text "c"))]]

def brokenNestedItems : List Expr :=
  nestedItems ++ [.seq [.node 4 (.custom [⟨"item"⟩] "d" []), .node 5 (.custom [⟨"ghost"⟩] "g" [])]]

def counted (items : List Expr) : Except Error String × Compiling Unit :=
  parameterCounter.compile countParameters 1 { join := "; ", token := true } (.seq items) ⟨(),
    { precedence := 25 }⟩

theorem nestedItems_flatten :
    Expr.allFilled nestedItems ∧ Expr.allFilled brokenNestedItems ∧
      (counted nestedItems).1 = .ok "sql-token0; (item1); r; sql-token2" ∧
      (counted (Expr.allFlattened nestedItems)).1 = .ok "sql-token0; (item1); r; sql-token2" ∧
      (counted (Expr.allFlattened nestedItems)).2.pass.precedence = 25 ∧
      (counted brokenNestedItems).1 = .error (.noHandler "ghost" "?") ∧
      (counted (Expr.allFlattened brokenNestedItems)).1 = .error (.noHandler "ghost" "?") := by
  have filled : Expr.allFilled nestedItems := rfl
  have filledToo : Expr.allFilled brokenNestedItems := rfl
  have text : (counted nestedItems).1 = .ok "sql-token0; (item1); r; sql-token2" := rfl
  have failed : (counted brokenNestedItems).1 = .error (.noHandler "ghost" "?") := rfl
  obtain ⟨-, same, -, precedence⟩ := nested_sequences_flatten parameterCounter countParameters 1
    { join := "; ", token := true } filled ⟨(), { precedence := 25 }⟩
  obtain ⟨-, sameToo, -⟩ := nested_sequences_flatten parameterCounter countParameters 1
    { join := "; ", token := true } filledToo ⟨(), { precedence := 25 }⟩
  exact ⟨filled, filledToo, text, same.symm.trans text, (precedence _ text).2, failed,
    sameToo.symm.trans failed⟩

end RowMapper
