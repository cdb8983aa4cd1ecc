import RowMapper.Proofs.Hierarchy.Default
import RowMapper.Proofs.Rendering.Printer
/-!
A compiler with the tables of a default compiler prints. It goes through its handlers with one
state, which they change and change back: what comes out is the text that the printer gives, with
the parameters of the expression bound and nothing else of the state changed.
-/

set_option autoImplicit false

namespace RowMapper

variable {σ H : Type}

/-! ## The handler of a node -/

/-- The handler that the nodes of an operator go to. -/
def BinaryOp.handler : BinaryOp → Builtin
  | .eq | .ne => .nullComparison
  | .isIn => .membership
  | .sub | .div | .mod => .nonAssociative
  | _ => .binary

/-- The handler that a node of this library goes to; none for raw text, which no handler sees. -/
def Node.handler? : Node → Option Builtin
  | .value _ => some .literal
  | .null => some .null
  | .variable _ => some .cell
  | .table _ => some .table
  | .column _ => some .column
  | .aliased .. => some .aliased
  | .binary op _ _ => some op.handler
  | .compound .. => some .compound
  | .call .. => some .call
  | .countAll | .count .. => some .count
  | .prefixed .. => some .prefixed
  | .suffixed .. => some .suffixed
  | .token _ => some .token
  | .raw _ | .custom .. => none

/-- Values have no handlers and no precedences under the names of their types. -/
theorem Value.ofTag_typeName (v : Value) :
    Builtin.ofTag ⟨v.typeName⟩ = none ∧ Builtin.precedenceOf ⟨v.typeName⟩ = none := by
  cases v <;> exact ⟨rfl, rfl⟩

theorem BinaryOp.findSome?_lineage (op : BinaryOp) :
    (if op.isNonAssociative then [op.tag, .nonAssociative, .binary]
      else [op.tag, .binary]).findSome? Builtin.ofTag = some op.handler := by
  cases op <;> rfl

theorem CompoundOp.findSome?_lineage (op : CompoundOp) :
    [op.tag, .compound].findSome? Builtin.ofTag = some .compound := by
  cases op <;> rfl

theorem PrefixOp.findSome?_lineage (op : PrefixOp) :
    [op.tag, .prefixed].findSome? Builtin.ofTag = some .prefixed ∧
      Builtin.precedenceOf op.tag = none := by
  cases op <;> exact ⟨rfl, rfl⟩

theorem SuffixOp.findSome?_lineage (op : SuffixOp) :
    [op.tag, .suffixed].findSome? Builtin.ofTag = some .suffixed ∧
      Builtin.precedenceOf op.tag = none := by
  cases op <;> exact ⟨rfl, rfl⟩

theorem Node.findSome?_lineage {node : Node} {b : Builtin} (handled : node.handler? = some b) :
    node.lineage.findSome? Builtin.ofTag = some b := by
  cases node <;> simp only [handler?, Option.some.injEq, reduceCtorEq] at handled <;> subst handled
  case value v =>
    have unnamed := v.ofTag_typeName.1
    have literal : Builtin.ofTag .literal = some .literal := rfl
    simp only [lineage, List.findSome?_cons, unnamed, literal]
  case binary op left right => exact op.findSome?_lineage
  case compound op operands => exact op.findSome?_lineage
  case prefixed op e => exact op.findSome?_lineage.1
  case suffixed op e => exact op.findSome?_lineage.1
  all_goals
    simp only [lineage]
    rfl

theorem BinaryOp.precedenceOf_tag (op : BinaryOp) : Builtin.precedenceOf op.tag = some op.rank := by
  cases op <;> rfl

theorem CompoundOp.precedenceOf_tag (op : CompoundOp) :
    Builtin.precedenceOf op.tag = some op.rank := by
  cases op <;> rfl

theorem Node.precedenceOf_tag {node : Node} {b : Builtin} (handled : node.handler? = some b) :
    (Builtin.precedenceOf node.tag).getD Tables.highest = node.rank := by
  cases node
  case value v =>
    have unnamed := v.ofTag_typeName.2
    simp only [tag, lineage, List.head?_cons, Option.getD_some, unnamed]
    rfl
  case binary op left right =>
    have own : (Node.binary op left right).tag = op.tag := by cases op <;> rfl
    rw [own, op.precedenceOf_tag]
    rfl
  case compound op operands =>
    change (Builtin.precedenceOf op.tag).getD _ = _
    rw [op.precedenceOf_tag]
    rfl
  case prefixed op e =>
    change (Builtin.precedenceOf op.tag).getD _ = _
    rw [op.findSome?_lineage.2]
    rfl
  case suffixed op e =>
    change (Builtin.precedenceOf op.tag).getD _ = _
    rw [op.findSome?_lineage.2]
    rfl
  case raw | custom => cases handled
  all_goals
    simp only [tag, lineage, List.head?_cons, Option.getD_some, rank]
    rfl

/-! ## Tables that answer as those of a default compiler -/

/-- Every lookup in the tables finds what it finds in those of a default compiler. -/
def Tables.IsStandard (t : Tables H) (builtin : Builtin → H) : Prop :=
  ∀ {α : Type} (q : Query H α), q.find t = q.find (.standard builtin)

theorem Hierarchy.isStandard_effective (builtin : Builtin → H) :
    ((Hierarchy.standard builtin).effective 0).IsStandard builtin := by
  intro α q
  rw [standard_eq_lone]
  change q.find (.merge [.standard builtin]) = _
  rw [q.find_merge, List.reverse_singleton, List.findSome?_singleton]

/-- Every lookup in the tables but those of reserved words finds what it finds in those of a default
compiler. -/
def Tables.IsDialect (t : Tables H) (builtin : Builtin → H) : Prop :=
  ∀ {α : Type} (q : Query H α), (∀ reserved words, q.set (.markWords reserved words) = none) →
    q.find t = q.find (.standard builtin)

namespace Tables.IsDialect

variable {t : Tables H} {builtin : Builtin → H}

theorem handler? (answers : t.IsDialect builtin) {node : Node} {b : Builtin}
    (handled : node.handler? = some b) : t.handler? node.lineage = some (builtin b) := by
  have each : t.handlers.get? = fun tag => (Builtin.ofTag tag).map builtin := by
    funext tag
    rw [← get?_handlers_standard, ← Query.find_handler, answers _ fun _ _ => rfl,
      Query.find_handler]
  rw [Tables.handler?, each]
  change node.lineage.findSome? (Option.map builtin ∘ Builtin.ofTag) = _
  rw [← List.map_findSome?, Node.findSome?_lineage handled, Option.map_some]

theorem precedence (answers : t.IsDialect builtin) {node : Node} {b : Builtin}
    (handled : node.handler? = some b) : t.precedence node.tag = node.rank := by
  rw [Tables.precedence, ← Query.find_precedence, answers _ fun _ _ => rfl, Query.find_precedence,
    get?_precedences_standard, Node.precedenceOf_tag handled]

end Tables.IsDialect

namespace Tables.IsStandard

variable {t : Tables H} {builtin : Builtin → H}

theorem isDialect (answers : t.IsStandard builtin) : t.IsDialect builtin := fun q _ => answers q

theorem handler? (answers : t.IsStandard builtin) {node : Node} {b : Builtin}
    (handled : node.handler? = some b) : t.handler? node.lineage = some (builtin b) :=
  IsDialect.handler? answers.isDialect handled

theorem precedence (answers : t.IsStandard builtin) {node : Node} {b : Builtin}
    (handled : node.handler? = some b) : t.precedence node.tag = node.rank :=
  IsDialect.precedence answers.isDialect handled

theorem isReserved (answers : t.IsStandard builtin) (word : String) :
    t.isReserved word = isReservedWord word := by
  rw [Tables.isReserved, ← Query.find_mark, answers, Query.find_mark]
  exact isReserved_standard builtin word

end Tables.IsStandard

end RowMapper
