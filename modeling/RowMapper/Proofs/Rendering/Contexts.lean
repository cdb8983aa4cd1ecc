import RowMapper.Compiler.Forest
import RowMapper.Proofs.Hierarchy.Default
/-!
Contexts. What handlers save they put back, also where a part fails to compile: every compilation
leaves the context and the saved ones as they were and binds parameters only behind those bound
before. The handlers of this library do so as long as what compiles their parts does, and so does
every compiler with further handlers of that kind.
-/

set_option autoImplicit false

namespace RowMapper

variable {σ H α β : Type}

/-! ## States with the same contexts -/

/-- A later state of a compilation has the same contexts, and the parameters bound before stand in
front. -/
structure Pass.Keeps (before after : Pass) : Prop where
  context : after.context = before.context
  saved : after.saved = before.saved
  parameters : before.parameters <+: after.parameters

namespace Pass.Keeps

variable {before middle after : Pass}

theorem refl (p : Pass) : p.Keeps p := ⟨rfl, rfl, List.prefix_rfl⟩

theorem trans (first : before.Keeps middle) (second : middle.Keeps after) : before.Keeps after where
  context := second.context.trans first.context
  saved := second.saved.trans first.saved
  parameters := first.parameters.trans second.parameters

theorem withPrecedence (p : Pass) (precedence : Int) : p.Keeps (p.withPrecedence precedence) :=
  ⟨rfl, rfl, List.prefix_rfl⟩

theorem bind (p : Pass) (parameter : Parameter) : p.Keeps (p.bind parameter) :=
  ⟨rfl, rfl, List.prefix_append ..⟩

/-- What was saved last comes back. -/
theorem popContext {context : Context} (kept : (before.pushContext context).Keeps after) :
    before.Keeps after.popContext := by
  have saved : after.saved = before.context :: before.saved := kept.saved
  refine ⟨?_, ?_, ?_⟩
  · simp only [Pass.popContext, saved]
  · simp only [Pass.popContext, saved]
  · simp only [Pass.popContext, saved]
    exact kept.parameters

end Pass.Keeps

/-! ## Balanced computations -/

/-- Where the outside is fit, the computation leaves the contexts as they were and a fit outside,
whatever its outcome. -/
def Balanced (fit : σ → Prop) (act : Act (Compiling σ) α) : Prop :=
  ∀ s, fit s.outer → fit (act s).2.outer ∧ s.pass.Keeps (act s).2.pass

namespace Balanced

variable {fit : σ → Prop}

theorem pure (a : α) : Balanced fit (Pure.pure a) := fun s fits => ⟨fits, .refl s.pass⟩

theorem fail (e : Error) : Balanced fit (Act.fail e : Act (Compiling σ) α) :=
  fun s fits => ⟨fits, .refl s.pass⟩

theorem lift (result : Except Error α) : Balanced fit (Act.lift result) :=
  fun s fits => ⟨fits, .refl s.pass⟩

theorem read (f : Pass → α) : Balanced fit (Compiling.read f) := fun s fits => ⟨fits, .refl s.pass⟩

theorem ask (f : σ → α) : Balanced fit (Compiling.outside (Act.read f)) :=
  fun s fits => ⟨fits, .refl s.pass⟩

theorem change {f : Pass → Pass} (keeps : ∀ p : Pass, p.Keeps (f p)) :
    Balanced fit (Compiling.change f) :=
  fun s fits => ⟨fits, keeps s.pass⟩

/-- A failure of the first computation leaves what that one leaves. -/
theorem bind {first : Act (Compiling σ) α} {next : α → Act (Compiling σ) β}
    (balanced : Balanced fit first) (rest : ∀ a, Balanced fit (next a)) :
    Balanced fit (first >>= next) := by
  intro s fits
  obtain ⟨between, kept⟩ := balanced s fits
  cases ran : first s with
  | mk outcome middle =>
    rw [ran] at between kept
    cases outcome with
    | error e =>
      rw [Act.bind_of_error _ _ _ _ _ ran]
      exact ⟨between, kept⟩
    | ok a =>
      rw [Act.bind_of_ok _ _ _ _ _ ran]
      obtain ⟨after, further⟩ := rest a middle between
      exact ⟨after, kept.trans further⟩

/-- A context that is set and left again on both outcomes. -/
theorem saving {act : Act (Compiling σ) α} (balanced : Balanced fit act) (context : Context)
    (f : Pass → Pass) (keeps : ∀ p : Pass, p.Keeps (f p)) :
    Balanced fit (Compiling.change (fun p => f (p.pushContext context)) >>= fun _ =>
      act.ensure fun s => ⟨s.outer, s.pass.popContext⟩) := by
  intro s fits
  obtain ⟨after, kept⟩ := balanced ⟨s.outer, f (s.pass.pushContext context)⟩ fits
  exact ⟨after, ((keeps _).trans kept).popContext⟩

theorem within {act : Act (Compiling σ) String} (balanced : Balanced fit act) (context : Context) :
    Balanced fit (Builtin.within context act) :=
  balanced.saving context _ .refl

variable {c : Compiler σ H} {recur : Recur σ}

theorem compileName (parts : ∀ options e, Balanced fit (recur options e)) (name : String) :
    Balanced fit (Builtin.compileName recur name) :=
  parts _ _

theorem compileBinary (parts : ∀ options e, Balanced fit (recur options e)) (op : BinaryOp)
    (left right : Expr) :
    Balanced fit (Builtin.compileBinary recur op left right) :=
  bind (parts _ _) fun _ => bind (parts _ _) fun _ => pure _

theorem unexpected (form : Form) (node : Node) : Balanced fit (Builtin.unexpected c form node) :=
  fun s fits => ⟨fits, .refl s.pass⟩

end Balanced

/-- A handler of this library is balanced if what compiles the parts of its node is. -/
theorem Builtin.balanced_run {fit : σ → Prop} {c : Compiler σ H} {recur : Recur σ}
    (parts : ∀ options e, Balanced fit (recur options e)) (b : Builtin) (node : Node) :
    Balanced fit (b.run c recur node) := by
  unfold Builtin.run
  split
  case h_1 name => exact .bind (.ask _) fun _ => .pure _
  case h_3 v => exact .bind (.lift _) fun _ => .bind (.change fun p => .bind p _) fun _ => .pure _
  case h_5 => exact .pure _
  case h_6 id => exact .bind (.change fun p => .bind p _) fun _ => .pure _
  case h_8 t => exact .compileName parts _
  case h_10 declared =>
    refine .bind (.read _) fun context => ?_
    split
    · split
      · exact .compileName parts _
      · exact .bind (.within (.compileName parts _) _) fun _ =>
          .bind (.compileName parts _) fun _ => .pure _
    · exact .compileName parts _
  case h_12 e name => exact .bind (parts _ _) fun _ => .bind (.compileName parts _) fun _ => .pure _
  case h_14 op left right => exact .compileBinary parts op left right
  case h_16 op left right =>
    exact .bind (parts _ _) fun _ => .bind (.change fun p => .withPrecedence p _) fun _ =>
      .bind (parts _ _) fun _ => .pure _
  case h_18 op left _ => exact .bind (parts _ _) fun _ => .pure _
  case h_19 op left right _ => exact .compileBinary parts op left right
  case h_21 op left right =>
    exact .bind (parts _ _) fun _ => .bind (.change fun p => .withPrecedence p _) fun _ =>
      .bind (parts _ _) fun _ => .pure _
  case h_23 op operands => exact parts _ _
  case h_25 name args =>
    have delimited := (parts {} args).saving .expr (·.withPrecedence 0) fun p => .withPrecedence p 0
    have closed := delimited.bind fun args => .pure (name ++ "(" ++ args ++ ")")
    exact fun s fits => closed s fits
  case h_27 => exact .pure _
  case h_28 e distinct => exact .bind (.within (parts _ _) _) fun _ => .pure _
  case h_30 op e => exact .bind (parts _ _) fun _ => .pure _
  case h_32 op e => exact .bind (parts _ _) fun _ => .pure _
  -- the others are handlers of nodes of another form
  all_goals exact .unexpected _ _

/-! ## Compiling on tables whose handlers are balanced -/

namespace Compiler

variable {fit : σ → Prop} {c : Compiler σ H}

/-- Every handler that a fit outside has is balanced. -/
def BalancedHandlers (fit : σ → Prop) (c : Compiler σ H)
    (run : H → Node → Act (Compiling σ) String) : Prop :=
  ∀ outer, fit outer → ∀ lineage handler, (c.tables outer).handler? lineage = some handler →
    ∀ node, Balanced fit (run handler node)

/-- A node without a handler fails where it is, and the handler of any other starts in the same
contexts. -/
theorem balanced_compileNode {run : H → Node → Act (Compiling σ) String}
    (handlers : BalancedHandlers fit c run) (around : Int) (node : Node) :
    Balanced fit (c.compileNode run around node) := by
  intro s fits
  cases found : (c.tables s.outer).handler? node.lineage with
  | none =>
    rw [compileNode, Act.bind_of_error _ _ _ _ _ (c.lookup_of_none node s found)]
    exact ⟨fits, .refl s.pass⟩
  | some handler =>
    rw [c.compileNode_of_handler run around node s found]
    generalize (c.tables s.outer).precedence node.tag = inner
    have handled := handlers s.outer fits _ handler found node
    have compiled := handled.bind fun text =>
      .pure (if inner < around then "(" ++ text ++ ")" else text)
    obtain ⟨after, kept⟩ := compiled ⟨s.outer, s.pass.withPrecedence inner⟩ fits
    exact ⟨after, (Pass.Keeps.withPrecedence s.pass inner).trans kept⟩

variable {single : Int → Node → Act (Compiling σ) String}

mutual

theorem balanced_compileExpr (nodes : ∀ around node, Balanced fit (single around node))
    (options : Options) (e : Expr) : Balanced fit (compileExpr single options e) := by
  cases e with
  | node mark node =>
    rw [compileExpr]
    split
    · exact .pure _
    · exact .bind (.read _) fun around => .bind (nodes around _) fun _ =>
        .bind (.change fun p => .withPrecedence p around) fun _ => .pure _
  | seq items =>
    rw [compileExpr]
    exact .bind (.read _) fun around =>
      .bind (balanced_compileItems nodes options around items) fun _ =>
      .bind (.change fun p => .withPrecedence p around) fun _ => .pure _

theorem balanced_compileItems (nodes : ∀ around node, Balanced fit (single around node))
    (options : Options) (around : Int) (items : List Expr) :
    Balanced fit (compileItems single options around items) := by
  cases items with
  | nil =>
    rw [compileItems]
    exact .pure _
  | cons e rest =>
    have later := balanced_compileItems nodes options around rest
    cases e with
    | node mark node =>
      rw [compileItems]
      split
      · exact .bind (.pure _) fun text => later.bind fun texts => .pure _
      · exact .bind (nodes around _) fun text => later.bind fun texts => .pure _
    | seq inner =>
      have first := balanced_compileExpr nodes options (.seq inner)
      rw [compileItems]
      exact .bind (.change fun p => .withPrecedence p around) fun _ =>
        first.bind fun text => later.bind fun texts => .pure _

end

/-- By induction on how deeply handlers may be nested: handlers are called with a compiler for parts
that is balanced already. -/
theorem balanced_compile {run : H → Recur σ → Node → Act (Compiling σ) String}
    (handlers : ∀ depth, (∀ options e, Balanced fit (c.compile run depth options e)) →
      BalancedHandlers fit c fun handler => run handler (c.compile run depth))
    (depth : Nat) (options : Options) (e : Expr) :
    Balanced fit (c.compile run depth options e) := by
  induction depth generalizing options e with
  | zero => exact .fail _
  | succ depth parts =>
    have nodes := balanced_compileNode (handlers depth parts)
    exact balanced_compileExpr nodes options e

end Compiler

/-! ## Extensions of a default compiler -/

namespace Usage

/-- What calls on outstanding handles lead to from a default compiler with one handle on it, where
every handler that is registered on the way is one that may be added. -/
inductive Extension (builtin : Builtin → H) (added : H → Prop) : Usage H → Prop
  | start : Extension builtin added ⟨.standard builtin, [0],
      (Edit.standard builtin).reverse.map (.edited 0)⟩
  | call {u : Usage H} {id : Nat} (c : Call H) (extension : Extension builtin added u)
      (outstanding : id ∈ u.held)
      (registered : ∀ tags handler, c = .edit (.register tags handler) → added handler) :
      Extension builtin added (u.call id c)

namespace Extension

variable {builtin : Builtin → H} {added : H → Prop} {u : Usage H}

theorem reachable (extension : u.Extension builtin added) : u.Reachable := by
  induction extension with
  | start =>
    rw [Hierarchy.standard_eq_lone, ← Edit.tables_standard]
    exact reachable_lone _
  | call c _ outstanding _ reached => exact reached.call c outstanding

/-- A handler of this library, or one that was added. -/
theorem origin_of_past (extension : u.Extension builtin added) {id : Nat} {tags : List Tag}
    {handler : H} (registered : .edited id (.register tags handler) ∈ u.past) :
    (∃ b, handler = builtin b) ∨ added handler := by
  induction extension with
  | start =>
    obtain ⟨e, member, same⟩ := List.mem_map.mp registered
    obtain ⟨-, rfl⟩ := Event.edited.inj same
    rw [List.mem_reverse, Edit.standard, List.mem_append, List.mem_append] at member
    obtain ⟨member | member⟩ | member := member
    · obtain ⟨⟨tags', b⟩, -, same⟩ := List.mem_map.mp member
      exact .inl ⟨b, (Edit.register.inj same).2.symm⟩
    · obtain ⟨entry, -, same⟩ := List.mem_map.mp member
      cases same
    · cases List.mem_singleton.mp member
  | call c _ _ may ih =>
    cases c with
    | createChild => exact ih (by simpa [Usage.call] using registered)
    | clone => exact ih registered
    | drop => exact ih registered
    | edit e =>
      rcases List.mem_cons.mp registered with same | earlier
      · obtain ⟨-, rfl⟩ := Event.edited.inj same
        exact .inr (may _ _ rfl)
      · exact ih earlier

end Extension

end Usage

/-- What is set on a compiler was set by a change of it. -/
theorem edited_of_lastSet {set : Edit H → Option α} {id : Nat} {past : List (Event H)} {a : α}
    (last : lastSet set id past = some a) : ∃ e, .edited id e ∈ past ∧ set e = some a := by
  induction past with
  | nil => cases last
  | cons event earlier ih =>
    have before : lastSet set id earlier = some a → ∃ e, .edited id e ∈ event :: earlier ∧
        set e = some a := by
      intro last
      obtain ⟨e, member, sets⟩ := ih last
      exact ⟨e, List.mem_cons_of_mem _ member, sets⟩
    cases event with
    | created child parent =>
      rw [lastSet] at last
      split at last
      · cases last
      · exact before last
    | edited other e =>
      rw [lastSet] at last
      split at last
      · rename_i here
        subst here
        rcases Option.or_eq_some_iff.mp last with sets | ⟨-, last⟩
        · exact ⟨e, List.mem_cons_self, sets⟩
        · exact before last
      · exact before last

theorem registered_of_firstHandler {past : List (Event H)} {id : Nat} {lineage : List Tag}
    {handler : H} (first : firstHandler past id lineage = some handler) :
    ∃ other tags, .edited other (.register tags handler) ∈ past := by
  obtain ⟨tag, -, there⟩ := List.exists_of_findSome?_eq_some first
  obtain ⟨other, -, last⟩ := List.exists_of_findSome?_eq_some there
  obtain ⟨e, member, sets⟩ := edited_of_lastSet last
  refine ⟨other, ?_⟩
  cases e with
  | register tags registered =>
    rw [Edit.handlerFor, Option.ite_none_right_eq_some] at sets
    obtain ⟨-, sets⟩ := sets
    exact ⟨tags, Option.some.inj sets ▸ member⟩
  | setPrecedence precedence tags => cases sets
  | markWords reserved words => cases sets

/-- Every handler that a compiler of an extension has is one of this library, or one that was
added. -/
theorem Usage.Extension.origin {builtin : Builtin → H} {added : H → Prop} {u : Usage H}
    (extension : u.Extension builtin added) {id : Nat} (held : id ∈ u.held) {lineage : List Tag}
    {handler : H} (found : (u.hierarchy.effective id).handler? lineage = some handler) :
    (∃ b, handler = builtin b) ∨ added handler := by
  rw [extension.reachable.handler?_effective held] at found
  obtain ⟨other, tags, registered⟩ := registered_of_firstHandler found
  exact extension.origin_of_past registered

/-! ## Every compilation leaves the contexts as it found them -/

/-- The outside is an extension of a default compiler, and the handle on one of its compilers is
outstanding. -/
def Usage.Extends (builtin : Builtin → H) (added : H → Prop) (usage : σ → Usage H) (id : Nat)
    (outer : σ) : Prop :=
  (usage outer).Extension builtin added ∧ id ∈ (usage outer).held

/-- A compiler of an extension of a default compiler, where every handler that was added leaves the
contexts as they were and binds parameters only behind those bound before, as long as what compiles
its parts does. From every state, with all options, every expression leaves the context and all the
saved ones as they were, and the parameters bound before stand in front of those it binds: this is
said of the state that is left, whether a text comes out or an error. -/
theorem contexts_are_left_as_found {c : Compiler σ H}
    {run : H → Recur σ → Node → Act (Compiling σ) String} (builtin : Builtin → H) (added : H → Prop)
    (usage : σ → Usage H) {id : Nat}
    (tables : ∀ outer, c.tables outer = (usage outer).hierarchy.effective id)
    (runs : ∀ b recur node, run (builtin b) recur node = b.run c recur node) (disciplined : ∀ depth,
      (∀ options e, Balanced (Usage.Extends builtin added usage id)
        (c.compile run depth options e)) →
      ∀ handler, added handler → ∀ node,
        Balanced (Usage.Extends builtin added usage id) (run handler (c.compile run depth) node))
    (depth : Nat) (options : Options) (e : Expr) {outer : σ}
    (extension : (usage outer).Extension builtin added) (held : id ∈ (usage outer).held)
    (pass : Pass) :
    let after := (c.compile run depth options e ⟨outer, pass⟩).2.pass
    after.context = pass.context ∧ after.saved = pass.saved ∧
      ∃ more, after.parameters = pass.parameters ++ more := by
  have handlers : ∀ depth,
      (∀ options e, Balanced (Usage.Extends builtin added usage id)
        (c.compile run depth options e)) →
      Compiler.BalancedHandlers (Usage.Extends builtin added usage id) c
        fun handler => run handler (c.compile run depth) := by
    rintro depth parts outer ⟨extension, held⟩ lineage handler found node
    rw [tables] at found
    rcases extension.origin held found with ⟨b, rfl⟩ | wasAdded
    · dsimp only
      rw [runs]
      exact b.balanced_run parts node
    · exact disciplined depth parts handler wasAdded node
  obtain ⟨-, kept⟩ :=
    Compiler.balanced_compile handlers depth options e ⟨outer, pass⟩ ⟨extension, held⟩
  obtain ⟨more, behind⟩ := kept.parameters
  exact ⟨kept.context, kept.saved, more, behind.symm⟩

/-- A child of a default compiler with a handler for nodes of a further kind. -/
def probed : Usage Handler :=
  ((⟨.standard .builtin, [0], (Edit.standard .builtin).reverse.map (.edited 0)⟩ :
    Usage Handler).call 0 .createChild).call 1 (.edit (.register [⟨"probe"⟩] (.custom 0)))

def probedCompiler : Compiler Unit Handler where
  tables _ := probed.hierarchy.effective 1
  describe _ _ := ""

def runProbed : Handler → Recur Unit → Node → Act (Compiling Unit) String
  | .builtin b, recur, node => b.run probedCompiler recur node
  | .custom id, recur, .custom _ _ children => do
    Compiling.change (·.bind (.cell id))
    recur {} (.seq children)
  | .custom _, _, _ => pure ""

/-- A call whose argument counts what the further handler compiles: a difference whose right operand
no handler is for. -/
def probedGhost : Expr :=
  .node 0 (.call "MAX" (.node 1 (.count (.node 2 (.custom [⟨"probe"⟩] "probe"
    [.node 3 (.binary .sub (.node 4 (.value (.int 7)))
      (.node 5 (.custom [⟨"ghost"⟩] "ghost" [])))])) false)))

theorem probedGhost_leaves_contexts :
    let done := probedCompiler.compile runProbed 9 {} probedGhost
      ⟨(), { parameters := [.cell 5], context := some .columnName, saved := [none, some .table] }⟩
    done.1 = .error (.noHandler "ghost" "") ∧ done.2.pass.context = some .columnName ∧
      done.2.pass.saved = [none, some .table] ∧
      ∃ more, done.2.pass.parameters = [.cell 5] ++ more := by
  have extension : probed.Extension .builtin (· = .custom 0) := by
    refine .call _ (.call _ .start (by decide) ?_) (by decide +kernel) ?_
    · rintro tags handler same
      cases same
    · rintro tags handler same
      cases same
      rfl
  have held : 1 ∈ probed.held := by decide +kernel
  refine ⟨rfl, ?_⟩
  refine contexts_are_left_as_found .builtin (· = .custom 0) (fun _ => probed) (fun _ => rfl)
    (fun _ _ _ => rfl) ?_ 9 {} probedGhost extension held _
  rintro depth parts handler rfl node
  cases node
  case custom lineage name children =>
    exact .bind (.change fun p => .bind p _) fun _ => parts {} (.seq children)
  all_goals exact .pure _

end RowMapper
