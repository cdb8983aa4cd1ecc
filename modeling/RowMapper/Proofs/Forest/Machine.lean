import RowMapper.Proofs.Forest.Custody
import RowMapper.Proofs.Hierarchy.Tasks
/-!
A machine that does commands one thing after the other. A call borrows a hierarchy, does its tasks
and gives the hierarchy back; only then it drops what it has in its hands. Nothing is counted here:
a handler dies as soon as no table, no call and no program refers to it any more, and the handles
that it owned are dropped there and then. To drop a handle its hierarchy has to be borrowed, and the
machine fails if it is borrowed already.
-/

set_option autoImplicit false

namespace RowMapper

def Reference.handler? : Reference → Option Handler
  | .handler id => some (.custom id)
  | .handle _ => none

/-- What is under way. -/
inductive Frame where
  /-- A call that has a hierarchy borrowed, with its further tasks and with what it has in its
  hands: handlers that own tables were rid of, and compilers that left the hierarchy. -/
  | borrowing (hierarchy : Nat) (tasks : List (Task Handler)) (replaced : List Handler)
      (released : List (CompilerNode Handler))
  /-- References that are dropped one after the other. -/
  | dropping (references : List Reference)

namespace Frame

def borrows (i : Nat) : Frame → Bool
  | .borrowing j .. => i = j
  | .dropping _ => false

def handlers : Frame → List Handler
  | .borrowing _ _ replaced released => replaced ++ released.flatMap CompilerNode.handlers
  | .dropping references => references.filterMap Reference.handler?

/-- What a call drops when it has given its hierarchy back: the handlers in its hands, and those in
the tables of the compilers in its hands. Own tables go last: what leaves them leaves for good. -/
def letGo (replaced : List Handler) (released : List (CompilerNode Handler)) : List Reference :=
  (replaced ++ released.flatMap (·.effective.handlers.values) ++
    released.flatMap (·.own.handlers.values)).filterMap Handler.reference?

end Frame

/-- The hierarchies, what each handler owns (nothing once it has died), the handlers that the
program holds, and what is under way, the innermost in front. -/
structure Machine where
  hierarchies : List (Hierarchy Handler)
  owned : List (List Handle)
  held : List Handler
  stack : List Frame

namespace Machine

def hierarchy (m : Machine) (i : Nat) : Hierarchy Handler := (m.hierarchies[i]?).getD ⟨[], []⟩

def isBorrowed (m : Machine) (i : Nat) : Bool := m.stack.any (Frame.borrows i)

/-- The handlers that are referred to: from tables, own and effective ones, by the program, and by
what is under way. -/
def handlers (m : Machine) : List Handler :=
  m.hierarchies.flatMap Hierarchy.handlers ++ m.held ++ m.stack.flatMap Frame.handlers

/-- The handlers to which the last reference has gone. -/
def orphans (before after : Machine) : List HandlerId :=
  (List.range after.owned.length).filter fun id =>
    decide (.custom id ∈ before.handlers) && !decide (.custom id ∈ after.handlers)

/-- Handlers die, and what they owned is dropped next. -/
def bury (m : Machine) (dead : List HandlerId) : Machine :=
  { m with
    owned := dead.foldl (fun owned id => owned.set id []) m.owned
    stack := .dropping ((dead.flatMap fun id => (m.owned[id]?).getD []).map .handle) :: m.stack }

/-- What a step leads to, with the handlers dead to which it took the last reference. -/
def settle (before after : Machine) : Machine :=
  if orphans before after = [] then after else after.bury (orphans before after)

/-- One step; none if a hierarchy would have to be borrowed twice. Without anything under way the
machine rests. -/
def step (m : Machine) : Option Machine :=
  match m.stack with
  | [] => some m
  | .dropping [] :: rest => some { m with stack := rest }
  | .dropping (.handler _ :: references) :: rest =>
    some (m.settle { m with stack := .dropping references :: rest })
  | .dropping (.handle h :: references) :: rest =>
    if m.isBorrowed h.hierarchy then none
    else
      let call := .borrowing h.hierarchy [.discount h.slot, .vacate h.slot] [] []
      some { m with stack := call :: .dropping references :: rest }
  | .borrowing _ [] replaced released :: rest =>
    some { m with stack := .dropping (Frame.letGo replaced released) :: rest }
  | .borrowing i (task :: tasks) replaced released :: rest =>
    let done := task.perform (m.hierarchy i)
    let call := .borrowing i (done.next ++ tasks) (replaced ++ done.replaced)
      (released ++ done.released)
    some (m.settle
      { m with hierarchies := m.hierarchies.set i done.hierarchy, stack := call :: rest })

def run : Nat → Machine → Option Machine
  | 0, m => some m
  | n + 1, m => m.step.bind (run n)

def of {P : Type} (f : Forest P) (held : List Reference) (stack : List Frame) : Machine :=
  ⟨f.hierarchies, f.handlers.map CustomHandler.owned, held.filterMap Reference.handler?, stack⟩

end Machine

/-- A command begins. A call that is given a handler drops its reference when all else is done. -/
def Custody.begin {P : Type} (c : Custody P) : Command P → Machine
  | .createChild parent =>
      .of c.forest c.held [.borrowing parent.hierarchy [.adopt parent.slot] [] []]
  | .clone h => .of c.forest c.held [.borrowing h.hierarchy [.count h.slot] [] []]
  | .register h tags id =>
    .of c.forest (c.held.erase (.handler id))
      [.borrowing h.hierarchy [.change h.slot (.register tags (.custom id)), .update h.slot] [] [],
        .dropping [.handler id]]
  | .setPrecedence h precedence tags =>
    .of c.forest c.held [.borrowing h.hierarchy [.change h.slot (.setPrecedence precedence tags),
      .update h.slot] [] []]
  | .markWords h reserved words =>
    .of c.forest c.held [.borrowing h.hierarchy [.change h.slot (.markWords reserved words),
      .update h.slot] [] []]
  | .drop reference => .of c.forest (c.held.erase reference) [.dropping [reference]]
  -- nothing that is there already is borrowed for these
  | .createRoot => .of (c.perform .createRoot).forest (c.perform .createRoot).held []
  | .createStandard => .of (c.perform .createStandard).forest (c.perform .createStandard).held []
  | .makeHandler program owned =>
    .of (c.perform (.makeHandler program owned)).forest
      (c.perform (.makeHandler program owned)).held []
  | .cloneHandler id =>
    .of (c.perform (.cloneHandler id)).forest (c.perform (.cloneHandler id)).held []

namespace Machine

/-- A state in which no handler dies too early. -/
structure Safe (now : Machine) : Prop where
  /-- While a hierarchy stays borrowed, the next step takes the last reference to no handler. -/
  alive : ∀ {i next}, now.step = some next → now.isBorrowed i → next.isBorrowed i →
    ∀ handler ∈ now.handlers, handler ∈ next.handlers
  /-- What stands in effective tables that are overwritten next is in the hands of the call or in
  the own tables of a compiler. -/
  held : ∀ {i slot tasks replaced released rest},
    now.stack = .borrowing i (.update slot :: tasks) replaced released :: rest →
    ∀ handler ∈ ((now.hierarchy i).effective slot).handlers.values,
      handler ∈ replaced ∨ ∃ other node, (now.hierarchy i).node? other = some node ∧
        handler ∈ node.own.handlers.values
  /-- A compiler that leaves its slot comes into the hands of the call, with its tables, and stays
  there while the hierarchy is borrowed. -/
  handedOut : ∀ {i task tasks replaced released rest next},
    now.stack = .borrowing i (task :: tasks) replaced released :: rest → now.step = some next →
    ∃ tasks' replaced' left, next.stack = .borrowing i tasks' replaced' (released ++ left) :: rest ∧
      ∀ slot node, (now.hierarchy i).node? slot = some node → (next.hierarchy i).node? slot = none →
      node ∈ left
  /-- Nothing is dropped while a hierarchy is borrowed. -/
  unborrowed : ∀ {references rest}, now.stack = .dropping references :: rest →
    ∀ i, now.isBorrowed i = false

/-- From a state on, the machine passes safe states alone and comes to rest in the last one. -/
inductive Ends (last : Machine) : Machine → Prop
  | rest (idle : last.stack = []) : Ends last last
  | step {now next : Machine} (safe : now.Safe) (stepped : now.step = some next)
      (ends : Ends last next) : Ends last now

/-! ## Deaths -/

/-- None dies as long as each is referred to still. -/
theorem settle_of_kept {before after : Machine}
    (kept : ∀ handler ∈ before.handlers, handler ∈ after.handlers) :
    before.settle after = after := by
  have none_lost : orphans before after = [] := by
    rw [orphans, List.filter_eq_nil_iff]
    intro id _ lost
    simp only [Bool.and_eq_true, decide_eq_true_eq, Bool.not_eq_true',
      decide_eq_false_iff_not] at lost
    exact lost.2 (kept _ lost.1)
  rw [settle, if_pos none_lost]

/-- A handler dies with the last reference to it. -/
theorem settle_of_last {before after : Machine} {id : HandlerId} (known : id < after.owned.length)
    (kept : ∀ handler ∈ before.handlers, handler = .custom id ∨ handler ∈ after.handlers)
    (referred : .custom id ∈ before.handlers) (gone : .custom id ∉ after.handlers) :
    before.settle after = after.bury [id] := by
  have lost : orphans before after = [id] := by
    have alone : ∀ other ∈ List.range after.owned.length,
        (decide (.custom other ∈ before.handlers) && !decide (.custom other ∈ after.handlers)) =
        (other == id) := by
      intro other _
      rw [Bool.eq_iff_iff]
      simp only [Bool.and_eq_true, decide_eq_true_eq, Bool.not_eq_true',
        decide_eq_false_iff_not, beq_iff_eq]
      constructor
      · rintro ⟨there, absent⟩
        exact Handler.custom.inj ((kept _ there).resolve_right absent)
      · rintro rfl
        exact ⟨referred, gone⟩
    rw [orphans, List.filter_congr alone, List.filter_beq,
      List.count_eq_one_of_mem List.nodup_range (List.mem_range.mpr known), List.replicate_one]
  rw [settle, lost, if_neg (List.cons_ne_nil _ _)]

/-! ## Nothing borrowed -/

/-- Nothing but dropping is under way. -/
theorem isBorrowed_dropping {m : Machine} (lists : List (List Reference))
    (idle : m.stack = lists.map .dropping) (i : Nat) : m.isBorrowed i = false := by
  simp only [isBorrowed, idle, List.any_map, List.any_eq_false]
  intro references _
  exact Bool.false_ne_true

theorem safe_of_dropping {m : Machine} (lists : List (List Reference))
    (idle : m.stack = lists.map .dropping) :
    m.Safe := by
  have front : ∀ {i tasks replaced released rest},
      m.stack ≠ .borrowing i tasks replaced released :: rest := by
    intro i tasks replaced released rest same
    cases lists <;> cases idle.symm.trans same
  constructor
  case alive =>
    intro i next _ borrowed
    rw [isBorrowed_dropping lists idle] at borrowed
    cases borrowed
  case held => exact fun same => absurd same front
  case handedOut => exact fun same => absurd same front
  case unborrowed => exact fun _ => isBorrowed_dropping lists idle

/-! ## Runs -/

theorem step_of_idle {m : Machine} (idle : m.stack = []) : m.step = some m := by
  simp only [step, idle]

/-- Every number of steps leads to a safe state, and some number to the last one. -/
theorem Ends.run {last start : Machine} (ends : Ends last start) :
    (∀ n, ∃ now, start.run n = some now ∧ now.Safe) ∧ ∃ n, start.run n = some last := by
  induction ends with
  | rest idle =>
    refine ⟨fun n => ?_, 0, rfl⟩
    induction n with
    | zero => exact ⟨last, rfl, safe_of_dropping [] idle⟩
    | succ n ih => rwa [Machine.run, step_of_idle idle, Option.bind_some]
  | @step now next safe stepped _ ih =>
    obtain ⟨every, n, reached⟩ := ih
    refine ⟨fun n => ?_, n + 1, ?_⟩
    · cases n with
      | zero => exact ⟨now, rfl, safe⟩
      | succ n =>
        rw [Machine.run, stepped, Option.bind_some]
        exact every n
    · rw [Machine.run, stepped, Option.bind_some, reached]

end Machine

end RowMapper
