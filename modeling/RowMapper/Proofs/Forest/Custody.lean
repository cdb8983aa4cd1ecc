import RowMapper.Proofs.Forest.Estate
/-!
A forest and what a program has of it. Beside handles the program holds handlers of its own: it may
register one handler on several compilers and keep it in its hands, and a compilation that runs a
handler holds it meanwhile. Whatever the program does, the forest stays right for what it holds.
-/

set_option autoImplicit false

namespace RowMapper

variable {P : Type}

/-- A forest, with the handles and the handlers that the program holds, each as often as it does. -/
structure Custody (P : Type) where
  forest : Forest P
  held : List Reference

/-- What a program does with a forest. -/
inductive Command (P : Type) where
  | createRoot
  | createStandard
  | createChild (parent : Handle)
  | clone (h : Handle)
  | makeHandler (program : P) (owned : List Handle)
  /-- Another reference to a handler, for the program or for a compilation that has found it in a
  table. -/
  | cloneHandler (id : HandlerId)
  /-- The call is given a reference to the handler. -/
  | register (h : Handle) (tags : List Tag) (id : HandlerId)
  | setPrecedence (h : Handle) (precedence : Int) (tags : List Tag)
  | markWords (h : Handle) (reserved : Bool) (words : List String)
  | drop (reference : Reference)

namespace Custody

def initial : Custody P := ⟨.empty, []⟩

def perform (c : Custody P) : Command P → Custody P
  | .createRoot =>
    let (h, forest) := c.forest.create .root
    ⟨forest, .handle h :: c.held⟩
  | .createStandard =>
    let (h, forest) := c.forest.create (.standard .builtin)
    ⟨forest, .handle h :: c.held⟩
  | .createChild parent =>
    let (child, forest) := c.forest.createChild parent
    ⟨forest, .handle child :: c.held⟩
  | .clone h => ⟨c.forest.addHandle h, .handle h :: c.held⟩
  | .makeHandler program owned =>
    let (id, forest) := c.forest.addHandler program owned
    ⟨forest, .handler id :: c.held⟩
  | .cloneHandler id => ⟨c.forest.retainHandler id 1, .handler id :: c.held⟩
  | .register h tags id => ⟨c.forest.registerHandler h tags id, c.held.erase (.handler id)⟩
  | .setPrecedence h precedence tags => ⟨c.forest.setPrecedence h precedence tags, c.held⟩
  | .markWords h reserved words => ⟨c.forest.markWords h reserved words, c.held⟩
  | .drop reference => ⟨c.forest.drop [reference], c.held.erase reference⟩

/-- A handle is outstanding: the program holds it, or a handler owns it. -/
def Outstanding (c : Custody P) (h : Handle) : Prop := .handle h ∈ c.held ∨ h ∈ c.forest.owned

instance (c : Custody P) (h : Handle) : Decidable (c.Outstanding h) :=
  inferInstanceAs (Decidable (.handle h ∈ c.held ∨ h ∈ c.forest.owned))

/-- Calls are made on outstanding handles; the program gives away and drops what it holds, and takes
handlers that it holds or that stand in tables. -/
def Allows (c : Custody P) : Command P → Prop
  | .createRoot | .createStandard => True
  | .createChild h | .clone h | .setPrecedence h _ _ | .markWords h _ _ => c.Outstanding h
  | .makeHandler _ owned => ∀ h ∈ owned, c.Outstanding h
  | .cloneHandler id => .handler id ∈ c.held ∨ .custom id ∈ c.forest.entries
  | .register h _ id => c.Outstanding h ∧ .handler id ∈ c.held
  | .drop reference => reference ∈ c.held

instance (c : Custody P) (command : Command P) : Decidable (c.Allows command) :=
  match command with
  | .createRoot | .createStandard => inferInstanceAs (Decidable True)
  | .createChild h | .clone h | .setPrecedence h _ _ | .markWords h _ _ =>
    inferInstanceAs (Decidable (c.Outstanding h))
  | .makeHandler _ owned => inferInstanceAs (Decidable (∀ h ∈ owned, c.Outstanding h))
  | .cloneHandler id =>
    inferInstanceAs (Decidable (.handler id ∈ c.held ∨ .custom id ∈ c.forest.entries))
  | .register h _ id => inferInstanceAs (Decidable (c.Outstanding h ∧ .handler id ∈ c.held))
  | .drop reference => inferInstanceAs (Decidable (reference ∈ c.held))

inductive Reachable : Custody P → Prop
  | initial : Reachable .initial
  | perform {c : Custody P} {command : Command P} (reached : Reachable c)
      (allowed : c.Allows command) :
      Reachable (c.perform command)

def Sound (c : Custody P) : Prop := ∃ born given, c.forest.Holds c.held born given

namespace Sound

variable {c : Custody P}

theorem holders_pos {h : Handle} (outstanding : c.Outstanding h) :
    0 < c.forest.holders c.held h := by
  rcases outstanding with held | owned
  · exact Nat.add_pos_left (List.count_pos_iff.mpr held) _
  · exact Nat.add_pos_right _ (List.count_pos_iff.mpr owned)

theorem initial : (Custody.initial : Custody P).Sound := ⟨fun _ => [], [], Estate.Sound.initial⟩

theorem perform (sound : c.Sound) {command : Command P} (allowed : c.Allows command) :
    (c.perform command).Sound := by
  obtain ⟨born, given, holds⟩ := sound
  cases command with
  | createRoot => exact ⟨born, given, Forest.Holds.create holds [] (fun _ member => nomatch member)⟩
  | createStandard =>
    have created := Forest.Holds.create holds (Edit.standard .builtin)
    rw [Edit.tables_standard] at created
    exact ⟨born, given, created reference?_standard⟩
  | createChild h => exact ⟨_, given, holds.createChild (holders_pos allowed)⟩
  | clone h => exact ⟨born, given, holds.addHandle (holders_pos allowed)⟩
  | makeHandler program owned =>
    exact ⟨born, given ++ [owned],
      holds.addHandler program fun h member => holders_pos (allowed h member)⟩
  | cloneHandler id =>
    have referred : 0 < c.forest.users c.held id := by
      rcases allowed with held | entry
      · exact Nat.add_pos_left (List.count_pos_iff.mpr held) _
      · exact Nat.add_pos_right _ (List.count_pos_iff.mpr entry)
    exact ⟨born, given, holds.retainHandler referred 1⟩
  | register h tags id =>
    exact ⟨born, given, holds.registerHandler (holders_pos allowed.1) tags allowed.2⟩
  | setPrecedence h precedence tags =>
    exact ⟨born, given, holds.setPrecedence (holders_pos allowed) precedence tags⟩
  | markWords h reserved words =>
    exact ⟨born, given, holds.markWords (holders_pos allowed) reserved words⟩
  | drop reference =>
    exact ⟨born, given, Forest.Holds.drop (holds.of_perm (List.perm_cons_erase allowed))⟩

end Sound

/-- Whatever a program does, the forest is right for what it holds. -/
theorem Reachable.sound {c : Custody P} (reached : c.Reachable) : c.Sound := by
  induction reached with
  | initial => exact Sound.initial
  | perform _ allowed ih => exact ih.perform allowed

end Custody

end RowMapper
