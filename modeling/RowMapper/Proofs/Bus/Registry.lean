import RowMapper.Proofs.Bus.Snapshot
import RowMapper.Proofs.Values.Equality
/-!
The registry of a bus is an ordered set, as far as the equality of extra arguments goes. A history
of what was hooked and unhooked tells at every moment which hooks stand under a name, in the order
in which they came. A hook with an argument that is no number differs from itself, so it stands as
often as it was hooked and is never taken out.
-/

set_option autoImplicit false

namespace RowMapper

variable {υ : Type}

namespace Arg

/-- The argument holds a number that is no number. -/
def hasNaN : Arg → Bool
  | .slot s => s.hasNaN
  | _ => false

theorem partialEquality : PartialEquality Arg.same Arg.hasNaN where
  comm a b := by
    cases a <;> cases b <;> first
      | rfl
      | exact BEq.comm
      | exact Slot.partialEquality.comm _ _
      | exact Lazy.partialEquality.comm _ _
  trans a b c first second := by
    cases a <;> cases b <;> simp only [same, Bool.false_eq_true] at first
    all_goals cases c <;> simp only [same, Bool.false_eq_true] at second ⊢
    all_goals first
      | exact BEq.trans first second
      | exact Slot.partialEquality.trans _ _ _ first second
      | exact Lazy.partialEquality.trans _ _ _ first second
  self a := by
    cases a with
    | slot s => exact Slot.partialEquality.self s
    | lazy l => exact Lazy.partialEquality.self l
    | _ => simp only [same, hasNaN, BEq.rfl, Bool.not_false]

theorem sameAll_partialEquality : PartialEquality Arg.sameAll fun args => args.any Arg.hasNaN where
  comm as bs := by
    induction as generalizing bs with
    | nil => cases bs <;> rfl
    | cons a as ih => cases bs <;> simp only [sameAll, partialEquality.comm a, ih]
  trans as bs cs first second := by
    induction as generalizing bs cs with
    | nil =>
      cases bs <;> simp only [sameAll, Bool.false_eq_true] at first
      exact second
    | cons a as ih =>
      cases bs <;> simp only [sameAll, Bool.false_eq_true, Bool.and_eq_true] at first
      cases cs <;> simp only [sameAll, Bool.false_eq_true, Bool.and_eq_true] at second ⊢
      exact ⟨partialEquality.trans a _ _ first.1 second.1, ih _ _ first.2 second.2⟩
  self as := by
    induction as with
    | nil => rfl
    | cons a as ih => simp only [sameAll, partialEquality.self a, ih, List.any_cons, Bool.not_or]

end Arg

namespace Hook

def hasNaN (h : Hook) : Bool := h.extra.any Arg.hasNaN

/-- Two hooks are the same pair in a sense that is symmetric and transitive, and a hook is the same
pair as itself unless an argument holds a number that is no number. -/
theorem partialEquality : PartialEquality Hook.same Hook.hasNaN where
  comm a b := by
    simp only [same, Arg.sameAll_partialEquality.comm a.extra, BEq.comm (a := a.callback)]
  trans a b c first second := by
    simp only [same, Bool.and_eq_true] at *
    exact ⟨BEq.trans first.1 second.1, Arg.sameAll_partialEquality.trans _ _ _ first.2 second.2⟩
  self a := by simp only [same, hasNaN, Arg.sameAll_partialEquality.self, BEq.rfl, Bool.true_and]

variable {first hook : Hook} {hooks : List Hook}

/-- A hook in front of others, of which those that are the same pair are left out. -/
def leading (first : Hook) (hooks : List Hook) : List Hook :=
  first :: hooks.filter fun next => !first.same next

/-- The hooks and one more, unless the pair is there. -/
def enlist (hooks : List Hook) (hook : Hook) : List Hook :=
  if hooks.any (·.same hook) then hooks else hooks ++ [hook]

/-- The hooks without those that are the same pair. -/
def strike (hooks : List Hook) (hook : Hook) : List Hook :=
  hooks.filter fun other => !other.same hook

theorem enlist_leading : enlist (first.leading hooks) hook = first.leading (enlist hooks hook) := by
  by_cases among : hooks.any (·.same hook) = true
  · -- the one there already is the same pair as the first, and then the first is the one there, or
    -- it stays
    have there : (first.leading hooks).any (·.same hook) = true := by
      obtain ⟨other, isThere, same⟩ := List.any_eq_true.mp among
      rw [List.any_eq_true]
      by_cases led : first.same other = true
      · exact ⟨first, List.mem_cons_self .., partialEquality.trans _ _ _ led same⟩
      · exact ⟨other, List.mem_cons_of_mem _ (List.mem_filter.mpr ⟨isThere, by simpa using led⟩),
          same⟩
    rw [enlist, enlist, if_pos there, if_pos among]
  · have apart : (hooks.filter fun next => !first.same next).any (·.same hook) = false := by
      rw [List.any_eq_false]
      intro other isThere same
      exact among (List.any_eq_true.mpr ⟨other, (List.mem_filter.mp isThere).1, same⟩)
    rw [enlist, enlist, if_neg among]
    cases led : first.same hook with
    | true => simp [leading, led]
    | false => simp [leading, led, apart]

theorem strike_leading_of_same (same : first.same hook = true) :
    strike (first.leading hooks) hook = strike hooks hook := by
  rw [strike, leading, List.filter_cons_of_neg (by simp [same]), List.filter_filter, strike]
  refine List.filter_congr fun other _ => ?_
  -- what is the same pair as the first is the same pair as the hook
  cases led : first.same other with
  | false => simp
  | true =>
    have taken : other.same hook = true :=
      partialEquality.trans _ _ _ ((partialEquality.comm other first).trans led) same
    simp [taken]

theorem strike_leading_of_apart (apart : first.same hook = false) :
    strike (first.leading hooks) hook = first.leading (strike hooks hook) := by
  rw [strike, leading, List.filter_cons_of_pos (by simp [apart]), leading, strike,
    List.filter_filter, List.filter_filter]
  simp only [Bool.and_comm]

theorem strike_of_hasNaN (strange : hook.hasNaN = true) : strike hooks hook = hooks := by
  rw [strike, List.filter_eq_self]
  intro other _
  cases same : other.same hook with
  | false => rfl
  | true =>
    -- a hook that is the same pair as another is the same pair as itself
    have self := partialEquality.trans _ _ _ ((partialEquality.comm hook other).trans same) same
    rw [partialEquality.self, strange] at self
    exact absurd self (by decide)

theorem enlist_of_hasNaN (strange : hook.hasNaN = true) : enlist hooks hook = hooks ++ [hook] := by
  refine if_neg fun among => ?_
  obtain ⟨other, isThere, same⟩ := List.any_eq_true.mp among
  have kept : other ∈ strike hooks hook := by rwa [strike_of_hasNaN strange]
  rw [strike, List.mem_filter, same] at kept
  exact absurd kept.2 (by decide)

theorem not_mem_strike (ordinary : hook.hasNaN = false) : hook ∉ strike hooks hook := by
  intro isThere
  rw [strike, List.mem_filter, partialEquality.self, ordinary] at isThere
  exact absurd isThere.2 (by decide)

end Hook

namespace Bus

/-- What was done to the registry of a bus. -/
inductive Deed where
  | hooked (name : String) (hook : Hook)
  | unhooked (name : String) (hook : Hook)
  /-- An emission found that the hook, which it had called, wants to unsubscribe. -/
  | unsubscribed (name : String) (hook : Hook)

namespace Deed

def apply : Deed → Bus → Bus
  | .hooked name hook, b => b.hook name hook
  | .unhooked name hook, b | .unsubscribed name hook, b => b.unhook name hook

def name : Deed → String
  | .hooked name _ | .unhooked name _ | .unsubscribed name _ => name

def change : Deed → List Hook → List Hook
  | .hooked _ hook, hooks => Hook.enlist hooks hook
  | .unhooked _ hook, hooks | .unsubscribed _ hook, hooks => Hook.strike hooks hook

def Removes (deed : Deed) (name : String) (hook : Hook) : Prop :=
  deed = .unhooked name hook ∨ deed = .unsubscribed name hook

/-- It takes the pair of a hook out of those of a name. -/
def drops (name : String) (hook : Hook) : Deed → Bool
  | .hooked .. => false
  | .unhooked other taken | .unsubscribed other taken => other == name && hook.same taken

end Deed

/-- The hooks that stand under a name after a history, the first deed first: those that were hooked
and not taken out later, each pair where it came first. -/
def standing (name : String) : List Deed → List Hook
  | [] => []
  | .hooked other hook :: later =>
    if other = name ∧ later.any (Deed.drops name hook) = false then
      hook.leading (standing name later)
    else standing name later
  | .unhooked .. :: later | .unsubscribed .. :: later => standing name later

section Standing

variable {name other : String} {first hook : Hook} {history later : List Deed}

theorem standing_stays (stays : later.any (Deed.drops name first) = false) :
    standing name (.hooked name first :: later) = first.leading (standing name later) :=
  if_pos ⟨rfl, stays⟩

theorem standing_passes (passes : other ≠ name ∨ later.any (Deed.drops name first) = true) :
    standing name (.hooked other first :: later) = standing name later :=
  if_neg fun stays => passes.elim (absurd stays.1) fun dropped =>
    Bool.false_ne_true (stays.2.symm.trans dropped)

theorem standing_hooked :
    standing name (history ++ [.hooked name hook]) = Hook.enlist (standing name history) hook := by
  induction history with
  | nil => simp [standing, Hook.leading, Hook.enlist]
  | cons deed history ih =>
    cases deed with
    | unhooked | unsubscribed => exact ih
    | hooked taken first =>
      have later : (history ++ [Deed.hooked name hook]).any (Deed.drops name first) =
          history.any (Deed.drops name first) := by
        rw [List.any_append, List.any_cons, Deed.drops, List.any_nil, Bool.or_false, Bool.or_false]
      by_cases here : taken = name
      · subst here
        cases dropped : history.any (Deed.drops taken first) with
        | false =>
          rw [List.cons_append, standing_stays (later.trans dropped), standing_stays dropped, ih,
            Hook.enlist_leading]
        | true =>
          rw [List.cons_append, standing_passes (.inr (later.trans dropped)),
            standing_passes (.inr dropped), ih]
      · rw [List.cons_append, standing_passes (.inl here), standing_passes (.inl here), ih]

theorem standing_removed {deed : Deed} (removes : deed.Removes name hook) :
    standing name (history ++ [deed]) = Hook.strike (standing name history) hook := by
  induction history with
  | nil => rcases removes with rfl | rfl <;> rfl
  | cons earlier history ih =>
    cases earlier with
    | unhooked | unsubscribed => exact ih
    | hooked taken first =>
      have later : (history ++ [deed]).any (Deed.drops name first) =
          (history.any (Deed.drops name first) || first.same hook) := by
        rcases removes with rfl | rfl <;> simp [Deed.drops]
      by_cases here : taken = name
      · subst here
        cases dropped : history.any (Deed.drops taken first) with
        | true =>
          rw [List.cons_append, standing_passes (.inr (by rw [later, dropped, Bool.true_or])),
            standing_passes (.inr dropped), ih]
        | false =>
          rw [dropped, Bool.false_or] at later
          cases same : first.same hook with
          | true =>
            rw [List.cons_append, standing_passes (.inr (later.trans same)),
              standing_stays dropped, ih, Hook.strike_leading_of_same same]
          | false =>
            rw [List.cons_append, standing_stays (later.trans same), standing_stays dropped, ih,
              Hook.strike_leading_of_apart same]
      · rw [List.cons_append, standing_passes (.inl here), standing_passes (.inl here), ih]

theorem standing_elsewhere {deed : Deed} (elsewhere : deed.name ≠ name) :
    standing name (history ++ [deed]) = standing name history := by
  induction history with
  | nil =>
    cases deed with
    | hooked other hook => exact standing_passes (.inl elsewhere)
    | unhooked | unsubscribed => rfl
  | cons earlier history ih =>
    cases earlier with
    | unhooked | unsubscribed => exact ih
    | hooked taken first =>
      have later : (history ++ [deed]).any (Deed.drops name first) =
          history.any (Deed.drops name first) := by
        cases deed <;> simp_all [Deed.drops, Deed.name]
      rw [List.cons_append, standing, standing, later, ih]

/-- What a deed does to the hooks that stand under a name. -/
theorem standing_append (deed : Deed) :
    standing name (history ++ [deed]) =
      if deed.name = name then deed.change (standing name history) else standing name history := by
  by_cases here : deed.name = name
  · rw [if_pos here]
    subst here
    cases deed with
    | hooked => exact standing_hooked
    | unhooked => exact standing_removed (.inl rfl)
    | unsubscribed => exact standing_removed (.inr rfl)
  · rw [if_neg here, standing_elsewhere here]

/-- No two hooks that stand under a name are the same pair. -/
theorem standing_apart (name : String) (history : List Deed) :
    (standing name history).Pairwise fun first second => first.same second = false := by
  induction history with
  | nil => exact .nil
  | cons deed later ih =>
    cases deed with
    | unhooked | unsubscribed => exact ih
    | hooked other first =>
      rw [standing]
      split
      · refine List.pairwise_cons.mpr ⟨fun next isThere => ?_, ih.filter _⟩
        simpa using (List.mem_filter.mp isThere).2
      · exact ih

end Standing

section Effects

variable {b : Bus} {name other : String} {hook : Hook}

theorem hook_of_registered (registered : (b.hooksOf name).any (·.same hook) = true) :
    b.hook name hook = b :=
  if_pos registered

theorem hooks_hook_of_new (new : (b.hooksOf name).any (·.same hook) = false) :
    (b.hook name hook).hooks = b.hooks.insert name (b.hooksOf name ++ [hook]) := by
  rw [Bus.hook, if_neg (Bool.eq_false_iff.mp new)]

theorem hooksOf_hook :
    (b.hook name hook).hooksOf other =
      if name = other then Hook.enlist (b.hooksOf other) hook else b.hooksOf other := by
  cases registered : (b.hooksOf name).any (·.same hook) with
  | true =>
    rw [hook_of_registered registered]
    split
    · subst other
      rw [Hook.enlist, if_pos registered]
    · rfl
  | false =>
    rw [hooksOf, hooks_hook_of_new registered, Dict.get?_insert]
    split
    · subst other
      rw [Hook.enlist, registered]
      rfl
    · rfl

theorem hooksOf_unhook :
    (b.unhook name hook).hooksOf other =
      if name = other then Hook.strike (b.hooksOf other) hook else b.hooksOf other := by
  cases there : b.hooks.get? name with
  | none =>
    have nothing : b.hooksOf name = [] := by rw [hooksOf, there, Option.getD_none]
    simp only [unhook, there]
    split
    · subst other
      rw [nothing]
      rfl
    · rfl
  | some registered =>
    have all : b.hooksOf name = registered := by rw [hooksOf, there, Option.getD_some]
    simp only [unhook, there]
    cases left : (registered.filter fun other => !other.same hook).isEmpty with
    | true =>
      rw [if_pos rfl, hooksOf, Dict.get?_erase]
      split
      · subst other
        rw [all]
        exact (List.isEmpty_iff.mp left).symm
      · rfl
    | false =>
      rw [if_neg Bool.false_ne_true, hooksOf, Dict.get?_insert]
      split
      · subst other
        rw [all]
        rfl
      · rfl

/-- A name is there exactly if it has a hook. -/
def Tidy (b : Bus) : Prop := ∀ name, (b.hooks.get? name).isSome = true ↔ b.hooksOf name ≠ []

theorem tidy_hook (tidy : b.Tidy) : (b.hook name hook).Tidy := by
  intro other
  cases registered : (b.hooksOf name).any (·.same hook) with
  | true =>
    rw [hook_of_registered registered]
    exact tidy other
  | false =>
    rw [hooksOf, hooks_hook_of_new registered, Dict.get?_insert]
    split
    · simp
    · exact tidy other

theorem tidy_unhook (tidy : b.Tidy) : (b.unhook name hook).Tidy := by
  intro other
  cases there : b.hooks.get? name with
  | none =>
    simp only [unhook, there]
    exact tidy other
  | some registered =>
    simp only [unhook, there]
    cases left : (registered.filter fun other => !other.same hook).isEmpty with
    | true =>
      rw [if_pos rfl, hooksOf, Dict.get?_erase]
      split
      · simp
      · exact tidy other
    | false =>
      rw [if_neg Bool.false_ne_true, hooksOf, Dict.get?_insert]
      split
      · simpa using left
      · exact tidy other

theorem hooksOf_apply (deed : Deed) :
    (deed.apply b).hooksOf name =
      if deed.name = name then deed.change (b.hooksOf name) else b.hooksOf name := by
  cases deed with
  | hooked => exact hooksOf_hook
  | unhooked | unsubscribed => exact hooksOf_unhook

theorem tidy_apply (deed : Deed) (tidy : b.Tidy) : (deed.apply b).Tidy := by
  cases deed with
  | hooked => exact tidy_hook tidy
  | unhooked | unsubscribed => exact tidy_unhook tidy

end Effects

/-- A registry that says what a history tells: each name has the hooks that stand under it, and it
is there exactly if it has a hook. -/
structure Tells (b : Bus) (history : List Deed) : Prop where
  hooks : ∀ name, b.hooksOf name = standing name history
  present : b.Tidy

theorem Tells.new (owner : Owner) : (ofOwner owner).Tells [] where
  hooks _ := rfl
  present _ := by simp [ofOwner, hooksOf]

theorem Tells.next {b : Bus} {history : List Deed} (tells : b.Tells history) (deed : Deed) :
    (deed.apply b).Tells (history ++ [deed]) where
  hooks name := by rw [hooksOf_apply, standing_append, tells.hooks]
  present := tidy_apply deed tells.present

/-- A deed with the bus just before it and just after it. -/
structure Entry where
  deed : Deed
  before : Bus
  after : Bus

def Deed.entry (deed : Deed) (b : Bus) : Entry := ⟨deed, b, deed.apply b⟩

/-- A run of code in a world, with what it did to the registry of a bus, in order. The code may do
anything else beside, and its callbacks, which emissions call, may do what it may. -/
inductive Registers (bus : BusId) : {α : Type} → Act (World υ) α → World υ → List Entry → Prop
  | aside {α : Type} {act : Act (World υ) α} {w : World υ}
      (same : (act w).2.store.buses[bus]? = w.store.buses[bus]?) : Registers bus act w []
  | next {α β : Type} {first : Act (World υ) α} {andThen : α → Act (World υ) β} {a : α}
      {w v : World υ} {earlier later : List Entry} (run : Registers bus first w earlier)
      (done : first w = (.ok a, v)) (rest : Registers bus (andThen a) v later) :
      Registers bus (first >>= andThen) w (earlier ++ later)
  | stop {α β : Type} {first : Act (World υ) α} {andThen : α → Act (World υ) β} {e : Error}
      {w v : World υ} {history : List Entry} (run : Registers bus first w history)
      (failed : first w = (.error e, v)) :
      Registers bus (first >>= andThen) w history
  | attempt {α : Type} {act : Act (World υ) α} {w : World υ} {history : List Entry}
      (run : Registers bus act w history) : Registers bus act.attempt w history
  | ensure {α : Type} {act : Act (World υ) α} {last : Store → Store} {w : World υ}
      {history : List Entry} (run : Registers bus act w history)
      (same : ∀ s : Store, (last s).buses = s.buses) :
      Registers bus (World.ensure act last) w history
  | hook {w : World υ} {b : Bus} (there : w.store.buses[bus]? = some b) (name : String)
      (hook : Hook) :
      Registers bus (World.change (·.adjustBus bus (·.hook name hook))) w
        [(Deed.hooked name hook).entry b]
  | unhook {w : World υ} {b : Bus} (there : w.store.buses[bus]? = some b) (name : String)
      (hook : Hook) :
      Registers bus (World.change (·.adjustBus bus (·.unhook name hook))) w
        [(Deed.unhooked name hook).entry b]
  /-- A called hook stays, or it is not one of the bus. -/
  | called {foreign : Foreign υ} {other : BusId} {name : String} {owner : Owner} {args : List Arg}
      {hook : Hook} {hooks : List Hook} {flow : Flow} {w v : World υ} {earlier later : List Entry}
      (call : Registers bus (foreign.call hook.callback owner (args ++ hook.extra)) w earlier)
      (answers : foreign.call hook.callback owner (args ++ hook.extra) w = (.ok flow, v))
      (stays : flow = .unsubscribe → other = bus → v.store.buses[bus]? = none)
      (rest : Registers bus (callAll foreign other name owner args hooks)
        (v.heeding other name hook flow) later) :
      Registers bus (callAll foreign other name owner args (hook :: hooks)) w (earlier ++ later)
  | unsubscribes {foreign : Foreign υ} {name : String} {owner : Owner} {args : List Arg}
      {hook : Hook} {hooks : List Hook} {w v : World υ} {b : Bus} {earlier later : List Entry}
      (call : Registers bus (foreign.call hook.callback owner (args ++ hook.extra)) w earlier)
      (answers : foreign.call hook.callback owner (args ++ hook.extra) w = (.ok .unsubscribe, v))
      (there : v.store.buses[bus]? = some b)
      (rest : Registers bus (callAll foreign bus name owner args hooks)
        (v.heeding bus name hook .unsubscribe) later) :
      Registers bus (callAll foreign bus name owner args (hook :: hooks)) w
        (earlier ++ (Deed.unsubscribed name hook).entry b :: later)
  | fails {foreign : Foreign υ} {other : BusId} {name : String} {owner : Owner} {args : List Arg}
      {hook : Hook} {hooks : List Hook} {e : Error} {w v : World υ} {history : List Entry}
      (call : Registers bus (foreign.call hook.callback owner (args ++ hook.extra)) w history)
      (answers : foreign.call hook.callback owner (args ++ hook.extra) w = (.error e, v)) :
      Registers bus (callAll foreign other name owner args (hook :: hooks)) w history
  | emit {foreign : Foreign υ} {other : BusId} {name : String} {args : List Arg}
      {w : World υ} {b : Bus} {history : List Entry} (there : w.store.buses[other]? = some b)
      (alive : w.store.ownerAlive b.owner = true)
      (calls : Registers bus (callAll foreign other name b.owner args (b.hooksOf name))
        (w.retaining b.owner) history) : Registers bus (Bus.emit foreign other name args) w history

/-- Entries that begin with a bus, go on where the one before ended, and lead to a bus. -/
def Leads : Bus → List Entry → Bus → Prop
  | b, [], last => last = b
  | b, entry :: later, last => entry = entry.deed.entry b ∧ Leads entry.after later last

theorem Leads.append {b between last : Bus} {earlier later : List Entry}
    (first : Leads b earlier between) (second : Leads between later last) :
    Leads b (earlier ++ later) last := by
  induction earlier generalizing b with
  | nil =>
    obtain rfl := first
    exact second
  | cons entry earlier ih => exact ⟨first.1, ih first.2⟩

theorem Leads.entry (deed : Deed) (b : Bus) : Leads b [deed.entry b] (deed.apply b) := ⟨rfl, rfl⟩

theorem adjusted_bus {s : Store} {bus : BusId} {b : Bus} (there : s.buses[bus]? = some b)
    (f : Bus → Bus) :
    (s.adjustBus bus f).buses[bus]? = some (f b) := by
  rw [Store.adjustBus, List.getElem?_modify, there]
  simp

/-- A run leads from the bus at its start to the bus at its end. -/
theorem Registers.leads {bus : BusId} {α : Type} {act : Act (World υ) α} {w : World υ}
    {history : List Entry} (run : Registers bus act w history) {b : Bus}
    (there : w.store.buses[bus]? = some b) :
    ∃ last, (act w).2.store.buses[bus]? = some last ∧ Leads b history last := by
  induction run generalizing b with
  | aside same => exact ⟨b, same.trans there, rfl⟩
  | next run done rest ih ihRest =>
    obtain ⟨between, remains, first⟩ := ih there
    rw [done] at remains
    obtain ⟨last, final, second⟩ := ihRest remains
    rw [Act.bind_of_ok _ _ _ _ _ done]
    exact ⟨last, final, first.append second⟩
  | stop run failed ih =>
    obtain ⟨last, final, leads⟩ := ih there
    rw [failed] at final
    rw [Act.bind_of_error _ _ _ _ _ failed]
    exact ⟨last, final, leads⟩
  | attempt run ih =>
    obtain ⟨last, final, leads⟩ := ih there
    exact ⟨last, by rw [Act.attempt_state, final], leads⟩
  | ensure run same ih =>
    obtain ⟨last, final, leads⟩ := ih there
    refine ⟨last, ?_, leads⟩
    rw [← final]
    exact congrArg (fun buses : List Bus => buses[bus]?) (same _)
  | hook here name hook =>
    obtain rfl := Option.some.inj (here.symm.trans there)
    exact ⟨_, adjusted_bus here _, .entry _ _⟩
  | unhook here name hook =>
    obtain rfl := Option.some.inj (here.symm.trans there)
    exact ⟨_, adjusted_bus here _, .entry _ _⟩
  | @called _ other name _ _ hook _ flow _ v _ _ call answers stays rest ih ihRest =>
    obtain ⟨between, remains, first⟩ := ih there
    rw [answers] at remains
    have kept : (v.heeding other name hook flow).store.buses[bus]? = some between := by
      cases flow with
      | keep => exact remains
      | unsubscribe =>
        have apart : other ≠ bus := fun same => by
          rw [stays rfl same] at remains
          cases remains
        rw [← remains]
        simp [World.heeding, Store.adjustBus, apart]
    obtain ⟨last, final, second⟩ := ihRest kept
    rw [callAll_of_ok answers]
    exact ⟨last, final, first.append second⟩
  | unsubscribes call answers here rest ih ihRest =>
    obtain ⟨between, remains, first⟩ := ih there
    rw [answers] at remains
    obtain rfl := Option.some.inj (here.symm.trans remains)
    obtain ⟨last, final, second⟩ := ihRest (adjusted_bus here _)
    rw [callAll_of_ok answers]
    exact ⟨last, final, first.append ⟨rfl, second⟩⟩
  | fails call answers ih =>
    obtain ⟨last, final, leads⟩ := ih there
    rw [answers] at final
    rw [callAll_of_error answers]
    exact ⟨last, final, leads⟩
  | @emit _ other _ _ w owned _ here alive calls ih =>
    have kept : (w.retaining owned.owner).store.buses[bus]? = some b := by
      rw [World.retaining, Store.buses_retainOwner, there]
    obtain ⟨last, final, leads⟩ := ih kept
    refine ⟨last, ?_, leads⟩
    rw [emit_of_alive here alive, ← final]
    exact congrArg (fun buses : List Bus => buses[bus]?) (Store.buses_releaseOwner _ owned.owner)

/-- No two hooks of a name are the same pair, so none stands twice unless an argument of it is no
number. -/
structure Distinct (b : Bus) : Prop where
  apart : ∀ name, (b.hooksOf name).Pairwise fun first second => first.same second = false
  once : ∀ name, ((b.hooksOf name).filter fun hook => !hook.hasNaN).Nodup

theorem Tells.distinct {b : Bus} {history : List Deed} (tells : b.Tells history) : b.Distinct where
  apart name := by
    rw [tells.hooks]
    exact standing_apart name history
  once name := by
    rw [tells.hooks]
    refine ((standing_apart name history).filter _).imp_of_mem
      fun {first second} isThere _ apart equal => ?_
    subst equal
    rw [Hook.partialEquality.self] at apart
    have ordinary := (List.mem_filter.mp isThere).2
    exact Bool.false_ne_true (apart.symm.trans ordinary)

/-- What an entry shows, given the deeds before it. The pair of a hook is that hook, unless an
argument of it is no number: then hooking always adds one, and none is ever taken out. -/
structure Entry.Lawful (entry : Entry) (earlier : List Deed) : Prop where
  before : entry.before.Tells earlier
  after : entry.after.Tells (earlier ++ [entry.deed])
  distinct : entry.after.Distinct
  /-- The hooks of the other names stay. -/
  elsewhere : ∀ name, entry.deed.name ≠ name → entry.after.hooksOf name = entry.before.hooksOf name
  /-- A pair that is there is not hooked again. -/
  again : ∀ name hook, entry.deed = .hooked name hook → hook.hasNaN = false →
    hook ∈ entry.before.hooksOf name →
    entry.after = entry.before
  alike : ∀ name hook, entry.deed = .hooked name hook →
    (∃ other ∈ entry.before.hooksOf name, other.same hook = true) → entry.after = entry.before
  /-- A new pair comes last. -/
  added : ∀ name hook, entry.deed = .hooked name hook →
    (∀ other ∈ entry.before.hooksOf name, other.same hook = false) →
    entry.after.hooksOf name = entry.before.hooksOf name ++ [hook]
  /-- A pair that was taken out is gone. -/
  removed : ∀ name hook, entry.deed.Removes name hook → hook.hasNaN = false →
    hook ∉ entry.after.hooksOf name
  /-- The other pairs keep their order. -/
  order : ∀ name hook, entry.deed.Removes name hook →
    entry.after.hooksOf name = (entry.before.hooksOf name).filter fun other => !other.same hook
  doubled : ∀ name hook, entry.deed = .hooked name hook → hook.hasNaN = true →
    entry.after.hooksOf name = entry.before.hooksOf name ++ [hook]
  stuck : ∀ name hook, entry.deed.Removes name hook → hook.hasNaN = true →
    entry.after.hooksOf name = entry.before.hooksOf name

theorem Tells.lawful {b : Bus} {earlier : List Deed} (tells : b.Tells earlier) (deed : Deed) :
    (deed.entry b).Lawful earlier := by
  have hooks : ∀ name, (deed.apply b).hooksOf name =
      if deed.name = name then deed.change (b.hooksOf name) else b.hooksOf name :=
        fun _ => hooksOf_apply deed
  have struck : ∀ name hook, deed.Removes name hook →
      (deed.apply b).hooksOf name = Hook.strike (b.hooksOf name) hook := by
    rintro name hook (rfl | rfl) <;> exact (hooks name).trans (if_pos rfl)
  have enlisted : ∀ name hook, deed = .hooked name hook →
      (deed.apply b).hooksOf name = Hook.enlist (b.hooksOf name) hook := by
    rintro name hook rfl
    exact (hooks name).trans (if_pos rfl)
  constructor
  case before => exact tells
  case after => exact tells.next deed
  case distinct => exact (tells.next deed).distinct
  case elsewhere => exact fun name elsewhere => (hooks name).trans (if_neg elsewhere)
  case again =>
    rintro name hook rfl ordinary isThere
    refine hook_of_registered (List.any_eq_true.mpr ⟨hook, isThere, ?_⟩)
    rw [Hook.partialEquality.self, ordinary, Bool.not_false]
  case alike =>
    rintro name hook rfl registered
    exact hook_of_registered (List.any_eq_true.mpr registered)
  case added =>
    intro name hook hooked new
    have none : ¬(b.hooksOf name).any (·.same hook) = true := fun among => by
      obtain ⟨other, isThere, same⟩ := List.any_eq_true.mp among
      exact Bool.false_ne_true ((new other isThere).symm.trans same)
    rw [Deed.entry, enlisted name hook hooked, Hook.enlist, if_neg none]
  case removed =>
    intro name hook removes ordinary
    rw [Deed.entry, struck name hook removes]
    exact Hook.not_mem_strike ordinary
  case order => exact struck
  case doubled =>
    intro name hook hooked strange
    rw [Deed.entry, enlisted name hook hooked, Hook.enlist_of_hasNaN strange]
  case stuck =>
    intro name hook removes strange
    rw [Deed.entry, struck name hook removes, Hook.strike_of_hasNaN strange]

/-- From a registry that says what a history tells, further entries lead to one that says what they
tell too. -/
theorem Leads.tells {b last : Bus} {history : List Entry} (leads : Leads b history last)
    {past : List Deed} (tells : b.Tells past) :
    last.Tells (past ++ history.map (·.deed)) ∧
      ∀ earlier entry later, history = earlier ++ entry :: later →
      entry.Lawful (past ++ earlier.map (·.deed)) := by
  induction history generalizing b past with
  | nil =>
    obtain rfl := leads
    refine ⟨by simpa using tells, fun earlier entry later split => ?_⟩
    simp at split
  | cons entry history ih =>
    obtain ⟨isEntry, leads⟩ := leads
    have now := tells.lawful entry.deed
    rw [← isEntry] at now
    obtain ⟨final, laws⟩ := ih leads now.after
    rw [List.append_assoc] at final
    refine ⟨final, fun earlier other later split => ?_⟩
    cases earlier with
    | nil =>
      obtain ⟨rfl, rfl⟩ := List.cons.inj split
      simpa using now
    | cons first earlier =>
      obtain ⟨rfl, rfl⟩ := List.cons.inj split
      have law := laws earlier other later rfl
      rwa [List.append_assoc] at law

/-- The registry of a bus that was new is, after any run and at every moment of it, the set of the
pairs that stand in the history, in the order in which they came: a name is there exactly if it has
a hook, no pair stands twice, a pair that is there is not hooked again, and one that was unhooked or
wanted to unsubscribe is gone while the others keep their order. A hook of which an argument is no
number is the exception, and in all of this but the names: it stands as often as it was hooked, and
nothing takes it out. -/
theorem registry_tells_history {bus : BusId} {α : Type} {act : Act (World υ) α} {w : World υ}
    {history : List Entry} (run : Registers bus act w history) {owner : Owner}
    (new : w.store.buses[bus]? = some (ofOwner owner)) :
    ∃ b, (act w).2.store.buses[bus]? = some b ∧ b.Tells (history.map (·.deed)) ∧ b.Distinct ∧
      ∀ earlier entry later, history = earlier ++ entry :: later →
      entry.Lawful (earlier.map (·.deed)) := by
  obtain ⟨b, final, leads⟩ := run.leads new
  obtain ⟨tells, laws⟩ := leads.tells (.new owner)
  exact ⟨b, final, tells, tells.distinct, laws⟩

/-- Code of which every run is one with entries. -/
def Accounted (bus : BusId) {α : Type} (act : Act (World υ) α) : Prop :=
  ∀ w, ∃ history, Registers bus act w history

section Accounted

variable {bus : BusId} {foreign : Foreign υ}

theorem Accounted.bind {α β : Type} {first : Act (World υ) α} {andThen : α → Act (World υ) β}
    (accounted : Accounted bus first) (rest : ∀ a, Accounted bus (andThen a)) :
    Accounted bus (first >>= andThen) := by
  intro w
  obtain ⟨earlier, run⟩ := accounted w
  cases done : first w with
  | mk outcome v =>
    cases outcome with
    | error e => exact ⟨earlier, .stop run done⟩
    | ok a =>
      obtain ⟨later, further⟩ := rest a v
      exact ⟨earlier ++ later, .next run done further⟩

theorem Accounted.callAll
    (calls : ∀ callback owner args, Accounted bus (foreign.call callback owner args))
    (other : BusId) (name : String) (owner : Owner) (args : List Arg) (hooks : List Hook) :
    Accounted bus (callAll foreign other name owner args hooks) := by
  induction hooks with
  | nil => exact fun w => ⟨[], .aside rfl⟩
  | cons hook hooks ih =>
    intro w
    obtain ⟨earlier, call⟩ := calls hook.callback owner (args ++ hook.extra) w
    cases answers : foreign.call hook.callback owner (args ++ hook.extra) w with
    | mk outcome v =>
      cases outcome with
      | error e => exact ⟨earlier, .fails call answers⟩
      | ok flow =>
        obtain ⟨later, rest⟩ := ih (v.heeding other name hook flow)
        by_cases quits : flow = .unsubscribe ∧ other = bus
        · obtain ⟨rfl, rfl⟩ := quits
          cases there : v.store.buses[other]? with
          | some b => exact ⟨_, .unsubscribes call answers there rest⟩
          | none => exact ⟨_, .called call answers (fun _ _ => there) rest⟩
        · exact ⟨_, .called call answers
            (fun unsubscribed same => absurd ⟨unsubscribed, same⟩ quits) rest⟩

/-- Every emission is accounted for if its callbacks are. -/
theorem Accounted.emit
    (calls : ∀ callback owner args, Accounted bus (foreign.call callback owner args))
    (other : BusId) (name : String) (args : List Arg) :
    Accounted bus (emit foreign other name args) := by
  intro w
  cases there : w.store.buses[other]? with
  | none => exact ⟨[], .aside (by rw [emit_of_absent there])⟩
  | some b =>
    cases alive : w.store.ownerAlive b.owner with
    | false => exact ⟨[], .aside (by rw [emit_of_dead there alive])⟩
    | true =>
      obtain ⟨history, run⟩ :=
        Accounted.callAll calls other name b.owner args (b.hooksOf name) (w.retaining b.owner)
      exact ⟨history, .emit there alive run⟩

end Accounted

def vacant : World Unit where
  store := { Store.empty with buses := [ofOwner (.actor 0)], actors := [1] }
  user := ()

/-- Hooks two callbacks, one of them once more, and emits an event at which that one
unsubscribes. -/
def rehooked : Act (World Unit) Unit := do
  World.change (·.adjustBus 0 (·.hook "saved" (numbered 0)))
  World.change (·.adjustBus 0 (·.hook "saved" (numbered 1)))
  World.change (·.adjustBus 0 (·.hook "saved" (numbered 0)))
  emit (.ofCall fun callback _ _ => pure (if callback = 0 then .unsubscribe else .keep))
    0 "saved" []

/-- The repeated hook stands once, and it is gone when it has unsubscribed. -/
theorem rehooked_registry_tells_history :
    ∃ history b, Registers 0 rehooked vacant history ∧
      history.map (·.deed) =
        [.hooked "saved" (numbered 0), .hooked "saved" (numbered 1), .hooked "saved" (numbered 0),
          .unsubscribed "saved" (numbered 0)] ∧
      history.map (fun entry => (entry.after.hooksOf "saved").map (·.callback)) =
        [[0], [0, 1], [0, 1], [1]] ∧
      (rehooked vacant).2.store.buses[0]? = some b ∧ b.Tells (history.map (·.deed)) ∧ b.Distinct ∧
      ∀ earlier entry later, history = earlier ++ entry :: later →
      entry.Lawful (earlier.map (·.deed)) := by
  have run : Registers 0 rehooked vacant _ :=
    .next (.hook rfl _ _) rfl (.next (.hook rfl _ _) rfl (.next (.hook rfl _ _) rfl
      (.emit rfl rfl (.unsubscribes (.aside rfl) rfl rfl
        (.called (.aside rfl) rfl (fun quits => nomatch quits) (.aside rfl))))))
  obtain ⟨b, final, tells, distinct, laws⟩ := registry_tells_history run rfl
  exact ⟨_, b, run, rfl, rfl, final, tells, distinct, laws⟩

/-- A hook that brings a number that is none. -/
def strange : Hook := ⟨0, [.slot (.value (.float (0 / 0)))]⟩

/-- Hooks one pair twice and takes it out. -/
def hookedTwice (hook : Hook) : Act (World Unit) Unit := do
  World.change (·.adjustBus 0 (·.hook "saved" hook))
  World.change (·.adjustBus 0 (·.hook "saved" hook))
  World.change (·.adjustBus 0 (·.unhook "saved" hook))

/-- A pair of which an argument is no number stands twice when it was hooked twice, and still does
when it was taken out. -/
theorem strange_pair_stands_twice :
    ∃ history b, Registers 0 (hookedTwice strange) vacant history ∧
      history.map (·.deed) = [.hooked "saved" strange, .hooked "saved" strange,
        .unhooked "saved" strange] ∧
      (hookedTwice strange vacant).2.store.buses[0]? = some b ∧
      b.hooksOf "saved" = [strange, strange] := by
  have run : Registers 0 (hookedTwice strange) vacant _ :=
    .next (.hook rfl _ _) rfl (.next (.hook rfl _ _) rfl (.unhook rfl _ _))
  refine ⟨_, _, run, rfl, rfl, ?_⟩
  have isStrange : strange.hasNaN = true := by decide
  rw [hooksOf_unhook, if_pos rfl, Hook.strike_of_hasNaN isStrange, hooksOf_hook, if_pos rfl,
    Hook.enlist_of_hasNaN isStrange, hooksOf_hook, if_pos rfl, Hook.enlist_of_hasNaN isStrange]
  rfl

end Bus

end RowMapper
