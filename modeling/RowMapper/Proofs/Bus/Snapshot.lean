import RowMapper.Bus.Emission
/-!
Emission works on a snapshot. The hooks that an emission calls are those that stood under the name
when it started, whatever its callbacks hook, unhook and emit. Foreign code is arbitrary here: a
call may do anything to the world.
-/

set_option autoImplicit false

namespace RowMapper

variable {υ : Type}

/-- Foreign code of callbacks alone. -/
def Foreign.ofCall (call : CallbackId → Owner → List Arg → Act (World υ) Flow) : Foreign υ where
  call := call
  validate _ _ _ v := pure v
  initial _ w := (.null, w)
  declared _ w := (⟨"", ⟨""⟩, [], none, []⟩, w)

structure Delivery where
  callback : CallbackId
  owner : Owner
  args : List Arg

/-- The call that an emission makes of a hook. -/
def Hook.delivery (hook : Hook) (owner : Owner) (args : List Arg) : Delivery :=
  ⟨hook.callback, owner, args ++ hook.extra⟩

/-- What a program keeps, beside the calls that it was given, the latest last. -/
structure Heard (υ : Type) where
  user : υ
  calls : List Delivery

def World.hearing (w : World υ) (calls : List Delivery) : World (Heard υ) :=
  ⟨w.store, ⟨w.user, calls⟩⟩

/-- The world without the calls. -/
def World.unheard (w : World (Heard υ)) : World υ := ⟨w.store, w.user.user⟩

/-- The same foreign code, with every call of a callback noted before it is made. What a callback
itself emits goes to the code that it brings, so it is not noted. -/
def Foreign.noting (foreign : Foreign υ) : Foreign (Heard υ) where
  call callback owner args w :=
    let done := foreign.call callback owner args w.unheard
    (done.1, done.2.hearing (w.user.calls ++ [⟨callback, owner, args⟩]))
  validate rule context subject v w :=
    let done := foreign.validate rule context subject v w.unheard
    (done.1, done.2.hearing w.user.calls)
  initial source w :=
    let given := foreign.initial source w.unheard
    (given.1, given.2.hearing w.user.calls)
  declared classId w :=
    let declared := foreign.declared classId w.unheard
    (declared.1, declared.2.hearing w.user.calls)

namespace Store

/-- The references of an owner that is retained and released are those it had. -/
theorem releaseOwner_retainOwner (s : Store) (owner : Owner) :
    (s.retainOwner owner).releaseOwner owner = s := by
  cases owner with
  | actor actor =>
    have same : (s.actors.modify actor (· + 1)).modify actor (· - 1) = s.actors := by
      rw [List.modify_modify_eq]
      exact List.modify_id actor s.actors
    simp only [retainOwner, releaseOwner, retainActor, releaseActor, same]
  | info info =>
    have same : (s.infos.modify info fun r => { r with references := r.references + 1 }).modify info
        (fun r => { r with references := r.references - 1 }) = s.infos := by
      rw [List.modify_modify_eq]
      exact List.modify_id info s.infos
    simp only [retainOwner, releaseOwner, retainInfo, releaseInfo, adjustInfo, same]

@[simp] theorem buses_retainOwner (s : Store) (owner : Owner) :
    (s.retainOwner owner).buses = s.buses := by
  cases owner <;> rfl

@[simp] theorem buses_releaseOwner (s : Store) (owner : Owner) :
    (s.releaseOwner owner).buses = s.buses := by
  cases owner <;> rfl

end Store

namespace World

/-- The world with the owner kept alive. -/
def retaining (w : World υ) (owner : Owner) : World υ :=
  { w with store := w.store.retainOwner owner }

/-- The world with the owner no longer kept alive. -/
def releasing (w : World υ) (owner : Owner) : World υ :=
  { w with store := w.store.releaseOwner owner }

/-- The world after a call: a hook that wants to unsubscribe is taken out of the bus. -/
def heeding (w : World υ) (bus : BusId) (name : String) (hook : Hook) : Flow → World υ
  | .keep => w
  | .unsubscribe => { w with store := w.store.adjustBus bus (·.unhook name hook) }

theorem releasing_retaining (w : World υ) (owner : Owner) :
    (w.retaining owner).releasing owner = w := by
  simp only [releasing, retaining, Store.releaseOwner_retainOwner]

theorem heeding_hearing (w : World υ) (calls : List Delivery) (bus : BusId) (name : String)
    (hook : Hook) (flow : Flow) :
    (w.hearing calls).heeding bus name hook flow =
      (w.heeding bus name hook flow).hearing calls := by
  cases flow <;> rfl

end World

theorem Foreign.call_noting {foreign : Foreign υ} {hook : Hook} {owner : Owner} {args : List Arg}
    {w after : World υ} {outcome : Except Error Flow}
    (answers : foreign.call hook.callback owner (args ++ hook.extra) w = (outcome, after))
    (calls : List Delivery) :
    foreign.noting.call hook.callback owner (args ++ hook.extra) (w.hearing calls) =
      (outcome, after.hearing (calls ++ [hook.delivery owner args])) := by
  simp only [noting, World.hearing, World.unheard, answers, Hook.delivery]

namespace Bus

/-- Hooks have been called one after the other, and none of them failed. Each call began in the
world that the one before had left, and a hook that wanted to unsubscribe was taken out before the
next call. -/
inductive Called (foreign : Foreign υ) (bus : BusId) (name : String) (owner : Owner)
    (args : List Arg) (start : World υ) : List Hook → World υ → Prop
  | start : Called foreign bus name owner args start [] start
  | next {hooks : List Hook} {hook : Hook} {between after : World υ} {flow : Flow}
      (earlier : Called foreign bus name owner args start hooks between)
      (answers : foreign.call hook.callback owner (args ++ hook.extra) between =
        (.ok flow, after)) :
      Called foreign bus name owner args start (hooks ++ [hook]) (after.heeding bus name hook flow)

/-- How the calls of an emission end: after the last hook of the snapshot, or with the first one
that fails, in the world that it leaves and with its error. The lists are the hooks that were called
and those that were not. -/
inductive Ends (foreign : Foreign υ) (bus : BusId) (name : String) (owner : Owner) (args : List Arg)
    (start : World υ) : List Hook → List Hook → Except Error Unit → World υ → Prop
  | all {hooks : List Hook} {last : World υ}
      (called : Called foreign bus name owner args start hooks last) :
      Ends foreign bus name owner args start hooks [] (.ok ()) last
  | failed {earlier rest : List Hook} {failing : Hook} {between last : World υ} {e : Error}
      (called : Called foreign bus name owner args start earlier between)
      (fails : foreign.call failing.callback owner (args ++ failing.extra) between =
        (.error e, last)) :
      Ends foreign bus name owner args start (earlier ++ [failing]) rest (.error e) last

variable {foreign : Foreign υ} {bus : BusId} {name : String} {owner : Owner} {args : List Arg}

theorem callAll_of_ok {hook : Hook} {rest : List Hook} {w after : World υ} {flow : Flow}
    (answers : foreign.call hook.callback owner (args ++ hook.extra) w = (.ok flow, after)) :
    callAll foreign bus name owner args (hook :: rest) w =
      callAll foreign bus name owner args rest (after.heeding bus name hook flow) := by
  rw [callAll, Act.bind_of_ok _ _ _ _ _ answers]
  cases flow <;> rfl

theorem callAll_of_error {hook : Hook} {rest : List Hook} {w after : World υ} {e : Error}
    (fails : foreign.call hook.callback owner (args ++ hook.extra) w = (.error e, after)) :
    callAll foreign bus name owner args (hook :: rest) w = (.error e, after) := by
  rw [callAll, Act.bind_of_error _ _ _ _ _ fails]

/-- The calls go through the hooks from the front. With noting, exactly these calls are heard. -/
theorem callAll_ends {start w : World υ} {before : List Hook} (hooks : List Hook)
    (earlier : Called foreign bus name owner args start before w) (calls : List Delivery) :
    ∃ called rest outcome last, hooks = called ++ rest ∧
      Ends foreign bus name owner args start (before ++ called) rest outcome last ∧
      callAll foreign bus name owner args hooks w = (outcome, last) ∧
      callAll foreign.noting bus name owner args hooks (w.hearing calls) =
        (outcome, last.hearing (calls ++ called.map (·.delivery owner args))) := by
  induction hooks generalizing before w calls with
  | nil => exact ⟨[], [], .ok (), w, rfl, by simpa using .all earlier, rfl, by simp [callAll]⟩
  | cons hook rest ih =>
    cases answers : foreign.call hook.callback owner (args ++ hook.extra) w with
    | mk outcome after =>
      have heard := Foreign.call_noting answers calls
      cases outcome with
      | error e =>
        exact ⟨[hook], rest, .error e, after, rfl, .failed earlier answers,
          callAll_of_error answers, callAll_of_error heard⟩
      | ok flow =>
        -- the rest of the snapshot is called from the world that the call and the unsubscription
        -- left
        obtain ⟨called, behind, outcome, last, rfl, ends, ran, noted⟩ :=
          ih (earlier.next answers) (calls ++ [hook.delivery owner args])
        simp only [List.append_assoc, List.singleton_append] at ends noted
        refine ⟨hook :: called, behind, outcome, last, rfl, ends,
          (callAll_of_ok answers).trans ran, ?_⟩
        rw [callAll_of_ok heard, World.heeding_hearing, noted, List.map_cons]

theorem emit_of_absent {w : World υ} (absent : w.store.buses[bus]? = none) :
    emit foreign bus name args w = (.ok (), w) := by
  unfold emit
  rw [Act.bind_of_ok _ _ w w none (by simp only [World.read, absent])]
  rfl

theorem emit_of_dead {b : Bus} {w : World υ} (there : w.store.buses[bus]? = some b)
    (dead : w.store.ownerAlive b.owner = false) : emit foreign bus name args w = (.ok (), w) := by
  unfold emit
  rw [Act.bind_of_ok _ _ w w (some b) (by simp only [World.read, there])]
  simp only
  rw [Act.bind_of_ok _ _ w w false (by simp only [World.read, dead])]
  rfl

theorem emit_of_alive {b : Bus} {w : World υ} (there : w.store.buses[bus]? = some b)
    (alive : w.store.ownerAlive b.owner = true) :
    emit foreign bus name args w =
      World.ensure (callAll foreign bus name b.owner args (b.hooksOf name)) (·.releaseOwner b.owner)
        (w.retaining b.owner) := by
  unfold emit
  rw [Act.bind_of_ok _ _ w w (some b) (by simp only [World.read, there])]
  simp only
  rw [Act.bind_of_ok _ _ w w true (by simp only [World.read, alive]), if_pos rfl, hooksOf]
  cases b.hooks.get? name with
  | none => exact congrArg _ (w.releasing_retaining b.owner).symm
  | some hooks => rfl

/-- An emission calls the hooks of its snapshot: with a live owner, those that stood under the name
when it started, in their order and each once, with the arguments followed by the hook's own, and it
goes through all of them or ends with the first one that fails. The world is then the one that the
last call left, with what that and the earlier ones hooked, unhooked and emitted and with the
unsubscriptions made on the way, but for the reference to the owner. With a dead owner nothing is
called. -/
theorem emission_calls_its_snapshot (foreign : Foreign υ) {w : World υ} {bus : BusId} {b : Bus}
    (there : w.store.buses[bus]? = some b) (name : String) (args : List Arg) :
    (w.store.ownerAlive b.owner = false →
      emit foreign bus name args w = (.ok (), w) ∧
      emit foreign.noting bus name args (w.hearing []) = (.ok (), w.hearing [])) ∧
    (w.store.ownerAlive b.owner = true →
      ∃ called rest outcome last, b.hooksOf name = called ++ rest ∧
        Ends foreign bus name b.owner args (w.retaining b.owner) called rest outcome last ∧
        (last.releasing b.owner).store.buses = last.store.buses ∧
        emit foreign bus name args w = (outcome, last.releasing b.owner) ∧
        emit foreign.noting bus name args (w.hearing []) =
          (outcome, (last.releasing b.owner).hearing (called.map (·.delivery b.owner args)))) := by
  refine ⟨fun dead => ⟨emit_of_dead there dead, emit_of_dead there dead⟩, fun alive => ?_⟩
  have started : Called foreign bus name b.owner args (w.retaining b.owner) []
      (w.retaining b.owner) := .start
  obtain ⟨called, rest, outcome, last, snapshot, ends, ran, noted⟩ :=
    callAll_ends (b.hooksOf name) started []
  refine ⟨called, rest, outcome, last, snapshot, ends, Store.buses_releaseOwner _ _, ?_, ?_⟩
  · rw [emit_of_alive there alive]
    simp only [World.ensure, Act.ensure, ran, World.releasing]
  · rw [emit_of_alive (w := w.hearing []) there alive]
    change World.ensure _ _ ((w.retaining b.owner).hearing []) = _
    simp only [World.ensure, Act.ensure, noted]
    rfl

def numbered (callback : CallbackId) : Hook := ⟨callback, [.int (Int64.ofNat callback)]⟩

/-- Callbacks on the first bus: the one numbered 0 takes out 1, adds 9, emits the event again and
unsubscribes, and 2 fails. -/
def meddling : Foreign Unit := .ofCall fun callback _ _ =>
  match callback with
  | 0 => do
    World.change (·.adjustBus 0 (·.unhook "saved" (numbered 1)))
    World.change (·.adjustBus 0 (·.hook "saved" (numbered 9)))
    emit (.ofCall fun _ _ _ => pure .keep) 0 "saved" []
    return .unsubscribe
  | 2 => Act.fail (.validation "refused")
  | _ => pure .keep

/-- A bus with an actor and the hooks 0 to 3. -/
def crowded : World Unit where
  store := { Store.empty with
    buses :=
      [⟨.actor 0, Dict.empty.insert "saved" [numbered 0, numbered 1, numbered 2, numbered 3]⟩]
    actors := [1] }
  user := ()

/-- The hook that was taken out is called all the same, the new one is not, and the removals stay in
effect behind the failure. -/
theorem meddling_emission_calls_its_snapshot :
    ∃ called rest outcome last,
      [numbered 0, numbered 1, numbered 2, numbered 3] = called ++ rest ∧
      Ends meddling 0 "saved" (.actor 0) [.flag true] (crowded.retaining (.actor 0)) called rest
        outcome last ∧
      emit meddling 0 "saved" [.flag true] crowded = (outcome, last.releasing (.actor 0)) ∧
      called.map (·.delivery (.actor 0) [.flag true]) =
        [⟨0, .actor 0, [.flag true, .int 0]⟩, ⟨1, .actor 0, [.flag true, .int 1]⟩,
          ⟨2, .actor 0, [.flag true, .int 2]⟩] ∧
      outcome = .error (.validation "refused") ∧
      (last.releasing (.actor 0)).store.buses.map (·.hooksOf "saved") =
      [[numbered 2, numbered 3, numbered 9]] := by
  have there : crowded.store.buses[0]? =
      some ⟨.actor 0, Dict.empty.insert "saved" [numbered 0, numbered 1, numbered 2, numbered 3]⟩ :=
        rfl
  have alive : crowded.store.ownerAlive (.actor 0) = true := rfl
  obtain ⟨called, rest, outcome, last, snapshot, ends, _, ran, noted⟩ :=
    (emission_calls_its_snapshot meddling there "saved" [.flag true]).2 alive
  refine ⟨called, rest, outcome, last, snapshot, ends, ran, ?_, ?_, ?_⟩
  · exact (congrArg (fun done => done.2.user.calls) noted).symm
  · exact (congrArg Prod.fst ran).symm
  · exact (congrArg (fun done => done.2.store.buses.map (·.hooksOf "saved")) ran).symm

end Bus

end RowMapper
