import RowMapper.Proofs.Objects.Operations
/-!
Runs of programs that use mapped objects, each with the chronicle of its incidents. A program asks
for the record of an object, attaches records to objects, makes records observe objects, and takes
and drops references, in any order and in its callbacks too. Beside that it may do anything that
leaves the objects and the records alone. It drops only references that are its own: the library has
others in hand while it works. Callbacks do not make records observe objects, and nobody but the
library announces the end of an object.
-/

set_option autoImplicit false

namespace RowMapper

variable {υ : Type}

/-- What a program does with a store in one step, beside what it asks of the library. Records in
hand are not its to drop. -/
inductive Store.Step (taken : List InfoId) : Store → Store → Prop
  | other {s s' : Store} (objects : s'.objects = s.objects) (infos : s'.infos = s.infos)
      (owners : ∀ bus owner, s.busOwner? bus = some owner → s'.busOwner? bus = some owner) :
      Step taken s s'
  | addObject (s : Store) (classId : ClassId) : Step taken s (s.addObject classId).2
  | retainObject {s : Store} {object : ObjectId} (alive : s.objectAlive object = true) :
      Step taken s (s.retainObject object)
  | releaseObject {s : Store} {object : ObjectId} {o : Obj} (there : s.objects[object]? = some o)
      (further : 1 < o.references) :
      Step taken s (s.adjustObject object fun o => { o with references := o.references - 1 })
  | retainInfo {s : Store} {info : InfoId} (alive : s.infoAlive info = true) :
      Step taken s (s.retainInfo info)
  | releaseInfo {s : Store} {info : InfoId}
      (spare : s.holds info + taken.count info < s.references info) :
      Step taken s (s.releaseInfo info)

theorem Store.Step.of_same {taken : List InfoId} {s s' : Store} (objects : s'.objects = s.objects)
    (infos : s'.infos = s.infos) (buses : s'.buses = s.buses) : s.Step taken s' :=
  .other objects infos fun _ _ there => by rwa [busOwner?, buses]

/-- What a stretch of a run is. -/
inductive Part where
  /-- Code of the program, which may make records observe objects or not. -/
  | code (observing : Bool)
  /-- The making of a record, in such code. -/
  | making (observing : Bool) (info : InfoId)
  /-- The calls of an emission. -/
  | calls
  /-- An emission. -/
  | emission
  /-- The notices of records that an object held. -/
  | notices (infos : List InfoId)

def Part.observing : Part → Bool
  | .code observing => observing
  | .making observing _ => observing
  | .calls | .emission | .notices _ => false

/-- The records of which a stretch drops one reference each. -/
def Part.taken : Part → List InfoId
  | .notices infos => infos
  | .code _ | .making _ _ | .calls | .emission => []

/-- The records of which a stretch leaves one reference each to whoever asked for it. -/
def Part.given {α : Type} (part : Part) (outcome : Except Error α) : List InfoId :=
  match part, outcome with
  | .making _ made, .ok _ => [made]
  | _, _ => []

/-- A run from a world, with its chronicle, while records are in hand elsewhere. -/
inductive Runs : {α : Type} → Part → List InfoId → Act (World υ) α → World υ → List Incident → Prop
  | step {α : Type} {observing : Bool} {taken : List InfoId} {act : Act (World υ) α} {w : World υ}
      (does : w.store.Step taken (act w).2.store) : Runs (.code observing) taken act w []
  | next {α β : Type} {observing : Bool} {taken : List InfoId} {first : Act (World υ) α}
      {next : α → Act (World υ) β} {w after : World υ} {a : α} {earlier later : List Incident}
      (run : Runs (.code observing) taken first w earlier) (ran : first w = (.ok a, after))
      (further : Runs (.code observing) taken (next a) after later) :
      Runs (.code observing) taken (first >>= next) w (earlier ++ later)
  | stop {α β : Type} {observing : Bool} {taken : List InfoId} {first : Act (World υ) α}
      {next : α → Act (World υ) β} {w after : World υ} {e : Error} {chronicle : List Incident}
      (run : Runs (.code observing) taken first w chronicle) (fails : first w = (.error e, after)) :
      Runs (.code observing) taken (first >>= next) w chronicle
  | attempt {α : Type} {observing : Bool} {taken : List InfoId} {act : Act (World υ) α}
      {w : World υ} {chronicle : List Incident}
      (run : Runs (.code observing) taken act w chronicle) :
      Runs (.code observing) taken act.attempt w chronicle
  | ensure {α : Type} {observing : Bool} {taken : List InfoId} {act : Act (World υ) α} {w : World υ}
      {chronicle : List Incident} {last : Store → Store}
      (run : Runs (.code observing) taken act w chronicle)
      (does : (act w).2.store.Step taken (last (act w).2.store)) :
      Runs (.code observing) taken (World.ensure act last) w chronicle
  /-- The class of the object is not known and cannot be found out. -/
  | unknown {foreign : Foreign υ} {observing : Bool} {taken : List InfoId} {w after : World υ}
      {object : ObjectId} {o : Obj} {made : InfoId} {e : Error} {chronicle : List Incident}
      (there : w.store.objects[object]? = some o)
      (run : Runs (.code observing) taken (Info.classInfo foreign o.classId) w chronicle)
      (fails : Info.classInfo foreign o.classId w = (.error e, after)) :
      Runs (.making observing made) taken (Info.create foreign object) w chronicle
  /-- A cell of the record cannot be made. -/
  | unfinished {foreign : Foreign υ} {observing : Bool} {taken : List InfoId}
      {w middle after : World υ} {object : ObjectId} {o : Obj} {made : InfoId} {known : ClassInfo}
      {e : Error} {earlier later : List Incident} (there : w.store.objects[object]? = some o)
      (run : Runs (.code observing) taken (Info.classInfo foreign o.classId) w earlier)
      (found : Info.classInfo foreign o.classId w = (.ok known, middle))
      (further : Runs (.code observing) taken
        (Info.makeCells foreign middle.store.buses.length middle.store.infos.length known.columns)
        (middle.reserving o.classId object) later)
      (fails : Info.makeCells foreign middle.store.buses.length middle.store.infos.length
        known.columns (middle.reserving o.classId object) = (.error e, after)) :
      Runs (.making observing made) taken (Info.create foreign object) w (earlier ++ later)
  /-- A record is made. -/
  | made {foreign : Foreign υ} {observing : Bool} {taken : List InfoId} {w middle after : World υ}
      {object : ObjectId} {o : Obj} {known : ClassInfo} {cells : List (Column × CellId)}
      {earlier later : List Incident} (there : w.store.objects[object]? = some o)
      (run : Runs (.code observing) taken (Info.classInfo foreign o.classId) w earlier)
      (found : Info.classInfo foreign o.classId w = (.ok known, middle))
      (further : Runs (.code observing) taken
        (Info.makeCells foreign middle.store.buses.length middle.store.infos.length known.columns)
        (middle.reserving o.classId object) later)
      (ran : Info.makeCells foreign middle.store.buses.length middle.store.infos.length
        known.columns (middle.reserving o.classId object) = (.ok cells, after)) :
      Runs (.making observing middle.store.infos.length) taken (Info.create foreign object) w
      (earlier ++ later)
  /-- The program has a record made that is not attached. -/
  | created {foreign : Foreign υ} {observing : Bool} {taken : List InfoId} {w : World υ}
      {object : ObjectId} {made : InfoId} {chronicle : List Incident}
      (run : Runs (.making observing made) taken (Info.create foreign object) w chronicle) :
      Runs (.code observing) taken (Info.create foreign object) w chronicle
  /-- The record of the object is asked for, and there is one. -/
  | recalled {foreign : Foreign υ} {observing : Bool} {taken : List InfoId} {w : World υ}
      {object : ObjectId} {o : Obj} {info : InfoId} (there : w.store.objects[object]? = some o)
      (attached : o.attached = some info) :
      Runs (.code observing) taken (Info.ofObject foreign object) w []
  /-- It is asked for, and none can be made. -/
  | refused {foreign : Foreign υ} {observing : Bool} {taken : List InfoId} {w after : World υ}
      {object : ObjectId} {o : Obj} {made : InfoId} {e : Error} {chronicle : List Incident}
      (there : w.store.objects[object]? = some o) (unattached : o.attached = none)
      (run : Runs (.making observing made) taken (Info.create foreign object) w chronicle)
      (fails : Info.create foreign object w = (.error e, after)) :
      Runs (.code observing) taken (Info.ofObject foreign object) w chronicle
  /-- It is asked for, and while one is made another one is attached. -/
  | forestalled {foreign : Foreign υ} {observing : Bool} {taken : List InfoId} {w after : World υ}
      {object : ObjectId} {o later : Obj} {made info : InfoId} {chronicle : List Incident}
      (there : w.store.objects[object]? = some o) (unattached : o.attached = none)
      (run : Runs (.making observing made) taken (Info.create foreign object) w chronicle)
      (ran : Info.create foreign object w = (.ok (some made), after))
      (still : after.store.objects[object]? = some later) (attached : later.attached = some info) :
      Runs (.code observing) taken (Info.ofObject foreign object) w chronicle
  /-- It is asked for, and the one that is made is attached. -/
  | introduced {foreign : Foreign υ} {observing : Bool} {taken : List InfoId} {w after : World υ}
      {object : ObjectId} {o later : Obj} {made : InfoId} {chronicle : List Incident}
      (there : w.store.objects[object]? = some o) (unattached : o.attached = none)
      (run : Runs (.making observing made) taken (Info.create foreign object) w chronicle)
      (ran : Info.create foreign object w = (.ok (some made), after))
      (still : after.store.objects[object]? = some later) (alive : later.references ≠ 0)
      (vacant : later.attached = none) :
      Runs (.code observing) taken (Info.ofObject foreign object) w
        (chronicle ++ [.attached object made (Info.ofObject foreign object w).2.store])
  /-- The program attaches a record. -/
  | attached {observing : Bool} {taken : List InfoId} {w : World υ} {object : ObjectId} {o : Obj}
      {info : InfoId} (there : w.store.objects[object]? = some o) (alive : o.references ≠ 0)
      (known : w.store.infoAlive info = true) :
      Runs (.code observing) taken (Info.attach object info) w
        [.attached object info (Info.attach object info w).2.store]
  /-- The program makes a record observe an object. -/
  | observed {taken : List InfoId} {w : World υ} {object : ObjectId} {info : InfoId}
      (there : object < w.store.objects.length) :
      Runs (.code true) taken (Info.observe info object) w [.observed info object]
  /-- The program drops the last reference to an object. -/
  | ended {foreign : Foreign υ} {observing : Bool} {taken : List InfoId} {w : World υ}
      {object : ObjectId} {o : Obj} {chronicle : List Incident}
      (there : w.store.objects[object]? = some o) (last : o.references = 1)
      (run : Runs (.notices o.held) taken (Obj.notifyAll foreign o.held)
        (w.ending object) chronicle) :
      Runs (.code observing) taken (Obj.release foreign object) w
        (.ended object w.store (Obj.release foreign object w).1
          (announcements chronicle) :: chronicle)
  /-- Something else is emitted, or on a bus that no record owns. -/
  | emitted {foreign : Foreign υ} {observing : Bool} {taken : List InfoId} {w : World υ}
      {bus : BusId} {name : String} {args : List Arg} {chronicle : List Incident}
      (apart : name ≠ Obj.deletedEvent ∨ ∀ info, w.store.busOwner? bus ≠ some (.info info))
      (run : Runs .emission taken (Bus.emit foreign bus name args) w chronicle) :
      Runs (.code observing) taken (Bus.emit foreign bus name args) w chronicle
  | unheard {foreign : Foreign υ} {taken : List InfoId} {w : World υ} {bus : BusId} {name : String}
      {args : List Arg} (dead : ∀ b, w.store.buses[bus]? = some b →
        w.store.ownerAlive b.owner = false) :
      Runs .emission taken (Bus.emit foreign bus name args) w []
  | heard {foreign : Foreign υ} {taken : List InfoId} {w : World υ} {bus : BusId} {b : Bus}
      {name : String} {args : List Arg} {chronicle : List Incident}
      (there : w.store.buses[bus]? = some b) (alive : w.store.ownerAlive b.owner = true)
      (run : Runs .calls (b.owner.records ++ taken)
        (Bus.callAll foreign bus name b.owner args (b.hooksOf name))
        (w.retaining b.owner) chronicle) :
      Runs .emission taken (Bus.emit foreign bus name args) w chronicle
  | uncalled {foreign : Foreign υ} {taken : List InfoId} {w : World υ} {bus : BusId} {name : String}
      {owner : Owner} {args : List Arg} :
      Runs .calls taken (Bus.callAll foreign bus name owner args []) w []
  | called {foreign : Foreign υ} {taken : List InfoId} {w after : World υ} {bus : BusId}
      {name : String} {owner : Owner} {args : List Arg} {hook : Hook} {rest : List Hook}
      {flow : Flow} {earlier later : List Incident}
      (run : Runs (.code false) taken (foreign.call hook.callback owner (args ++ hook.extra)) w
        earlier) (answers : foreign.call hook.callback owner (args ++ hook.extra) w =
        (.ok flow, after))
      (further : Runs .calls taken (Bus.callAll foreign bus name owner args rest)
        (after.heeding bus name hook flow) later) :
      Runs .calls taken (Bus.callAll foreign bus name owner args (hook :: rest)) w
        (earlier ++ later)
  | failed {foreign : Foreign υ} {taken : List InfoId} {w after : World υ} {bus : BusId}
      {name : String} {owner : Owner} {args : List Arg} {hook : Hook} {rest : List Hook} {e : Error}
      {chronicle : List Incident}
      (run : Runs (.code false) taken (foreign.call hook.callback owner (args ++ hook.extra)) w
        chronicle) (fails : foreign.call hook.callback owner (args ++ hook.extra) w =
        (.error e, after)) :
      Runs .calls taken (Bus.callAll foreign bus name owner args (hook :: rest)) w chronicle
  | unnoticed {foreign : Foreign υ} {taken : List InfoId} {w : World υ} :
      Runs (.notices []) taken (Obj.notifyAll foreign []) w []
  /-- The record observes an object that is still there, or the end of it has been announced. -/
  | passed {foreign : Foreign υ} {taken : List InfoId} {w : World υ} {info : InfoId}
      {rest : List InfoId} {chronicle : List Incident}
      (nothing : ∀ f, w.store.face? info = some f → w.store.objectAlive f.object = true ∨
        f.notified = true)
      (further : Runs (.notices rest) taken (Obj.notifyAll foreign rest)
        (w.dropping info) chronicle) :
      Runs (.notices (info :: rest)) taken (Obj.notifyAll foreign (info :: rest)) w chronicle
  /-- The end is announced, and a hook may fail. -/
  | announced {foreign : Foreign υ} {taken : List InfoId} {w after : World υ} {info : InfoId}
      {rest : List InfoId} {f : Face} {outcome : Except Error Unit} {earlier later : List Incident}
      (there : w.store.face? info = some f) (dead : w.store.objectAlive f.object = false)
      (unnotified : f.notified = false)
      (run : Runs .emission (info :: rest ++ taken) (Bus.emit foreign f.bus Obj.deletedEvent [])
        (w.flagging info) earlier)
      (ran : Bus.emit foreign f.bus Obj.deletedEvent [] (w.flagging info) = (outcome, after))
      (bearable : ∀ e, outcome = .error e → e.isFatal = false)
      (further : Runs (.notices rest) taken (Obj.notifyAll foreign rest)
        (after.dropping info) later) :
      Runs (.notices (info :: rest)) taken (Obj.notifyAll foreign (info :: rest)) w
        (.announced info (w.store.flagging info) outcome :: (earlier ++ later))
  /-- The end is announced, and that goes wrong so badly that the rest is given up. -/
  | aborted {foreign : Foreign υ} {taken : List InfoId} {w after : World υ} {info : InfoId}
      {rest : List InfoId} {f : Face} {e : Error} {chronicle : List Incident}
      (there : w.store.face? info = some f) (dead : w.store.objectAlive f.object = false)
      (unnotified : f.notified = false)
      (run : Runs .emission (info :: rest ++ taken) (Bus.emit foreign f.bus Obj.deletedEvent [])
        (w.flagging info) chronicle)
      (ran : Bus.emit foreign f.bus Obj.deletedEvent [] (w.flagging info) = (.error e, after))
      (fatal : e.isFatal = true) :
      Runs (.notices (info :: rest)) taken (Obj.notifyAll foreign (info :: rest)) w
        (.announced info (w.store.flagging info) (.error e) :: chronicle)

/-! ## Ends of objects are runs

Whatever is hooked and held, the cases above leave nothing out.
-/

/-- Whatever a callback is called with, the call is a run. -/
def Foreign.Answers (foreign : Foreign υ) : Prop :=
  ∀ callback owner args taken w, ∃ chronicle,
    Runs (.code false) taken (foreign.call callback owner args) w chronicle

section

variable {foreign : Foreign υ}

theorem Runs.exists_calls (answers : foreign.Answers) (taken : List InfoId) (bus : BusId)
    (name : String) (owner : Owner) (args : List Arg) (hooks : List Hook) (w : World υ) :
    ∃ chronicle, Runs .calls taken (Bus.callAll foreign bus name owner args hooks) w chronicle := by
  induction hooks generalizing w with
  | nil => exact ⟨[], .uncalled⟩
  | cons hook rest ih =>
    obtain ⟨earlier, run⟩ := answers hook.callback owner (args ++ hook.extra) taken w
    cases called : foreign.call hook.callback owner (args ++ hook.extra) w with
    | mk outcome after =>
      cases outcome with
      | error e => exact ⟨earlier, .failed run called⟩
      | ok flow =>
        obtain ⟨later, further⟩ := ih (after.heeding bus name hook flow)
        exact ⟨earlier ++ later, .called run called further⟩

theorem Runs.exists_emission (answers : foreign.Answers) (taken : List InfoId) (bus : BusId)
    (name : String) (args : List Arg) (w : World υ) :
    ∃ chronicle, Runs .emission taken (Bus.emit foreign bus name args) w chronicle := by
  cases there : w.store.buses[bus]? with
  | none => exact ⟨[], .unheard fun b found => by rw [there] at found; cases found⟩
  | some b =>
    cases alive : w.store.ownerAlive b.owner with
    | false =>
      refine ⟨[], .unheard fun other found => ?_⟩
      obtain rfl : b = other := Option.some.inj (there.symm.trans found)
      exact alive
    | true =>
      obtain ⟨chronicle, run⟩ :=
        exists_calls answers (b.owner.records ++ taken) bus name b.owner args
        (b.hooksOf name) (w.retaining b.owner)
      exact ⟨chronicle, .heard there alive run⟩

theorem Runs.exists_notices (answers : foreign.Answers) (taken infos : List InfoId) (w : World υ) :
    ∃ chronicle, Runs (.notices infos) taken (Obj.notifyAll foreign infos) w chronicle := by
  induction infos generalizing w with
  | nil => exact ⟨[], .unnoticed⟩
  | cons info rest ih =>
    by_cases nothing : ∀ f, w.store.face? info = some f → w.store.objectAlive f.object = true ∨
      f.notified = true
    · obtain ⟨chronicle, further⟩ := ih (w.dropping info)
      exact ⟨chronicle, .passed nothing further⟩
    · simp only [not_forall, not_or, Bool.not_eq_true] at nothing
      obtain ⟨f, there, dead, unnotified⟩ := nothing
      obtain ⟨earlier, run⟩ :=
        exists_emission answers (info :: rest ++ taken) f.bus Obj.deletedEvent []
        (w.flagging info)
      cases ran : Bus.emit foreign f.bus Obj.deletedEvent [] (w.flagging info) with
      | mk outcome after =>
        by_cases bearable : ∀ e, outcome = .error e → e.isFatal = false
        · obtain ⟨later, further⟩ := ih (after.dropping info)
          exact ⟨_, .announced there dead unnotified run ran bearable further⟩
        · simp only [not_forall, Bool.not_eq_false] at bearable
          obtain ⟨e, rfl, fatal⟩ := bearable
          exact ⟨_, .aborted there dead unnotified run ran fatal⟩

theorem Runs.exists_ended (answers : foreign.Answers) {w : World υ} {object : ObjectId} {o : Obj}
    (there : w.store.objects[object]? = some o) (last : o.references = 1) (observing : Bool)
    (taken : List InfoId) :
    ∃ chronicle, Runs (.code observing) taken (Obj.release foreign object) w
      (.ended object w.store (Obj.release foreign object w).1 (announcements chronicle) ::
        chronicle) := by
  obtain ⟨chronicle, run⟩ := exists_notices answers taken o.held (w.ending object)
  exact ⟨chronicle, .ended there last run⟩

end

/-! ## The course of a run -/

theorem Bus.owner_hook (b : Bus) (name : String) (hook : Hook) :
    (b.hook name hook).owner = b.owner := by
  unfold Bus.hook
  dsimp only
  split <;> rfl

theorem Bus.owner_unhook (b : Bus) (name : String) (hook : Hook) :
    (b.unhook name hook).owner = b.owner := by
  unfold unhook
  split
  · rfl
  · dsimp only
    split <;> rfl

theorem World.quiet_heeding (w : World υ) (bus : BusId) (name : String) (hook : Hook)
    (flow : Flow) :
    w.store.Quiet (w.heeding bus name hook flow).store := by
  cases flow with
  | keep => exact .refl _
  | unsubscribe => exact Store.quiet_adjustBus fun b => b.owner_unhook name hook

theorem Store.Step.quiet {taken : List InfoId} {s s' : Store} (does : s.Step taken s') :
    s.Quiet s' := by
  cases does with
  | other objects infos owners =>
    exact .of_faces objects (fun info => by rw [face?, face?, infos]) owners
  | addObject classId => exact s.quiet_addObject classId
  | @retainObject object alive =>
    refine quiet_adjustObject (fun _ => rfl) fun o there => ?_
    rw [objectAlive_eq there, decide_eq_true_iff] at alive
    simp [alive]
  | @releaseObject object o there further =>
    refine quiet_adjustObject (fun _ => rfl) fun other same => ?_
    obtain rfl : o = other := Option.some.inj (there.symm.trans same)
    simp only
    omega
  | retainInfo => exact quiet_retainInfo
  | releaseInfo => exact quiet_releaseInfo

section

variable {α : Type} {part : Part} {taken : List InfoId} {act : Act (World υ) α} {w : World υ}
  {chronicle : List Incident}

/-- A run takes the course of its chronicle. -/
theorem Runs.course (run : Runs part taken act w chronicle) :
    Course w.store chronicle (act w).2.store := by
  induction run with
  | step does => exact does.quiet
  | next run ran further first second =>
    rw [ran] at first
    rw [Act.bind_of_ok _ _ _ _ _ ran]
    exact first.append second
  | stop run fails ih =>
    rw [fails] at ih
    rwa [Act.bind_of_error _ _ _ _ _ fails]
  | attempt run ih => rwa [Act.attempt_state]
  | ensure run does ih => exact ih.quiet_after does.quiet
  | unknown there run fails ih =>
    rw [fails] at ih
    rwa [Info.create_of_unknown there fails]
  | @unfinished _ _ _ w middle after object o made known e earlier later there run found further
      fails first second =>
    rw [found] at first
    rw [fails] at second
    rw [Info.create_of_unfinished there found fails]
    have known : object < middle.store.objects.length :=
      Nat.lt_of_lt_of_le (List.getElem?_eq_some_iff.mp there).1 first.objects
    exact first.append (second.quiet_before (Store.quiet_reserving known))
  | @made _ _ _ w middle after object o known cells earlier later there run found further ran
      first second =>
    rw [found] at first
    rw [ran] at second
    rw [Info.create_of_made there found ran]
    have known : object < middle.store.objects.length :=
      Nat.lt_of_lt_of_le (List.getElem?_eq_some_iff.mp there).1 first.objects
    exact (first.append (second.quiet_before (Store.quiet_reserving known))).quiet_after
      (Store.quiet_adjustInfo fun _ => rfl)
  | created run ih => exact ih
  | recalled there attached =>
    rw [Info.ofObject_of_attached there attached]
    exact Store.quiet_retainInfo
  | refused there unattached run fails ih =>
    rw [fails] at ih
    rwa [Info.ofObject_of_refused there unattached fails]
  | forestalled there unattached run ran still attached ih =>
    rw [ran] at ih
    rw [Info.ofObject_of_forestalled there unattached ran still attached]
    exact (ih.quiet_after Store.quiet_releaseInfo).quiet_after Store.quiet_retainInfo
  | introduced there unattached run ran still alive vacant ih =>
    rw [ran] at ih
    rw [Info.ofObject_of_introduced there unattached ran still vacant]
    exact ih.append (.of_changes ((Store.Attaches.vacant vacant).changes still alive))
  | attached there alive known =>
    exact .of_changes ((Info.attach_attaches there).changes there alive)
  | observed there => exact .of_changes (.observed there)
  | @ended _ _ _ w object o _ there last run ih =>
    rw [Obj.release_of_last there last]
    have alive : w.store.objectAlive object = true := by rw [Store.objectAlive_eq there, last]; rfl
    exact ⟨_, _, .refl _, .ended alive, ih⟩
  | emitted apart run ih => exact ih
  | @unheard _ _ w bus _ _ dead =>
    cases there : w.store.buses[bus]? with
    | none =>
      rw [Bus.emit_of_absent there]
      exact .refl _
    | some b =>
      rw [Bus.emit_of_dead there (dead b there)]
      exact .refl _
  | @heard _ _ w _ b _ _ _ there alive run ih =>
    rw [Bus.emit_of_alive there alive]
    exact (ih.quiet_before (Store.quiet_retainOwner b.owner)).quiet_after
      (Store.quiet_releaseOwner b.owner)
  | uncalled => exact .refl _
  | called run answers further first second =>
    rw [answers] at first
    rw [Bus.callAll_of_ok answers]
    exact first.append (second.quiet_before (World.quiet_heeding ..))
  | failed run fails ih =>
    rw [fails] at ih
    rwa [Bus.callAll_of_error fails]
  | unnoticed => exact .refl _
  | passed nothing further ih =>
    rw [Obj.notifyAll_of_passed nothing]
    exact ih.quiet_before Store.quiet_releaseInfo
  | announced there dead unnotified run ran bearable further first second =>
    rw [ran] at first
    rw [Obj.notifyAll_of_borne ((Obj.notify_of_announced there dead unnotified).trans ran) bearable]
    exact ⟨_, _, .refl _, .announced there dead unnotified,
      first.append (second.quiet_before Store.quiet_releaseInfo)⟩
  | aborted there dead unnotified run ran fatal ih =>
    rw [ran] at ih
    rw [Obj.notifyAll_of_fatal ((Obj.notify_of_announced there dead unnotified).trans ran) fatal]
    exact ⟨_, _, .refl _, .announced there dead unnotified, ih⟩

/-- Where no record may be made to observe an object, none is. -/
theorem Runs.unobserved (run : Runs part taken act w chronicle) (may : part.observing = false) :
    ∀ incident ∈ chronicle, ∀ info object, incident ≠ .observed info object := by
  induction run with
  | step | recalled | unheard | uncalled | unnoticed => exact List.forall_mem_nil _
  | stop _ _ ih | attempt _ ih | ensure _ _ ih | unknown _ _ _ ih | created _ ih
  | refused _ _ _ _ ih
  | forestalled _ _ _ _ _ _ ih => exact ih may
  | emitted _ _ ih | heard _ _ _ ih | failed _ _ ih | passed _ _ ih => exact ih rfl
  | next _ _ _ first second | unfinished _ _ _ _ _ first second | made _ _ _ _ _ first second =>
    exact List.forall_mem_append.mpr ⟨first may, second may⟩
  | called _ _ _ first second => exact List.forall_mem_append.mpr ⟨first rfl, second rfl⟩
  | introduced _ _ _ _ _ _ _ ih => exact List.forall_mem_append.mpr ⟨ih may, by simp⟩
  | attached => simp
  | observed => cases may
  | ended _ _ _ ih | aborted _ _ _ _ _ _ ih => exact List.forall_mem_cons.mpr ⟨by simp, ih rfl⟩
  | announced _ _ _ _ _ _ _ first second =>
    exact List.forall_mem_cons.mpr ⟨by simp, List.forall_mem_append.mpr ⟨first rfl, second rfl⟩⟩

end

end RowMapper
