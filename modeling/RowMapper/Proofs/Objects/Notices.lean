import RowMapper.Proofs.Objects.Runs
/-!
What a run has done when it is over. Notices that are done have been announced, each record is
announced at most once for an end, and it has references as long as it is held or in hand, so that
its hooks are called.
-/

set_option autoImplicit false

namespace RowMapper

variable {υ α : Type} {part : Part} {taken : List InfoId} {act : Act (World υ) α} {w : World υ}
  {chronicle : List Incident}

/-! ## Notices -/

/-- The ends of the objects that records observe, as far as they had ended, have been announced. -/
def Store.Noticed (infos : List InfoId) (s s' : Store) : Prop :=
  ∀ info f, info ∈ infos → s.face? info = some f → f.object < s.objects.length →
    s.objectAlive f.object = false →
    ∃ g, s'.face? info = some g ∧ g.notified = true

/-- What a stretch of a run leaves: when notices are done, they have been announced, and they are
left undone only where everything is. -/
def Part.Leaves (part : Part) (s : Store) (outcome : Except Error α) (s' : Store) : Prop :=
  match part with
  | .notices infos =>
    (∀ e, outcome = .error e → e.isFatal = true) ∧ ((∃ a, outcome = .ok a) → s.Noticed infos s')
  | .code _ | .making _ _ | .calls | .emission => True

section

variable {s s' next : Store} {info : InfoId} {f : Face} {earlier later : List Incident}

/-- What has been announced on a record stays announced as long as it is not made to observe an
object. -/
theorem Course.notified (course : Course s chronicle s')
    (unobserved : ∀ incident ∈ chronicle, ∀ info object, incident ≠ .observed info object)
    (found : s.face? info = some f) (notified : f.notified = true) :
    ∃ g, s'.face? info = some g ∧ g.notified = true := by
  obtain ⟨g, there, -, -, count⟩ :=
    course.face (fun object among => unobserved _ among info object rfl) found
  refine ⟨g, there, ?_⟩
  rw [notified] at count
  cases already : g.notified with
  | true => rfl
  | false =>
    rw [already, Bool.toNat_true, Bool.toNat_false] at count
    omega

theorem Store.Noticed.cons {rest : List InfoId} (before : Course s earlier next)
    (behind : Course next later s')
    (silent : ∀ incident ∈ earlier, ∀ info object, incident ≠ .observed info object)
    (silent' : ∀ incident ∈ later, ∀ info object, incident ≠ .observed info object)
    (first : ∀ f, s.face? info = some f → s.objectAlive f.object = false →
      ∃ g, next.face? info = some g ∧ g.notified = true)
    (others : next.Noticed rest s') : s.Noticed (info :: rest) s' := by
  intro other f among found known dead
  rcases List.mem_cons.mp among with rfl | later
  · obtain ⟨g, there, notified⟩ := first f found dead
    exact behind.notified silent' there notified
  · obtain ⟨g, there, same, -, -⟩ :=
      before.face (fun object among => silent _ among other object rfl) found
    refine others other g later there ?_ ?_
    · rw [same]
      exact Nat.lt_of_lt_of_le known before.objects
    · rw [same]
      exact before.dead known dead

end

theorem Runs.leaves (run : Runs part taken act w chronicle) :
    part.Leaves w.store (act w).1 (act w).2.store := by
  -- only notices leave something, so this is an induction on the records that are still to be
  -- notified
  induction run with
  | step | next | stop | attempt | ensure | unknown | unfinished | made | created | recalled
  | refused | forestalled | introduced | attached | observed | ended | emitted | unheard | heard
  | uncalled | called | failed =>
    exact True.intro
  | unnoticed =>
    refine ⟨fun e failed => ?_, fun _ info f among => absurd among List.not_mem_nil⟩
    rw [Obj.notifyAll] at failed
    cases failed
  | @passed _ _ w info rest _ nothing further ih =>
    rw [Obj.notifyAll_of_passed nothing]
    obtain ⟨fatal, noticed⟩ := ih
    refine ⟨fatal, fun done => ?_⟩
    have quiet : w.store.Quiet (w.dropping info).store := Store.quiet_releaseInfo
    have before : Course w.store [] (w.dropping info).store := quiet
    refine .cons before further.course (List.forall_mem_nil _) (further.unobserved rfl) ?_
      (noticed done)
    intro f found dead
    rcases nothing f found with alive | notified
    · rw [dead] at alive
      cases alive
    · exact ⟨f, quiet.face info f found, notified⟩
  | @announced _ _ w after info rest g outcome earlier later there dead unnotified run ran bearable
      further _ ih =>
    rw [Obj.notifyAll_of_borne ((Obj.notify_of_announced there dead unnotified).trans ran) bearable]
    obtain ⟨fatal, noticed⟩ := ih
    refine ⟨fatal, fun done => ?_⟩
    have emission : Course (w.flagging info).store earlier after.store := by
      have course := run.course
      rwa [ran] at course
    have before : Course w.store (.announced info (w.store.flagging info) outcome :: earlier)
        (after.dropping info).store :=
      ⟨_, _, .refl _, .announced there dead unnotified,
        emission.quiet_after Store.quiet_releaseInfo⟩
    have silent := run.unobserved rfl
    refine .cons before further.course (List.forall_mem_cons.mpr ⟨by simp, silent⟩)
      (further.unobserved rfl) ?_
      (noticed done)
    intro f found _
    have flagged : (w.flagging info).store.face? info = some { f with notified := true } := by
      rw [World.flagging, Store.face?_flagging, if_pos rfl, found, Option.map_some]
    exact (emission.quiet_after Store.quiet_releaseInfo).notified silent flagged rfl
  | aborted there dead unnotified run ran fatal _ =>
    rw [Obj.notifyAll_of_fatal ((Obj.notify_of_announced there dead unnotified).trans ran) fatal]
    constructor
    · intro e failed
      obtain rfl := Except.error.inj failed
      exact fatal
    · rintro ⟨a, done⟩
      cases done

/-- The end of an object fails only where everything does, and otherwise exactly one announcement
was made on each record that the object held and that observed it. -/
def Incident.Complete : Incident → Prop
  | .ended object before outcome heard =>
    (∀ e, outcome = .error e → e.isFatal = true) ∧
    (outcome = .ok () → ∀ info f, info ∈ before.held object → before.face? info = some f →
      f.object = object → f.notified = false → heard.count info = 1)
  | .attached .. | .observed .. | .announced .. => True

theorem Runs.complete (run : Runs part taken act w chronicle) :
    ∀ incident ∈ chronicle, incident.Complete := by
  induction run with
  | step | recalled | unheard | uncalled | unnoticed => exact List.forall_mem_nil _
  | stop _ _ ih | attempt _ ih | ensure _ _ ih | unknown _ _ _ ih | created _ ih
  | refused _ _ _ _ ih
  | forestalled _ _ _ _ _ _ ih | emitted _ _ ih | heard _ _ _ ih | failed _ _ ih | passed _ _ ih =>
    exact ih
  | next _ _ _ first second | unfinished _ _ _ _ _ first second | made _ _ _ _ _ first second
  | called _ _ _ first second => exact List.forall_mem_append.mpr ⟨first, second⟩
  | introduced _ _ _ _ _ _ _ ih =>
    exact List.forall_mem_append.mpr ⟨ih, List.forall_mem_singleton.mpr trivial⟩
  | attached | observed => exact List.forall_mem_singleton.mpr trivial
  | announced _ _ _ _ _ _ _ first second =>
    exact List.forall_mem_cons.mpr ⟨trivial, List.forall_mem_append.mpr ⟨first, second⟩⟩
  | aborted _ _ _ _ _ _ ih => exact List.forall_mem_cons.mpr ⟨trivial, ih⟩
  | @ended _ _ _ w object o inner there last run ih =>
    refine List.forall_mem_cons.mpr ⟨?_, ih⟩
    rw [Obj.release_of_last there last]
    obtain ⟨fatal, noticed⟩ := run.leaves
    refine ⟨fatal, fun done info f held found observes unnotified => ?_⟩
    rw [Store.held_eq there] at held
    have known : f.object < (w.ending object).store.objects.length := by
      rw [World.ending, Store.ending, Store.length_adjustObject, observes]
      exact (List.getElem?_eq_some_iff.mp there).1
    have dead : (w.ending object).store.objectAlive f.object = false := by
      rw [World.ending, Store.objectAlive_ending, observes, if_pos rfl]
    obtain ⟨g, behind, notified⟩ := noticed ⟨(), done⟩ info f held found known dead
    obtain ⟨g', behind', -, -, count⟩ := run.course.face
      (fun object among => run.unobserved rfl _ among info object rfl) found
    obtain rfl : g = g' := Option.some.inj (behind.symm.trans behind')
    rwa [unnotified, notified] at count

/-! ## References -/

theorem Store.Step.counted {s s' : Store} (does : s.Step taken s') (counted : s.Counted taken) :
    s'.Counted taken := by
  cases does with
  | other objects infos =>
    exact counted.of_same objects fun info => by rw [references, references, infos]
  | addObject classId =>
    intro info
    have holds : (s.addObject classId).2.holds info = s.holds info := by
      simp [Store.holds, Store.addObject, Obj.held]
    rw [holds]
    exact counted info
  | @retainObject object alive =>
    cases there : s.objects[object]? with
    | none => rw [objectAlive, there] at alive; cases alive
    | some o => exact counted.exchange there fun _ => rfl
  | releaseObject there => exact counted.exchange there fun _ => rfl
  | @retainInfo info alive => exact .fewer [info] (counted.retain alive)
  | @releaseInfo info spare =>
    refine Counted.release fun other => ?_
    have before := counted other
    by_cases here : info = other
    · subst here
      rw [List.count_cons_self]
      omega
    · rwa [List.count_cons_of_ne here]

theorem Store.Step.buries {s s' : Store} (does : s.Step taken s') : s.Buries s' := by
  cases does with
  | other _ infos => exact .of_infos infos
  | addObject | retainObject | releaseObject => exact .of_infos rfl
  | retainInfo alive => exact .retainInfo alive
  | releaseInfo => exact .releaseInfo

/-- An announcement is made on a record that is there, so that its hooks are called. -/
def Incident.Heard : Incident → Prop
  | .announced info moment _ => moment.infoAlive info = true
  | .attached .. | .observed .. | .ended .. => True

/-- After a stretch the references are counted, with those that are in hand then. No record that was
gone is there again, and announcements were made on records that were there. -/
structure Store.Settles (s : Store) (inHand : List InfoId) (chronicle : List Incident)
    (s' : Store) : Prop where
  counted : s'.Counted inHand
  buries : s.Buries s'
  heard : ∀ incident ∈ chronicle, incident.Heard

namespace Store.Settles

variable {s s' middle : Store} {inHand inHand' : List InfoId} {earlier later : List Incident}
    {incident : Incident} {info : InfoId} {object : ObjectId}

theorem silent (counted : s'.Counted inHand) (buries : s.Buries s') : s.Settles inHand [] s' :=
  ⟨counted, buries, List.forall_mem_nil _⟩

theorem alone (heard : incident.Heard) (counted : s'.Counted inHand) (buries : s.Buries s') :
    s.Settles inHand [incident] s' :=
  ⟨counted, buries, List.forall_mem_singleton.mpr heard⟩

theorem before (buries : s.Buries middle) (settles : middle.Settles inHand chronicle s') :
    s.Settles inHand chronicle s' :=
  ⟨settles.counted, buries.trans settles.buries, settles.heard⟩

theorem behind (settles : s.Settles inHand chronicle middle) (counted : s'.Counted inHand')
    (buries : middle.Buries s') : s.Settles inHand' chronicle s' :=
  ⟨counted, settles.buries.trans buries, settles.heard⟩

theorem append (first : s.Settles inHand earlier middle)
    (second : middle.Settles inHand' later s') :
    s.Settles inHand' (earlier ++ later) s' :=
  ⟨second.counted, first.buries.trans second.buries,
    List.forall_mem_append.mpr ⟨first.heard, second.heard⟩⟩

theorem cons (heard : incident.Heard) (settles : s.Settles inHand chronicle s') :
    s.Settles inHand (incident :: chronicle) s' :=
  ⟨settles.counted, settles.buries, List.forall_mem_cons.mpr ⟨heard, settles.heard⟩⟩

/-- Nobody can have taken a reference to a record while its cells were made. -/
theorem finding {classId : ClassId} {f : Info → Info} (first : s.Settles inHand earlier middle)
    (second : (middle.reserving classId object).Settles inHand' later s')
    (one : ∀ i, (f i).references = 1) :
    s.Settles (middle.infos.length :: inHand') (earlier ++ later)
      (s'.adjustInfo middle.infos.length f) where
  counted := by
    have reserved : middle.infos.length < (middle.reserving classId object).infos.length := by
      simp [Store.reserving]
    have nothing : (middle.reserving classId object).references middle.infos.length = 0 := by
      rw [Store.references_reserving, Store.references_eq_zero_of_le (Nat.le_refl _)]
    exact second.counted.finding (second.buries.gone _ reserved nothing)
      (Nat.lt_of_lt_of_le reserved second.buries.infos) one
  buries := .finding ((first.buries.trans (.reserving ..)).trans second.buries) first.buries.infos
  heard := List.forall_mem_append.mpr ⟨first.heard, second.heard⟩

/-- A record that an object holds is there, so that it can be taken in hand and put back. -/
theorem recalling (counted : s.Counted inHand) (held : info ∈ s.held object) :
    s.Settles inHand [] (s.retainInfo info) :=
  have alive := counted.alive_of_held held
  .silent (.fewer [info] (counted.retain alive)) (.retainInfo alive)

theorem attaching {o : Obj} (attaches : s.Attaches object info o s')
    (there : s.objects[object]? = some o) (alive : s.infoAlive info = true)
    (counted : s.Counted inHand) (heard : incident.Heard) :
    s.Settles inHand [incident] s' :=
  .alone heard (attaches.counted there alive counted) (attaches.buries alive)

/-- An announcement is made on a record in hand. -/
theorem announcing {rest : List InfoId} {outcome : Except Error Unit}
    (counted : s.Counted (info :: rest)) (settles : (s.flagging info).Settles inHand chronicle s') :
    s.Settles inHand (.announced info (s.flagging info) outcome :: chronicle) s' := by
  have flagged : (s.flagging info).Counted (info :: rest) := counted.adjustInfo fun _ => rfl
  have begins : s.Buries (s.flagging info) := .adjustInfo fun _ nothing => nothing
  exact (settles.before begins).cons flagged.alive

end Store.Settles

theorem World.settles_heeding {inHand : List InfoId} (counted : w.store.Counted inHand)
    (bus : BusId) (name : String) (hook : Hook) (flow : Flow) :
    w.store.Settles inHand [] (w.heeding bus name hook flow).store := by
  have objects : (w.heeding bus name hook flow).store.objects = w.store.objects := by
    cases flow <;> rfl
  have infos : (w.heeding bus name hook flow).store.infos = w.store.infos := by cases flow <;> rfl
  exact .silent (counted.of_same objects
    fun info => by rw [Store.references, Store.references, infos])
    (.of_infos infos)

/-- References stay counted along a run. What is in hand elsewhere is a frame: a stretch drops the
references that it was handed, and none of the others. -/
theorem Runs.settles (run : Runs part taken act w chronicle)
    (counted : w.store.Counted (part.taken ++ taken)) :
    w.store.Settles (part.given (act w).1 ++ taken) chronicle (act w).2.store := by
  induction run with
  | step does => exact .silent (does.counted counted) does.buries
  | next _ ran _ first second =>
    have settles := first counted
    rw [ran] at settles
    rw [Act.bind_of_ok _ _ _ _ _ ran]
    exact settles.append (second settles.counted)
  | stop _ fails ih =>
    have settles := ih counted
    rw [fails] at settles
    rwa [Act.bind_of_error _ _ _ _ _ fails]
  | attempt _ ih =>
    rw [Act.attempt_state]
    exact ih counted
  | ensure _ does ih =>
    have settles := ih counted
    exact settles.behind (does.counted settles.counted) does.buries
  | unknown there _ fails ih =>
    have settles := ih counted
    rw [fails] at settles
    rwa [Info.create_of_unknown there fails]
  | @unfinished _ _ _ _ _ _ object o _ _ _ _ _ there _ found _ fails first second =>
    have settles := first counted
    rw [found] at settles
    have further := second (settles.counted.reserving o.classId object)
    rw [fails] at further
    rw [Info.create_of_unfinished there found fails]
    exact settles.append (further.before (.reserving ..))
  | @made _ _ _ _ _ _ object o _ _ _ _ there _ found _ ran first second =>
    have settles := first counted
    rw [found] at settles
    have further := second (settles.counted.reserving o.classId object)
    rw [ran] at further
    rw [Info.create_of_made there found ran]
    exact settles.finding further fun _ => rfl
  | created _ ih =>
    have settles := ih counted
    exact settles.behind (.fewer _ settles.counted) (.refl _)
  | recalled there attached =>
    rw [Info.ofObject_of_attached there attached]
    exact .recalling counted (Store.mem_held_of_attached there attached)
  | refused there unattached _ fails ih =>
    have settles := ih counted
    rw [fails] at settles
    rwa [Info.ofObject_of_refused there unattached fails]
  | forestalled there unattached _ ran still attached ih =>
    have settles := ih counted
    rw [ran] at settles
    rw [Info.ofObject_of_forestalled there unattached ran still attached]
    have released := settles.behind settles.counted.release .releaseInfo
    have recalled :=
      Store.Settles.recalling released.counted (Store.mem_held_of_attached still attached)
    exact released.behind recalled.counted recalled.buries
  | introduced there unattached _ ran still _ vacant ih =>
    have settles := ih counted
    rw [ran] at settles
    rw [Info.ofObject_of_introduced there unattached ran still vacant]
    exact settles.append (.attaching (.vacant vacant) still settles.counted.alive
      (.fewer [_] settles.counted) trivial)
  | attached there _ known =>
    exact .attaching (Info.attach_attaches there) there known counted trivial
  | observed =>
    exact .alone trivial (counted.adjustInfo fun _ => rfl) (.adjustInfo fun _ nothing => nothing)
  | @ended _ _ _ w object _ _ there last _ ih =>
    rw [Obj.release_of_last there last]
    have inHand := counted.ending object
    rw [Store.held_eq there] at inHand
    have begins : w.store.Buries (w.ending object).store := .of_infos rfl
    exact ((ih inHand).before begins).cons trivial
  | emitted _ _ ih => exact ih counted
  | @unheard _ _ w bus _ _ dead =>
    cases there : w.store.buses[bus]? with
    | none =>
      rw [Bus.emit_of_absent there]
      exact .silent counted (.refl _)
    | some b =>
      rw [Bus.emit_of_dead there (dead b there)]
      exact .silent counted (.refl _)
  | heard there alive _ ih =>
    rw [Bus.emit_of_alive there alive]
    have settles := (ih (counted.retainOwner alive)).before (.retainOwner alive)
    exact settles.behind settles.counted.releaseOwner (.releaseOwner _)
  | uncalled => exact .silent counted (.refl _)
  | @called _ _ _ _ bus name _ _ hook _ flow _ _ _ answers _ first second =>
    have settles := first counted
    rw [answers] at settles
    rw [Bus.callAll_of_ok answers]
    have heeded := World.settles_heeding settles.counted bus name hook flow
    exact settles.append ((second heeded.counted).before heeded.buries)
  | failed _ fails ih =>
    have settles := ih counted
    rw [fails] at settles
    rwa [Bus.callAll_of_error fails]
  | unnoticed => exact .silent counted (.refl _)
  | passed nothing _ ih =>
    rw [Obj.notifyAll_of_passed nothing]
    exact (ih counted.release).before .releaseInfo
  | announced there dead unnotified _ ran bearable _ first second =>
    rw [Obj.notifyAll_of_borne ((Obj.notify_of_announced there dead unnotified).trans ran) bearable]
    have settles := first (counted.adjustInfo fun _ => rfl)
    rw [ran] at settles
    exact .announcing counted
      (settles.append ((second settles.counted.release).before .releaseInfo))
  | aborted there dead unnotified _ ran fatal ih =>
    rw [Obj.notifyAll_of_fatal ((Obj.notify_of_announced there dead unnotified).trans ran) fatal]
    have settles := ih (counted.adjustInfo fun _ => rfl)
    rw [ran] at settles
    exact .announcing counted (settles.behind (.fewer (_ :: _) settles.counted) (.refl _))

end RowMapper
