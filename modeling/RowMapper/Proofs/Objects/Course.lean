import RowMapper.Proofs.Objects.Holdings
/-!
The course of a store, as far as it matters for the end of objects: quiet stretches, in which
objects and records may come but those that are there stay as they are, and between them the
incidents of a chronicle, each with what it changes. That a record has been announced, that an
object has ended and that a record is still held by the object which it observes are followed along
a course.
-/

set_option autoImplicit false

namespace RowMapper

/-- What is written down of a run. -/
inductive Incident where
  /-- A record was attached to an object, with the store just behind. -/
  | attached (object : ObjectId) (info : InfoId) (after : Store)
  /-- A record was made to observe an object. -/
  | observed (info : InfoId) (object : ObjectId)
  /-- The end of the object that a record observes was announced on the record, with the store in
  which that happened and how it went. -/
  | announced (info : InfoId) (moment : Store) (outcome : Except Error Unit)
  /-- The last reference to an object was dropped, with the store just before, how that ended, and
  the records on which something was announced until it did. -/
  | ended (object : ObjectId) (before : Store) (outcome : Except Error Unit)
      (announced : List InfoId)

def announcements (chronicle : List Incident) : List InfoId :=
  chronicle.filterMap fun
    | .announced info _ _ => some info
    | _ => none

theorem announcements_append (earlier later : List Incident) :
    announcements (earlier ++ later) = announcements earlier ++ announcements later :=
  List.filterMap_append

namespace Store

variable {s s' s'' : Store} {info : InfoId} {object : ObjectId} {f : Face}

/-- What was there is as it was. What has come is new: objects hold nothing, and records are not
announced, observe an object that is there and own their bus. -/
structure Quiet (s s' : Store) : Prop where
  objects : s.objects.length ≤ s'.objects.length
  alive : ∀ object, object < s.objects.length → s'.objectAlive object = s.objectAlive object
  held : ∀ object, s'.held object = s.held object
  face : ∀ info f, s.face? info = some f → s'.face? info = some f
  new : ∀ info f, s.face? info = none → s'.face? info = some f →
    f.notified = false ∧ f.object < s'.objects.length ∧ s'.busOwner? f.bus = some (.info info)
  owner : ∀ bus owner, s.busOwner? bus = some owner → s'.busOwner? bus = some owner

namespace Quiet

theorem trans (first : s.Quiet s') (second : s'.Quiet s'') : s.Quiet s'' where
  objects := Nat.le_trans first.objects second.objects
  alive object there :=
    (second.alive object (Nat.lt_of_lt_of_le there first.objects)).trans (first.alive object there)
  held object := (second.held object).trans (first.held object)
  face info f there := second.face info f (first.face info f there)
  new info f absent there := by
    cases between : s'.face? info with
    | none => exact second.new info f between there
    | some g =>
      obtain rfl : g = f := Option.some.inj ((second.face info g between).symm.trans there)
      obtain ⟨unnotified, known, owner⟩ := first.new info g absent between
      exact ⟨unnotified, Nat.lt_of_lt_of_le known second.objects, second.owner _ _ owner⟩
  owner bus owner there := second.owner bus owner (first.owner bus owner there)

/-- Nothing but records changes, and not their faces. -/
theorem of_faces (objects : s'.objects = s.objects) (faces : ∀ info, s'.face? info = s.face? info)
    (owners : ∀ bus owner, s.busOwner? bus = some owner → s'.busOwner? bus = some owner) :
    s.Quiet s' where
  objects := Nat.le_of_eq (by rw [objects])
  alive _ _ := by rw [objectAlive, objectAlive, objects]
  held _ := by rw [Store.held, Store.held, objects]
  face info f there := (faces info).trans there
  new info f absent there := by
    rw [faces info, absent] at there
    cases there
  owner := owners

theorem refl (s : Store) : s.Quiet s := of_faces rfl (fun _ => rfl) fun _ _ there => there

end Quiet

theorem face?_adjustInfo {g : Info → Info} {h : Face → Face} (faces : ∀ i, (g i).face = h i.face)
    (other : InfoId) :
    (s.adjustInfo info g).face? other =
      if info = other then (s.face? other).map h else s.face? other := by
  unfold face? adjustInfo
  rw [List.getElem?_modify]
  by_cases here : info = other
  · cases s.infos[other]? <;> simp [here, faces]
  · cases s.infos[other]? <;> simp [here]

theorem face?_flagging (other : InfoId) :
    (s.flagging info).face? other =
      if info = other then (s.face? other).map fun f => { f with notified := true }
      else s.face? other :=
  face?_adjustInfo (fun _ => rfl) other

theorem face?_observing (other : InfoId) :
    (s.observing info object).face? other =
      if info = other then (s.face? other).map fun f => { f with object, notified := false }
      else s.face? other :=
  face?_adjustInfo (fun _ => rfl) other

theorem face?_adjustInfo_of_same {g : Info → Info} (same : ∀ i, (g i).face = i.face)
    (other : InfoId) :
    (s.adjustInfo info g).face? other = s.face? other := by
  have faces : (s.adjustInfo info g).face? other =
      if info = other then (s.face? other).map id else s.face? other := face?_adjustInfo same other
  simpa using faces

theorem quiet_adjustInfo {g : Info → Info} (same : ∀ i, (g i).face = i.face) :
    s.Quiet (s.adjustInfo info g) :=
  .of_faces rfl (face?_adjustInfo_of_same same) fun _ _ there => there

theorem quiet_retainInfo : s.Quiet (s.retainInfo info) := quiet_adjustInfo fun _ => rfl

theorem quiet_releaseInfo : s.Quiet (s.releaseInfo info) := quiet_adjustInfo fun _ => rfl

theorem quiet_retainOwner (owner : Owner) : s.Quiet (s.retainOwner owner) := by
  cases owner with
  | actor id => exact .of_faces rfl (fun _ => rfl) fun _ _ there => there
  | info id => exact quiet_retainInfo

theorem quiet_releaseOwner (owner : Owner) : s.Quiet (s.releaseOwner owner) := by
  cases owner with
  | actor id => exact .of_faces rfl (fun _ => rfl) fun _ _ there => there
  | info id => exact quiet_releaseInfo

theorem quiet_adjustBus {bus : BusId} {g : Bus → Bus} (same : ∀ b, (g b).owner = b.owner) :
    s.Quiet (s.adjustBus bus g) := by
  refine .of_faces rfl (fun _ => rfl) fun other owner there => ?_
  rw [← there, busOwner?, busOwner?, adjustBus, List.getElem?_modify]
  by_cases here : bus = other
  · cases s.buses[other]? <;> simp [here, same]
  · cases s.buses[other]? <;> simp [here]

theorem objectAlive_adjustObject {g : Obj → Obj}
    (same : ∀ o, s.objects[object]? = some o → ((g o).references = 0 ↔ o.references = 0))
    (other : ObjectId) :
    (s.adjustObject object g).objectAlive other = s.objectAlive other := by
  unfold objectAlive adjustObject
  rw [List.getElem?_modify]
  by_cases here : object = other
  · subst here
    cases there : s.objects[object]? with
    | none => rfl
    | some o => simp [same o there]
  · cases s.objects[other]? <;> simp [here]

theorem held_adjustObject {g : Obj → Obj} (other : ObjectId) :
    (s.adjustObject object g).held other =
      if object = other then ((s.objects[other]?).map fun o => (g o).held).getD []
      else s.held other := by
  unfold held adjustObject
  rw [List.getElem?_modify]
  by_cases here : object = other
  · cases s.objects[other]? <;> simp [here]
  · cases s.objects[other]? <;> simp [here]

theorem length_adjustObject (g : Obj → Obj) :
    (s.adjustObject object g).objects.length = s.objects.length :=
  List.length_modify ..

theorem quiet_adjustObject {g : Obj → Obj} (held : ∀ o, (g o).held = o.held)
    (same : ∀ o, s.objects[object]? = some o → ((g o).references = 0 ↔ o.references = 0)) :
    s.Quiet (s.adjustObject object g) where
  objects := Nat.le_of_eq (length_adjustObject g).symm
  alive other _ := objectAlive_adjustObject same other
  held other := by
    rw [held_adjustObject]
    split
    · simp only [held, Store.held]
    · rfl
  face _ _ there := there
  new info _ absent there := by
    rw [show (s.adjustObject object g).face? info = s.face? info from rfl, absent] at there
    cases there
  owner _ _ there := there

theorem quiet_addObject (s : Store) (classId : ClassId) : s.Quiet (s.addObject classId).2 where
  objects := by simp [addObject]
  alive other there := by simp [objectAlive, addObject, List.getElem?_append_left there]
  held other := by
    unfold held addObject
    by_cases there : other < s.objects.length
    · rw [List.getElem?_append_left there]
    · rw [List.getElem?_append_right (Nat.le_of_not_lt there),
        List.getElem?_eq_none (Nat.le_of_not_lt there)]
      cases other - s.objects.length <;> rfl
  face _ _ there := there
  new _ _ absent there := by
    rw [show (s.addObject classId).2.face? _ = s.face? _ from rfl, absent] at there
    cases there
  owner _ _ there := there

theorem quiet_reserving {classId : ClassId} (there : object < s.objects.length) :
    s.Quiet (s.reserving classId object) where
  objects := Nat.le_refl _
  alive _ _ := rfl
  held _ := rfl
  face other f found := by
    obtain ⟨i, there, -⟩ := Option.map_eq_some_iff.mp found
    have inside := (List.getElem?_eq_some_iff.mp there).1
    rw [← found, face?, face?, reserving, List.getElem?_append_left inside]
  new other f absent found := by
    have outside : s.infos.length ≤ other := by
      unfold face? at absent
      exact List.getElem?_eq_none_iff.mp (Option.map_eq_none_iff.mp absent)
    rw [face?, reserving, List.getElem?_append_right outside] at found
    cases behind : other - s.infos.length with
    | succ n =>
      rw [behind] at found
      cases found
    | zero =>
      rw [behind] at found
      cases found
      obtain rfl : other = s.infos.length :=
        Nat.le_antisymm (Nat.sub_eq_zero_iff_le.mp behind) outside
      exact ⟨rfl, there, by simp [busOwner?, reserving, Info.face, Bus.ofOwner]⟩
  owner bus owner found := by
    obtain ⟨b, there, -⟩ := Option.map_eq_some_iff.mp found
    have inside := (List.getElem?_eq_some_iff.mp there).1
    rw [← found, busOwner?, busOwner?, reserving, List.getElem?_append_left inside]

theorem objectAlive_ending (other : ObjectId) :
    (s.ending object).objectAlive other =
      if object = other then false else s.objectAlive other := by
  unfold objectAlive ending adjustObject
  rw [List.getElem?_modify]
  by_cases here : object = other
  · cases s.objects[other]? <;> simp [here]
  · cases s.objects[other]? <;> simp [here]

theorem lt_of_objectAlive (alive : s.objectAlive object = true) : object < s.objects.length := by
  cases there : s.objects[object]? with
  | none =>
    rw [objectAlive, there] at alive
    cases alive
  | some o => exact (List.getElem?_eq_some_iff.mp there).1

end Store

inductive Incident.Changes : Incident → Store → Store → Prop
  | attached {s s' : Store} {object : ObjectId} {info : InfoId}
      (alive : s.objectAlive object = true) (objects : s'.objects.length = s.objects.length)
      (alives : ∀ other, s'.objectAlive other = s.objectAlive other)
      (others : ∀ other, other ≠ object → s'.held other = s.held other)
      (now : info ∈ s'.held object)
      (kept : ∀ other f, other ∈ s.held object → s.face? other = some f → f.object = object →
        other ∈ s'.held object) (faces : ∀ other, s'.face? other = s.face? other) (owners :
        ∀ bus, s'.busOwner? bus = s.busOwner? bus) :
      Changes (.attached object info s') s s'
  | observed {s : Store} {info : InfoId} {object : ObjectId} (there : object < s.objects.length) :
      Changes (.observed info object) s (s.observing info object)
  | announced {s : Store} {info : InfoId} {f : Face} {outcome : Except Error Unit}
      (there : s.face? info = some f) (dead : s.objectAlive f.object = false)
      (unnotified : f.notified = false) :
      Changes (.announced info (s.flagging info) outcome) s (s.flagging info)
  | ended {s : Store} {object : ObjectId} {outcome : Except Error Unit} {announced : List InfoId}
      (alive : s.objectAlive object = true) :
      Changes (.ended object s outcome announced) s (s.ending object)

/-- A course: quiet stretches with incidents between them. -/
def Course : Store → List Incident → Store → Prop
  | s, [], s' => s.Quiet s'
  | s, incident :: later, s' =>
    ∃ before after, s.Quiet before ∧ incident.Changes before after ∧ Course after later s'

namespace Course

variable {s s' s'' : Store} {earlier later chronicle : List Incident}

theorem quiet_before (quiet : s.Quiet s') (course : Course s' chronicle s'') :
    Course s chronicle s'' := by
  cases chronicle with
  | nil => exact quiet.trans course
  | cons incident later =>
    obtain ⟨before, after, first, changes, rest⟩ := course
    exact ⟨before, after, quiet.trans first, changes, rest⟩

theorem append (first : Course s earlier s') (second : Course s' later s'') :
    Course s (earlier ++ later) s'' := by
  induction earlier generalizing s with
  | nil => exact second.quiet_before first
  | cons incident earlier ih =>
    obtain ⟨before, after, quiet, changes, rest⟩ := first
    exact ⟨before, after, quiet, changes, ih rest⟩

theorem quiet_after (course : Course s chronicle s') (quiet : s'.Quiet s'') :
    Course s chronicle s'' := by
  have further : Course s (chronicle ++ []) s'' := course.append quiet
  rwa [List.append_nil] at further

theorem split (course : Course s (earlier ++ later) s'') :
    ∃ s', Course s earlier s' ∧ Course s' later s'' := by
  induction earlier generalizing s with
  | nil => exact ⟨s, .refl s, course⟩
  | cons incident earlier ih =>
    obtain ⟨before, after, quiet, changes, rest⟩ := course
    obtain ⟨between, first, second⟩ := ih rest
    exact ⟨between, ⟨before, after, quiet, changes, first⟩, second⟩

theorem of_changes {incident : Incident} (changes : incident.Changes s s') :
    Course s [incident] s' :=
  ⟨s, s', .refl s, changes, .refl s'⟩

end Course

/-- What holds of a store all along: every record owns its bus and observes an object that is there,
and what has been announced has ended. -/
structure Store.Steady (s : Store) : Prop where
  owner : ∀ info f, s.face? info = some f → s.busOwner? f.bus = some (.info info)
  known : ∀ info f, s.face? info = some f → f.object < s.objects.length
  notified : ∀ info f, s.face? info = some f → f.notified = true → s.objectAlive f.object = false

/-- An object holds a record that observes it. -/
structure Store.Watches (s : Store) (info : InfoId) (object : ObjectId) : Prop where
  held : info ∈ s.held object
  observed : ∃ f, s.face? info = some f ∧ f.object = object

section Along

variable {s s' : Store} {incident : Incident} {chronicle : List Incident} {info : InfoId}
    {object : ObjectId} {f : Face}

theorem Store.Quiet.steady (quiet : s.Quiet s') (steady : s.Steady) : s'.Steady := by
  -- a record was there already, or it is new
  have origin : ∀ {info f}, s'.face? info = some f → s.face? info = some f ∨
      s.face? info = none := by
    intro info f found
    cases was : s.face? info with
    | none => exact .inr rfl
    | some g => exact .inl ((quiet.face info g was).symm.trans found)
  constructor
  · intro info f found
    rcases origin found with was | new
    · exact quiet.owner _ _ (steady.owner info f was)
    · exact (quiet.new info f new found).2.2
  · intro info f found
    rcases origin found with was | new
    · exact Nat.lt_of_lt_of_le (steady.known info f was) quiet.objects
    · exact (quiet.new info f new found).2.1
  · intro info f found notified
    rcases origin found with was | new
    · rw [quiet.alive _ (steady.known info f was)]
      exact steady.notified info f was notified
    · rw [(quiet.new info f new found).1] at notified
      cases notified

theorem Incident.Changes.objects (changes : incident.Changes s s') :
    s'.objects.length = s.objects.length := by
  cases changes with
  | attached _ objects => exact objects
  | observed | announced => rfl
  | ended => exact Store.length_adjustObject _

theorem Incident.Changes.dead (changes : incident.Changes s s')
    (dead : s.objectAlive object = false) :
    s'.objectAlive object = false := by
  cases changes with
  | attached _ _ alives => exact (alives object).trans dead
  | observed | announced => exact dead
  | ended =>
    rw [Store.objectAlive_ending]
    split
    · rfl
    · exact dead

theorem Incident.Changes.owners (changes : incident.Changes s s') (bus : BusId) :
    s'.busOwner? bus = s.busOwner? bus := by
  cases changes with
  | attached _ _ _ _ _ _ _ owners => exact owners bus
  | observed | announced | ended => rfl

/-- A record was there before, and what it says now holds. -/
theorem Incident.Changes.origin (changes : incident.Changes s s') (steady : s.Steady)
    (found : s'.face? info = some f) :
    ∃ g, s.face? info = some g ∧ g.bus = f.bus ∧ f.object < s.objects.length ∧
      (f.notified = true → s.objectAlive f.object = false) := by
  have unchanged : s.face? info = some f → ∃ g, s.face? info = some g ∧ g.bus = f.bus ∧
      f.object < s.objects.length ∧ (f.notified = true → s.objectAlive f.object = false) :=
        fun was =>
    ⟨f, was, rfl, steady.known info f was, steady.notified info f was⟩
  cases changes with
  | attached _ _ _ _ _ _ faces => exact unchanged ((faces info).symm.trans found)
  | observed there =>
    rw [Store.face?_observing] at found
    split at found
    · obtain ⟨g, was, rfl⟩ := Option.map_eq_some_iff.mp found
      exact ⟨g, was, rfl, there, fun notified => Bool.noConfusion notified⟩
    · exact unchanged found
  | @announced _ other g _ there dead unnotified =>
    rw [Store.face?_flagging] at found
    split at found
    · subst other
      rw [there] at found
      obtain rfl := Option.some.inj found
      exact ⟨g, there, rfl, steady.known info g there, fun _ => dead⟩
    · exact unchanged found
  | ended => exact unchanged found

theorem Incident.Changes.steady (changes : incident.Changes s s') (steady : s.Steady) :
    s'.Steady where
  owner info f found := by
    obtain ⟨g, was, bus, -, -⟩ := changes.origin steady found
    rw [changes.owners, ← bus]
    exact steady.owner info g was
  known info f found := by
    obtain ⟨g, -, -, known, -⟩ := changes.origin steady found
    exact changes.objects ▸ known
  notified info f found notified := by
    obtain ⟨g, -, -, -, ended⟩ := changes.origin steady found
    exact changes.dead (ended notified)

theorem Course.steady (course : Course s chronicle s') (steady : s.Steady) : s'.Steady := by
  induction chronicle generalizing s with
  | nil => exact course.steady steady
  | cons incident later ih =>
    obtain ⟨before, after, quiet, changes, rest⟩ := course
    exact ih rest (changes.steady (quiet.steady steady))

theorem Course.objects (course : Course s chronicle s') : s.objects.length ≤ s'.objects.length := by
  induction chronicle generalizing s with
  | nil => exact course.objects
  | cons incident later ih =>
    obtain ⟨before, after, quiet, changes, rest⟩ := course
    exact Nat.le_trans quiet.objects (changes.objects ▸ ih rest)

/-- An object that has ended does not come back. -/
theorem Course.dead (course : Course s chronicle s') (there : object < s.objects.length)
    (dead : s.objectAlive object = false) : s'.objectAlive object = false := by
  induction chronicle generalizing s with
  | nil => exact (course.alive object there).trans dead
  | cons incident later ih =>
    obtain ⟨before, after, quiet, changes, rest⟩ := course
    have known : object < after.objects.length :=
      changes.objects ▸ Nat.lt_of_lt_of_le there quiet.objects
    exact ih rest known (changes.dead ((quiet.alive object there).trans dead))

theorem Incident.Changes.face (changes : incident.Changes s s')
    (unobserved : ∀ object, incident ≠ .observed info object) (found : s.face? info = some f) :
    ∃ g, s'.face? info = some g ∧ g.object = f.object ∧ g.bus = f.bus ∧
      (announcements [incident]).count info + f.notified.toNat = g.notified.toNat := by
  cases changes with
  | attached _ _ _ _ _ _ faces =>
    exact ⟨f, (faces info).trans found, rfl, rfl, by simp [announcements]⟩
  | @observed _ other object there =>
    have apart : other ≠ info := fun same => unobserved object (by rw [same])
    exact ⟨f, by rw [Store.face?_observing, if_neg apart, found], rfl, rfl, by simp [announcements]⟩
  | @announced _ other g _ there dead unnotified =>
    by_cases here : other = info
    · subst here
      obtain rfl : g = f := Option.some.inj (there.symm.trans found)
      refine ⟨{ g with notified := true }, ?_, rfl, rfl, ?_⟩
      · rw [Store.face?_flagging, if_pos rfl, found, Option.map_some]
      · simp [announcements, unnotified]
    · exact ⟨f, by
        rw [Store.face?_flagging, if_neg here, found], rfl, rfl, by simp [announcements, here]⟩
  | ended => exact ⟨f, found, rfl, rfl, by simp [announcements]⟩

/-- As long as a record is not made to observe an object anew, it observes the same one, and it is
announced exactly if it had not been and now it has, and then once. -/
theorem Course.face (course : Course s chronicle s')
    (unobserved : ∀ object, .observed info object ∉ chronicle) (found : s.face? info = some f) :
    ∃ g, s'.face? info = some g ∧ g.object = f.object ∧ g.bus = f.bus ∧
      (announcements chronicle).count info + f.notified.toNat = g.notified.toNat := by
  induction chronicle generalizing s f with
  | nil => exact ⟨f, course.face info f found, rfl, rfl, by simp [announcements]⟩
  | cons incident later ih =>
    obtain ⟨before, after, quiet, changes, rest⟩ := course
    have notNow : ∀ object, incident ≠ .observed info object := fun object same =>
      unobserved object (same ▸ List.mem_cons_self)
    obtain ⟨g, there, object, bus, count⟩ := changes.face notNow (quiet.face info f found)
    obtain ⟨g', there', object', bus', count'⟩ :=
      ih rest (fun object among => unobserved object (List.mem_cons_of_mem _ among)) there
    refine ⟨g', there', object'.trans object, bus'.trans bus, ?_⟩
    rw [show incident :: later = [incident] ++ later from rfl, announcements_append,
      List.count_append]
    omega

theorem Incident.Changes.watched (changes : incident.Changes s s') (watches : s.Watches info object)
    (unobserved : ∀ other, incident = .observed info other → other = object) :
    s'.Watches info object ∨ s'.objectAlive object = false := by
  obtain ⟨held, f, found, observes⟩ := watches
  cases changes with
  | @attached _ _ other _ alive _ _ others _ kept faces =>
    refine .inl ⟨?_, f, (faces info).trans found, observes⟩
    by_cases here : object = other
    · subst here
      exact kept info f held found observes
    · rwa [others object here]
  | @observed _ other target there =>
    refine .inl ⟨held, ?_⟩
    rw [Store.face?_observing]
    split
    · subst other
      exact ⟨{ f with object := target, notified := false }, by
        rw [found, Option.map_some], unobserved target rfl⟩
    · exact ⟨f, found, observes⟩
  | @announced _ other =>
    refine .inl ⟨held, ?_⟩
    rw [Store.face?_flagging]
    split
    · exact ⟨{ f with notified := true }, by rw [found, Option.map_some], observes⟩
    · exact ⟨f, found, observes⟩
  | @ended _ other =>
    by_cases here : other = object
    · exact .inr (by rw [Store.objectAlive_ending, if_pos here])
    · refine .inl ⟨?_, f, found, observes⟩
      rwa [Store.ending, Store.held_adjustObject, if_neg here]

/-- An object goes on holding a record that observes it, unless the record is made to observe
another one, until the object ends. -/
theorem Course.watched (course : Course s chronicle s') (there : object < s.objects.length)
    (watches : s.Watches info object)
    (unobserved : ∀ other, .observed info other ∈ chronicle → other = object) :
    s'.Watches info object ∨ s'.objectAlive object = false := by
  have quietly : ∀ {t t' : Store}, t.Quiet t' → t.Watches info object → t'.Watches info object := by
    intro t t' quiet ⟨held, f, found, observes⟩
    exact ⟨by rwa [quiet.held], f, quiet.face info f found, observes⟩
  induction chronicle generalizing s with
  | nil => exact .inl (quietly course watches)
  | cons incident later ih =>
    obtain ⟨before, after, quiet, changes, rest⟩ := course
    have known : object < after.objects.length :=
      changes.objects ▸ Nat.lt_of_lt_of_le there quiet.objects
    have further := fun other among => unobserved other (List.mem_cons_of_mem _ among)
    have now : ∀ other, incident = .observed info other → other = object := fun other same =>
      unobserved other (same ▸ List.mem_cons_self)
    rcases changes.watched (quietly quiet watches) now with still | dead
    · exact ih rest known still further
    · exact .inr (rest.dead known dead)

end Along

end RowMapper
