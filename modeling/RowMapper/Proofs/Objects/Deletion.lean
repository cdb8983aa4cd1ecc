import RowMapper.Proofs.Objects.Notices
/-!
The end of an object is announced once. Along every run of a program an announcement on a record
says that the object that the record observes has ended, there is at most one for each object that
the record is made to observe, and the end of an object is announced on every record that was
attached to it and still observes it, whatever was attached in its place and whatever hooks fail.
-/

set_option autoImplicit false

namespace RowMapper

variable {υ α : Type} {act : Act (World υ) α} {w : World υ}
    {chronicle earlier between later : List Incident} {info : InfoId} {object : ObjectId}

namespace Store

theorem steady_of_nothing {s : Store} (noInfos : s.infos = []) : s.Steady := by
  have nobody : ∀ info f, s.face? info ≠ some f := by
    intro info f there
    rw [face?, noInfos, List.getElem?_nil] at there
    cases there
  exact ⟨fun info f there => absurd there (nobody info f),
    fun info f there => absurd there (nobody info f),
    fun info f there => absurd there (nobody info f)⟩

theorem counted_of_nothing {s : Store} (noObjects : s.objects = []) : s.Counted [] := by
  intro info
  rw [holds, noObjects]
  exact Nat.zero_le _

theorem observed?_eq_some_iff {s : Store} : s.observed? info = some object ↔
    ∃ f, s.face? info = some f ∧ f.object = object ∧ s.objectAlive object = true := by
  rw [observed?_eq, Option.bind_eq_some_iff]
  constructor
  · rintro ⟨f, there, observes⟩
    split at observes
    · obtain rfl := Option.some.inj observes
      exact ⟨f, there, rfl, ‹_›⟩
    · cases observes
  · rintro ⟨f, there, rfl, alive⟩
    exact ⟨f, there, if_pos alive⟩

/-- An object whose end is not announced is there. -/
theorem Steady.unnotified {s : Store} (steady : s.Steady) {f : Face} (there : s.face? info = some f)
    (alive : s.objectAlive f.object = true) : f.notified = false := by
  cases notified : f.notified with
  | false => rfl
  | true =>
    rw [steady.notified info f there notified] at alive
    cases alive

end Store

/-- Where an incident stands in a chronicle, the course led there and goes on. -/
theorem Course.incident {s s' : Store} {incident : Incident}
    (course : Course s (earlier ++ incident :: later) s') :
    ∃ before after, Course s earlier before ∧ incident.Changes before after ∧
      Course after later s' := by
  obtain ⟨middle, first, before, after, quiet, changes, rest⟩ := course.split
  exact ⟨before, after, first.quiet_after quiet, changes, rest⟩

/-- Two announcements on a record have an object that it is made to observe between them. -/
theorem Course.reobserved {s s' : Store} {moment moment' : Store}
    {outcome outcome' : Except Error Unit}
    (course : Course s (earlier ++ .announced info moment
      outcome :: (between ++ .announced info moment' outcome' :: later)) s') :
    ∃ object, .observed info object ∈ between := by
  by_contra! unobserved
  obtain ⟨before, after, -, first, rest⟩ := course.incident
  obtain ⟨before', after', during, second, -⟩ := rest.incident
  cases first with
  | @announced _ _ f _ there dead unnotified =>
    have flagged : (before.flagging info).face? info = some { f with notified := true } := by
      rw [Store.face?_flagging, if_pos rfl, there, Option.map_some]
    obtain ⟨g, there', -, -, count⟩ := during.face unobserved flagged
    cases second with
    | @announced _ _ g' _ there'' dead' unnotified' =>
      obtain rfl : g = g' := Option.some.inj (there'.symm.trans there'')
      rw [unnotified', Bool.toNat_true, Bool.toNat_false] at count
      omega

/-- A record that was attached to an object and goes on observing it is still held by it when it
ends. -/
theorem Course.held_until {s s' after before : Store} {outcome : Except Error Unit}
    {heard : List InfoId} (course : Course s (earlier ++ .attached object info after ::
      (between ++ .ended object before outcome heard :: later)) s')
    (steady : s.Steady) (observes : after.observed? info = some object)
    (faithful : ∀ other, .observed info other ∈ between → other = object) :
    info ∈ before.held object ∧
      ∃ f, before.face? info = some f ∧ f.object = object ∧ f.notified = false := by
  obtain ⟨start, attached, first, attaches, rest⟩ := course.incident
  obtain ⟨last, ending, during, ends, -⟩ := rest.incident
  have before_steady := during.steady (attaches.steady (first.steady steady))
  obtain ⟨f, there, same, alive⟩ := Store.observed?_eq_some_iff.mp observes
  have known := Store.lt_of_objectAlive alive
  cases attaches with
  | attached _ _ _ _ now =>
    cases ends with
    | ended still =>
      rcases during.watched known ⟨now, f, there, same⟩ faithful with watches | dead
      · obtain ⟨holds, g, found, observed⟩ := watches
        exact ⟨holds, g, found, observed, before_steady.unnotified found (observed ▸ still)⟩
      · rw [dead] at still
        cases still

/-- The end of an object is announced once. In a run that starts without objects and records:

1. An announcement is made on a record that is there, on its own bus, when the object that the
   record observes has no reference left.
2. Between two announcements on a record, the record is made to observe an object.
3. A record that was attached to an object and observes it from then on until the last reference to
   the object is dropped has exactly one announcement made on it by that drop, whether or not other
   records were attached meanwhile.
4. A drop goes through the notices of all records that the object held and that observe it, one
   each, whichever hooks fail, unless a failure ends the program. -/
theorem ends_are_announced_once (run : Runs (.code true) [] act w chronicle)
    (noObjects : w.store.objects = []) (noInfos : w.store.infos = []) :
    (∀ info moment outcome, .announced info moment outcome ∈ chronicle →
      ∃ i, moment.infos[info]? = some i ∧ moment.objectAlive i.object = false ∧
        moment.infoAlive info = true ∧
      (moment.buses[i.bus]?).map Bus.owner = some (.info info)) ∧
    (∀ info earlier between later moment moment' outcome outcome',
      chronicle = earlier ++ .announced info moment
        outcome :: (between ++ .announced info moment' outcome' :: later) →
      ∃ object, .observed info object ∈ between) ∧
    (∀ info object earlier between later after before heard,
      chronicle = earlier ++ .attached object info
        after :: (between ++ .ended object before (.ok ()) heard :: later) →
      after.observed? info = some object →
        (∀ other, .observed info other ∈ between → other = object) →
      heard.count info = 1) ∧
    (∀ object before outcome heard, .ended object before outcome heard ∈ chronicle →
      (∀ e, outcome = .error e → e.isFatal = true) ∧
      (outcome = .ok () → ∀ info, info ∈ before.held object → before.observed? info = some object →
        heard.count info = 1)) := by
  have course := run.course
  have steady := Store.steady_of_nothing noInfos
  have audible := (run.settles (Store.counted_of_nothing noObjects)).heard
  have complete := run.complete
  refine ⟨?_, ?_, ?_, ?_⟩
  · intro info moment outcome among
    obtain ⟨earlier, later, rfl⟩ := List.append_of_mem among
    obtain ⟨before, after, first, changes, -⟩ := course.incident
    have alive : Incident.Heard (.announced info moment outcome) := audible _ among
    cases changes with
    | @announced _ _ f _ there dead unnotified =>
      have owner := (first.steady steady).owner info f there
      obtain ⟨i, found, rfl⟩ := Option.map_eq_some_iff.mp there
      refine ⟨{ i with notified := true }, ?_, dead, alive, owner⟩
      rw [Store.flagging, Store.adjustInfo, List.getElem?_modify_eq, found, Option.map_eq_map,
        Option.map_some]
  · rintro info earlier between later moment moment' outcome outcome' rfl
    exact course.reobserved
  · rintro info object earlier between later after before heard rfl observes faithful
    obtain ⟨held, f, there, same, unnotified⟩ := course.held_until steady observes faithful
    have ended : Incident.Complete (.ended object before (.ok ()) heard) := complete _ (by simp)
    exact ended.2 rfl info f held there same unnotified
  · intro object before outcome heard among
    obtain ⟨fatal, each⟩ : Incident.Complete (.ended object before outcome heard) :=
      complete _ among
    refine ⟨fatal, fun done info held observes => ?_⟩
    obtain ⟨earlier, later, rfl⟩ := List.append_of_mem among
    obtain ⟨start, after, first, changes, -⟩ := course.incident
    obtain ⟨f, there, same, alive⟩ := Store.observed?_eq_some_iff.mp observes
    cases changes with
    | ended =>
      exact each done info f held there same ((first.steady steady).unnotified there (same ▸ alive))

def refusing : Foreign (List CallbackId) := .ofCall fun callback _ _ w =>
  (if callback = 0 then .error (.validation "refused") else .ok .keep,
    { w with user := w.user ++ [callback] })

theorem refusing_answers : refusing.Answers := fun _ _ _ _ _ => ⟨[], .step (.of_same rfl rfl rfl)⟩

/-- A world in which a class with a key column is known. -/
def acquainted : World (List CallbackId) where
  store :=
    let column : Column := ⟨0, "id", some ⟨"person"⟩, 1, ⟨.int, false, none, none⟩⟩
    { Store.empty with classes := Dict.empty.insert 0 ⟨"Person", ⟨"person"⟩, [column],
      [column], [0], []⟩ }
  user := []

/-- Hooks on the records 0 and 1, of which the second fails. -/
def hooking (s : Store) : Store :=
  (s.adjustBus 0 (·.hook Obj.deletedEvent ⟨1, []⟩)).adjustBus 1 (·.hook Obj.deletedEvent ⟨0, []⟩)

/-- The record of an object is replaced by another one, and both have a hook. -/
def replacing : Act (World (List CallbackId)) Unit := do
  World.change fun s => (s.addObject 0).2
  let _ ← Info.ofObject refusing 0
  let _ ← Info.create refusing 0
  Info.attach 0 1
  World.change hooking

theorem replacing_runs : ∃ first second,
    Runs (.code true) [] replacing acquainted [.attached 0 0 first, .attached 0 1 second] ∧
      first.observed? 0 = some 0 ∧ second.observed? 1 = some 0 := by
  let born : World (List CallbackId) :=
    { acquainted with store := (acquainted.store.addObject 0).2 }
  let met := (Info.ofObject refusing 0 born).2
  let made := (Info.create refusing 0 met).2
  let swapped := (Info.attach 0 1 made).2
  have creates : Runs (.making true born.store.infos.length) [] (Info.create refusing 0) born [] :=
    .made rfl (.step (.of_same rfl rfl rfl)) rfl (.step (.of_same rfl rfl rfl)) rfl
  have meets : Runs (.code true) [] (Info.ofObject refusing 0) born [.attached 0 0 met.store] :=
    .introduced rfl rfl creates rfl rfl Nat.one_ne_zero rfl
  have creates' : Runs (.making true met.store.infos.length) [] (Info.create refusing 0) met [] :=
    .made rfl (.step (.of_same rfl rfl rfl)) rfl (.step (.of_same rfl rfl rfl)) rfl
  have swaps : Runs (.code true) [] (Info.attach 0 1) made [.attached 0 1 swapped.store] :=
    .attached rfl Nat.one_ne_zero rfl
  have hooks : Runs (.code true) [] (World.change hooking) swapped [] :=
    .step (.other rfl rfl ((Store.quiet_adjustBus fun b => b.owner_hook _ _).trans
      (Store.quiet_adjustBus fun b => b.owner_hook _ _)).owner)
  refine ⟨met.store, swapped.store, ?_, rfl, rfl⟩
  exact .next (.step (.addObject _ 0))
    rfl (.next meets rfl (.next (.created creates') rfl (.next swaps rfl hooks)))

/-- A record that has been replaced is told of the end of its object, though the hook of the other
one fails. -/
theorem replaced_record_is_told_of_the_end : ∃ chronicle before heard,
    Runs (.code true) [] (do replacing; Obj.release refusing 0) acquainted chronicle ∧
      .ended 0 before (.ok ()) heard ∈ chronicle ∧ heard.count 0 = 1 ∧ heard.count 1 = 1 ∧
      (Obj.release refusing 0 (replacing acquainted).2).2.user = [0, 1] := by
  obtain ⟨first, second, prepares, observes, observes'⟩ := replacing_runs
  have ran : replacing acquainted = (.ok (), (replacing acquainted).2) := rfl
  have there : (replacing acquainted).2.store.objects[0]? = some ⟨0, 1, some 1, [0]⟩ := rfl
  obtain ⟨inner, ends⟩ := Runs.exists_ended refusing_answers there rfl true []
  have done : (Obj.release refusing 0 (replacing acquainted).2).1 = .ok () := by
    have succeeds : (Obj.release refusing 0 (replacing acquainted).2).1.isOk = true := by
      decide +kernel
    cases outcome : (Obj.release refusing 0 (replacing acquainted).2).1 with
    | ok => rfl
    | error e =>
      rw [outcome] at succeeds
      cases succeeds
  rw [done] at ends
  have run : Runs (.code true) [] (do replacing; Obj.release refusing 0) acquainted _ :=
    prepares.next ran ends
  obtain ⟨-, -, announced, -⟩ := ends_are_announced_once run rfl rfl
  refine ⟨_, _, _, run, List.mem_append_right _ List.mem_cons_self, ?_, ?_, by decide +kernel⟩
  · exact announced 0 0 [] [.attached 0 1 second] inner first _ _ rfl observes (by simp)
  · exact announced 1 0 [.attached 0 0 first] [] inner second _ _ rfl observes' (by simp)

end RowMapper
