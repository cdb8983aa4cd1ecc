import RowMapper.Mapping.ObjectInfo
import RowMapper.Proofs.Bus.Snapshot
import RowMapper.Proofs.Hierarchy.Entries
/-!
Who holds records. An object holds the record attached to it and the ones replaced there, and beside
that the library has some in hand while it works on them. The references to a record are never fewer
than these, and those beyond are the program's own. What of a store matters for the end of objects
is left as it is by all but a few operations.
-/

set_option autoImplicit false

namespace RowMapper

/-- The records that an object holds. -/
def Obj.held (o : Obj) : List InfoId := o.attached.toList ++ o.replaced

/-- What of a record matters for the end of the object that it observes. -/
structure Face where
  object : ObjectId
  notified : Bool
  bus : BusId

def Info.face (i : Info) : Face := ⟨i.object, i.notified, i.bus⟩

/-- The record that an owner is. -/
def Owner.records : Owner → List InfoId
  | .actor _ => []
  | .info id => [id]

namespace Store

variable {s s' s'' : Store} {taken : List InfoId} {info other : InfoId} {object : ObjectId}

def held (s : Store) (object : ObjectId) : List InfoId :=
  ((s.objects[object]?).map Obj.held).getD []

/-- How often a record is held. -/
def holds (s : Store) (info : InfoId) : Nat := (s.objects.flatMap Obj.held).count info

def references (s : Store) (info : InfoId) : Nat := ((s.infos[info]?).map Info.references).getD 0

def face? (s : Store) (info : InfoId) : Option Face := (s.infos[info]?).map Info.face

def busOwner? (s : Store) (bus : BusId) : Option Owner := (s.buses[bus]?).map Bus.owner

/-- Every record has at least the references with which it is held and those that are in hand. -/
def Counted (s : Store) (taken : List InfoId) : Prop :=
  ∀ info, s.holds info + taken.count info ≤ s.references info

/-- Records that are gone do not come back. -/
structure Buries (s s' : Store) : Prop where
  infos : s.infos.length ≤ s'.infos.length
  gone : ∀ info, info < s.infos.length → s.references info = 0 → s'.references info = 0

/-- The end of an object: it has no reference left and holds nothing any more. -/
def ending (s : Store) (object : ObjectId) : Store :=
  s.adjustObject object fun o => { o with references := 0, attached := none, replaced := [] }

def flagging (s : Store) (info : InfoId) : Store :=
  s.adjustInfo info fun i => { i with notified := true }

def observing (s : Store) (info : InfoId) (object : ObjectId) : Store :=
  s.adjustInfo info fun i => { i with object, notified := false }

def attaching (s : Store) (object : ObjectId) (info : InfoId) : Store :=
  (s.adjustObject object fun o => { o with attached := some info }).retainInfo info

/-- A record without references, and its bus, are set aside. -/
def reserving (s : Store) (classId : ClassId) (object : ObjectId) : Store :=
  { s with
    buses := s.buses ++ [.ofOwner (.info s.infos.length)]
    infos := s.infos ++ [⟨classId, [], [], object, false, s.buses.length, 0⟩] }

/-! ## References -/

theorem infoAlive_iff : s.infoAlive info = true ↔ s.references info ≠ 0 := by
  unfold infoAlive references
  cases s.infos[info]? with
  | none => simp
  | some i => simp

theorem references_adjustInfo (f : Info → Info) :
    (s.adjustInfo info f).references other =
      if info = other then ((s.infos[other]?).map fun i => (f i).references).getD 0
      else s.references other := by
  unfold references adjustInfo
  rw [List.getElem?_modify]
  by_cases here : info = other
  · simp only [here, ↓reduceIte, Option.map_eq_map, Option.map_map]
    rfl
  · simp only [here, ↓reduceIte, Option.map_eq_map, Option.map_id']

theorem references_retainInfo (alive : s.infoAlive info = true) :
    (s.retainInfo info).references other = s.references other + [info].count other := by
  rw [retainInfo, references_adjustInfo]
  by_cases here : info = other
  · subst here
    rw [infoAlive_iff] at alive
    cases there : s.infos[info]? with
    | none => simp [references, there] at alive
    | some i => simp [references, there]
  · simp [here]

theorem references_releaseInfo :
    (s.releaseInfo info).references other = s.references other - [info].count other := by
  rw [releaseInfo, references_adjustInfo]
  by_cases here : info = other
  · subst here
    cases there : s.infos[info]? with
    | none => simp [references, there]
    | some i => simp [references, there]
  · simp [here]

theorem length_adjustInfo (f : Info → Info) : (s.adjustInfo info f).infos.length = s.infos.length :=
  List.length_modify ..

theorem references_reserving (classId : ClassId) :
    (s.reserving classId object).references other = s.references other := by
  unfold references reserving
  by_cases there : other < s.infos.length
  · rw [List.getElem?_append_left there]
  · rw [List.getElem?_append_right (Nat.le_of_not_lt there),
      List.getElem?_eq_none (Nat.le_of_not_lt there)]
    cases other - s.infos.length <;> rfl

theorem references_eq_zero_of_le (outside : s.infos.length ≤ info) : s.references info = 0 := by
  rw [references, List.getElem?_eq_none outside, Option.map_none, Option.getD_none]

namespace Buries

theorem of_infos (same : s'.infos = s.infos) : s.Buries s' where
  infos := Nat.le_of_eq (by rw [same])
  gone info _ none := by rwa [references, same]

theorem refl (s : Store) : s.Buries s := of_infos rfl

theorem trans (first : s.Buries s') (second : s'.Buries s'') : s.Buries s'' where
  infos := Nat.le_trans first.infos second.infos
  gone info there none :=
    second.gone info (Nat.lt_of_lt_of_le there first.infos) (first.gone info there none)

theorem adjustInfo {f : Info → Info} (none : ∀ i, i.references = 0 → (f i).references = 0) :
    s.Buries (s.adjustInfo info f) where
  infos := Nat.le_of_eq (length_adjustInfo f).symm
  gone other _ nothing := by
    rw [references_adjustInfo]
    split
    · rw [references] at nothing
      cases there : s.infos[other]? with
      | none => rfl
      | some i =>
        rw [there, Option.map_some, Option.getD_some] at nothing
        rw [Option.map_some, Option.getD_some, none i nothing]
    · exact nothing

theorem retainInfo (alive : s.infoAlive info = true) : s.Buries (s.retainInfo info) where
  infos := Nat.le_of_eq (length_adjustInfo _).symm
  gone other _ nothing := by
    rw [references_retainInfo alive]
    by_cases here : info = other
    · subst here
      exact absurd nothing (infoAlive_iff.mp alive)
    · simp [here, nothing]

theorem releaseInfo : s.Buries (s.releaseInfo info) := adjustInfo fun i none => by simp [none]

theorem retainOwner {owner : Owner} (alive : s.ownerAlive owner = true) :
    s.Buries (s.retainOwner owner) := by
  cases owner with
  | actor id => exact of_infos rfl
  | info id => exact retainInfo alive

theorem releaseOwner (owner : Owner) : s.Buries (s.releaseOwner owner) := by
  cases owner with
  | actor id => exact of_infos rfl
  | info id => exact releaseInfo

/-- A record that was not there yet may come. -/
theorem finding {f : Info → Info} (buries : s.Buries s') (new : s.infos.length ≤ info) :
    s.Buries (s'.adjustInfo info f) where
  infos := by
    rw [length_adjustInfo]
    exact buries.infos
  gone other there nothing := by
    rw [references_adjustInfo, if_neg (Nat.ne_of_gt (Nat.lt_of_lt_of_le there new))]
    exact buries.gone other there nothing

theorem reserving (s : Store) (classId : ClassId) (object : ObjectId) :
    s.Buries (s.reserving classId object) where
  infos := by simp [Store.reserving]
  gone other there nothing := by
    rw [← nothing, references, references, Store.reserving, List.getElem?_append_left there]

end Buries

namespace Counted

/-- What is in hand is there. -/
theorem alive (counted : s.Counted (info :: taken)) : s.infoAlive info = true := by
  have before := counted info
  rw [List.count_cons_self] at before
  exact infoAlive_iff.mpr (by omega)

/-- What is held is there. -/
theorem alive_of_held (counted : s.Counted taken) (held : info ∈ s.held object) :
    s.infoAlive info = true := by
  have before := counted info
  have holds : 0 < s.holds info := by
    rw [Store.held] at held
    cases there : s.objects[object]? with
    | none =>
      rw [there] at held
      cases held
    | some o =>
      rw [there] at held
      exact List.count_pos_iff.mpr (List.mem_flatMap.mpr ⟨o, List.mem_of_getElem? there, held⟩)
  exact infoAlive_iff.mpr (by omega)

theorem of_same (counted : s.Counted taken) (objects : s'.objects = s.objects)
    (references : ∀ info, s'.references info = s.references info) : s'.Counted taken := by
  intro info
  rw [references, holds, objects]
  exact counted info

theorem reserving (counted : s.Counted taken) (classId : ClassId) (object : ObjectId) :
    (s.reserving classId object).Counted taken :=
  counted.of_same rfl fun _ => references_reserving classId

/-- What records say about objects does not count. -/
theorem adjustInfo {f : Info → Info} (counted : s.Counted taken)
    (same : ∀ i, (f i).references = i.references) :
    (s.adjustInfo info f).Counted taken := by
  refine counted.of_same rfl fun other => ?_
  rw [references_adjustInfo]
  split
  · simp only [same, references]
  · rfl

theorem retain (counted : s.Counted taken) (alive : s.infoAlive info = true) :
    (s.retainInfo info).Counted (info :: taken) := by
  intro other
  have before := counted other
  have held : (s.retainInfo info).holds other = s.holds other := rfl
  rw [references_retainInfo alive, held]
  simp only [List.count_cons, List.count_nil] at *
  omega

theorem release (counted : s.Counted (info :: taken)) : (s.releaseInfo info).Counted taken := by
  intro other
  have before := counted other
  have held : (s.releaseInfo info).holds other = s.holds other := rfl
  rw [references_releaseInfo, held]
  simp only [List.count_cons, List.count_nil] at *
  omega

theorem retainOwner {owner : Owner} (counted : s.Counted taken)
    (alive : s.ownerAlive owner = true) :
    (s.retainOwner owner).Counted (owner.records ++ taken) := by
  cases owner with
  | actor id => exact counted.of_same rfl fun _ => rfl
  | info id => exact counted.retain alive

theorem releaseOwner {owner : Owner} (counted : s.Counted (owner.records ++ taken)) :
    (s.releaseOwner owner).Counted taken := by
  cases owner with
  | actor id => exact counted.of_same rfl fun _ => rfl
  | info id => exact counted.release

theorem fewer (more : List InfoId) (counted : s.Counted (more ++ taken)) : s.Counted taken := by
  intro other
  have before := counted other
  rw [List.count_append] at before
  omega

/-- An object may give records out of its hold and take others in. -/
theorem exchange (counted : s.Counted taken) {o : Obj} (there : s.objects[object]? = some o)
    {f : Obj → Obj} {given : List InfoId}
    (balance : ∀ info, (f o).held.count info + given.count info =
      o.held.count info + taken.count info) :
    (s.adjustObject object f).Counted given := by
  intro info
  have before := counted info
  have moved : o.held.count info + (s.adjustObject object f).holds info =
      (f o).held.count info + s.holds info := by
    have counts := (Hierarchy.flatMap_set_perm Obj.held there (f o)).count_eq info
    rw [List.count_append, List.count_append] at counts
    rw [holds, adjustObject, modify_eq_set_of_getElem? there]
    exact counts
  have same : (s.adjustObject object f).references info = s.references info := rfl
  have even := balance info
  rw [same]
  omega

/-- A record without references comes to hand with its first one. -/
theorem finding (counted : s.Counted taken) (nothing : s.references info = 0)
    (there : info < s.infos.length) {f : Info → Info} (one : ∀ i, (f i).references = 1) :
    (s.adjustInfo info f).Counted (info :: taken) := by
  intro other
  have before := counted other
  have held : (s.adjustInfo info f).holds other = s.holds other := rfl
  rw [held, references_adjustInfo]
  by_cases here : info = other
  · subst here
    rw [if_pos rfl, List.getElem?_eq_getElem there, Option.map_some, Option.getD_some, one,
      List.count_cons_self]
    omega
  · rw [if_neg here, List.count_cons_of_ne here]
    exact before

/-- The record attached before is in hand when another one is attached. -/
theorem attaching (counted : s.Counted taken) {o : Obj} (there : s.objects[object]? = some o)
    (alive : s.infoAlive info = true) :
    (s.attaching object info).Counted (o.attached.toList ++ taken) := by
  have retained : (s.retainInfo info).Counted (info :: taken) := counted.retain alive
  have still : (s.retainInfo info).objects[object]? = some o := there
  refine retained.exchange still fun other => ?_
  simp only [Obj.held, Option.toList_some, List.count_append, List.count_cons, List.count_nil]
  omega

/-- What an object held is in hand at its end. -/
theorem ending (counted : s.Counted taken) (object : ObjectId) :
    (s.ending object).Counted (s.held object ++ taken) := by
  cases there : s.objects[object]? with
  | none =>
    have same : s.ending object = s := by
      rw [Store.ending, adjustObject, List.modify_eq_self (List.getElem?_eq_none_iff.mp there)]
    have nothing : s.held object = [] := by rw [held, there, Option.map_none, Option.getD_none]
    rwa [same, nothing]
  | some o =>
    have held : s.held object = o.held := by
      rw [Store.held, there, Option.map_some, Option.getD_some]
    refine counted.exchange there fun info => ?_
    rw [held, List.count_append]
    simp [Obj.held]

end Counted

end Store

end RowMapper
