import RowMapper.Proofs.Objects.Making
/-!
Dealings with the records of objects. A run is written down as what it does about records: they are
set aside for objects, attached to them, asked for and got or refused, and let go of when an object
ends. What is written down says which record is attached to each object. Records keep their buses
and cells apart from those of others all along.
-/

set_option autoImplicit false

namespace RowMapper

variable {υ α : Type} {foreign : Foreign υ} {w : World υ} {object other : ObjectId} {info : InfoId}
    {i : Info}

/-- What is written down of a run. -/
inductive Dealing where
  /-- A record was set aside for an object, to be made. -/
  | made (object : ObjectId) (info : InfoId)
  /-- The program attached a record to an object. -/
  | given (object : ObjectId) (info : InfoId)
  /-- The record of an object was asked for, in a store, and got. -/
  | got (object : ObjectId) (before : Store) (info : InfoId)
  /-- The record of an object was asked for and could not be made, with the store just behind. -/
  | refused (object : ObjectId) (e : Error) (after : Store)
  /-- The last reference to an object was dropped. -/
  | ended (object : ObjectId)

namespace Dealing

/-- The record attached to an object, behind a dealing. -/
def attach (object : ObjectId) (standing : Option InfoId) : Dealing → Option InfoId
  | .given other info => if other = object then some info else standing
  | .got other _ info => if other = object then some (standing.getD info) else standing
  | .ended other => if other = object then none else standing
  | .made _ _ | .refused _ _ _ => standing

def attached (object : ObjectId) (start : Option InfoId) (dealings : List Dealing) :
    Option InfoId :=
  dealings.foldl (attach object) start

theorem attached_append (start : Option InfoId) (earlier later : List Dealing) :
    attached object start (earlier ++ later) =
      attached object (attached object start earlier) later :=
  List.foldl_append

/-- The records set aside, with the objects for which they were. -/
def madeOf (dealings : List Dealing) : List (ObjectId × InfoId) :=
  dealings.filterMap fun
    | .made object info => some (object, info)
    | _ => none

theorem madeOf_append (earlier later : List Dealing) :
    madeOf (earlier ++ later) = madeOf earlier ++ madeOf later :=
  List.filterMap_append

theorem mem_madeOf {dealings : List Dealing} : (object, info) ∈ madeOf dealings ↔
    .made object info ∈ dealings := by
  rw [madeOf, List.mem_filterMap]
  constructor
  · rintro ⟨dealing, among, same⟩
    cases dealing with
    | made =>
      cases same
      exact among
    | given | got | refused | ended => cases same
  · exact fun among => ⟨_, among, rfl⟩

end Dealing

namespace Store

variable {s s' s'' : Store} {earlier later dealings : List Dealing}

def attachment (s : Store) (object : ObjectId) : Option InfoId :=
  (s.objects[object]?).bind Obj.attached

/-- Cells stay on their buses, and buses with their owners. -/
structure Stands (s s' : Store) : Prop where
  cell : ∀ (cell : CellId) (c : Cell), s.cells[cell]? = some c → ∃ now, s'.cells[cell]? = some now ∧
    now.bus = c.bus
  owner : ∀ bus owner, s.busOwner? bus = some owner → s'.busOwner? bus = some owner

namespace Stands

theorem refl (s : Store) : s.Stands s := ⟨fun _ c there => ⟨c, there, rfl⟩, fun _ _ there => there⟩

theorem trans (first : s.Stands s') (second : s'.Stands s'') : s.Stands s'' where
  cell cell c there := by
    obtain ⟨between, there', same⟩ := first.cell cell c there
    obtain ⟨now, there'', same'⟩ := second.cell cell between there'
    exact ⟨now, there'', same'.trans same⟩
  owner bus owner there := second.owner bus owner (first.owner bus owner there)

end Stands

/-- The buses and the cells of the records. -/
def outline (s : Store) : List (BusId × List (Column × CellId)) :=
  s.infos.map fun i => (i.bus, i.cells)

/-- Records keep their buses and their cells, and none is added. -/
structure Rests (s s' : Store) : Prop where
  objects : s.objects.length ≤ s'.objects.length
  outline : s'.outline = s.outline
  stands : s.Stands s'

/-- Beside that, objects keep the records attached to them. -/
structure Leaves (s s' : Store) : Prop extends s.Rests s' where
  attachment : ∀ object, s'.attachment object = s.attachment object

/-! ## What leaves the records attached -/

theorem Stands.of_same (cells : s'.cells = s.cells) (buses : s'.buses = s.buses) : s.Stands s' where
  cell _ c there := ⟨c, cells ▸ there, rfl⟩
  owner _ _ there := by rwa [busOwner?, buses]

theorem Rests.refl (s : Store) : s.Rests s := ⟨Nat.le_refl _, rfl, .refl s⟩

theorem Rests.trans (first : s.Rests s') (second : s'.Rests s'') : s.Rests s'' :=
  ⟨Nat.le_trans first.objects second.objects, second.outline.trans first.outline,
    first.stands.trans second.stands⟩

theorem Rests.infos (rests : s.Rests s') : s'.infos.length = s.infos.length := by
  have same := congrArg List.length rests.outline
  simpa only [Store.outline, List.length_map] using same

namespace Leaves

theorem refl (s : Store) : s.Leaves s := ⟨.refl s, fun _ => rfl⟩

theorem trans (first : s.Leaves s') (second : s'.Leaves s'') : s.Leaves s'' :=
  ⟨first.toRests.trans second.toRests,
    fun object => (second.attachment object).trans (first.attachment object)⟩

/-- Objects, records and buses stay as they are. -/
theorem of_stands (objects : s'.objects = s.objects) (infos : s'.infos = s.infos)
    (stands : s.Stands s') :
    s.Leaves s' where
  objects := Nat.le_of_eq (by rw [objects])
  outline := by rw [Store.outline, infos]; rfl
  stands := stands
  attachment _ := by rw [Store.attachment, objects]; rfl

theorem of_same (objects : s'.objects = s.objects) (infos : s'.infos = s.infos)
    (cells : s'.cells = s.cells) (buses : s'.buses = s.buses) : s.Leaves s' :=
  of_stands objects infos (.of_same cells buses)

theorem adjustCell {cell : CellId} {f : Cell → Cell} (same : ∀ c, (f c).bus = c.bus) :
    s.Leaves (s.adjustCell cell f) := by
  refine of_stands rfl rfl ⟨fun other c there => ?_, fun _ _ there => there⟩
  rw [Store.adjustCell, List.getElem?_modify, there]
  by_cases here : cell = other
  · exact ⟨f c, by simp [here], same c⟩
  · exact ⟨c, by simp [here], rfl⟩

theorem addCell (s : Store) (c : Cell) : s.Leaves (s.addCell c).2 :=
  of_stands rfl rfl ⟨fun _ old there =>
    ⟨old, (List.getElem?_append_left (List.getElem?_eq_some_iff.mp there).1).trans there, rfl⟩,
      fun _ _ there => there⟩

theorem adjustBus {bus : BusId} {f : Bus → Bus} (same : ∀ b, (f b).owner = b.owner) :
    s.Leaves (s.adjustBus bus f) :=
  of_stands rfl rfl ⟨fun _ c there => ⟨c, there, rfl⟩, (quiet_adjustBus same).owner⟩

theorem adjustInfo {f : Info → Info} (bus : ∀ i, (f i).bus = i.bus)
    (cells : ∀ i, (f i).cells = i.cells) :
    s.Leaves (s.adjustInfo info f) where
  objects := Nat.le_refl _
  outline := by
    refine List.ext_getElem? fun other => ?_
    simp only [Store.outline, Store.adjustInfo, List.getElem?_map, List.getElem?_modify]
    cases s.infos[other]? with
    | none => rfl
    | some i => by_cases here : info = other <;> simp [here, bus, cells]
  stands := .of_same rfl rfl
  attachment _ := rfl

theorem attachment_adjustObject {f : Obj → Obj} (other : ObjectId) :
    (s.adjustObject object f).attachment other = if object =
      other then (s.objects[other]?).bind fun o => (f o).attached else s.attachment other := by
  simp only [Store.attachment, Store.adjustObject, List.getElem?_modify]
  by_cases here : object = other
  · cases s.objects[other]? <;> simp [here]
  · cases s.objects[other]? <;> simp [here]

theorem adjustObject {f : Obj → Obj} (same : ∀ o, (f o).attached = o.attached) :
    s.Leaves (s.adjustObject object f) where
  objects := Nat.le_of_eq (length_adjustObject f).symm
  outline := rfl
  stands := .of_same rfl rfl
  attachment other := by
    rw [attachment_adjustObject]
    split
    · simp only [same]
      rfl
    · rfl

theorem addObject (s : Store) (classId : ClassId) : s.Leaves (s.addObject classId).2 where
  objects := by simp [Store.addObject]
  outline := rfl
  stands := .of_same rfl rfl
  attachment other := by
    unfold Store.attachment Store.addObject
    by_cases there : other < s.objects.length
    · rw [List.getElem?_append_left there]
    · rw [List.getElem?_append_right (Nat.le_of_not_lt there),
        List.getElem?_eq_none (Nat.le_of_not_lt there)]
      cases other - s.objects.length <;> rfl

theorem retainInfo : s.Leaves (s.retainInfo info) := adjustInfo (fun _ => rfl) fun _ => rfl

theorem releaseInfo : s.Leaves (s.releaseInfo info) := adjustInfo (fun _ => rfl) fun _ => rfl

theorem retainOwner (owner : Owner) : s.Leaves (s.retainOwner owner) := by
  cases owner with
  | actor id => exact .of_same rfl rfl rfl rfl
  | info id => exact retainInfo

theorem releaseOwner (owner : Owner) : s.Leaves (s.releaseOwner owner) := by
  cases owner with
  | actor id => exact .of_same rfl rfl rfl rfl
  | info id => exact releaseInfo

end Leaves

/-! ## Records apart -/

/-- Every record owns its bus, and its cells are on it. -/
def Apart (s : Store) : Prop :=
  ∀ info i, s.infos[info]? = some i → s.busOwner? i.bus = some (.info info) ∧
  ∀ entry ∈ i.cells, ∃ c, s.cells[entry.2]? = some c ∧ c.bus = some i.bus

theorem Apart.of_nothing (noInfos : s.infos = []) : s.Apart := by
  intro info i there
  rw [noInfos, List.getElem?_nil] at there
  cases there

/-- Records that own their buses have different ones, and no cell is in two of them. -/
theorem Apart.disjoint {one two : InfoId} {i j : Info} (apart : s.Apart) (different : one ≠ two)
    (there : s.infos[one]? = some i) (there' : s.infos[two]? = some j) :
    i.bus ≠ j.bus ∧ ∀ entry ∈ i.cells, ∀ entry' ∈ j.cells, entry.2 ≠ entry'.2 := by
  obtain ⟨owner, cells⟩ := apart one i there
  obtain ⟨owner', cells'⟩ := apart two j there'
  have buses : i.bus ≠ j.bus := by
    intro same
    rw [same, owner'] at owner
    cases owner
    exact different rfl
  refine ⟨buses, fun entry among entry' among' same => ?_⟩
  obtain ⟨c, found, on⟩ := cells entry among
  obtain ⟨d, found', on'⟩ := cells' entry' among'
  rw [same, found'] at found
  cases found
  exact buses (Option.some.inj (on.symm.trans on'))

end Store

/-- What a dealing says about the record of its object is so, given what was written down before it.
A record that is got is the one attached, or else one that was set aside for the object and was not
there when it was asked for. -/
def Dealing.Fits (s : Store) (earlier : List Dealing) : Dealing → Prop
  | .got object before info =>
    (∀ standing, attached object (s.attachment object) earlier = some standing → info = standing) ∧
    (attached object (s.attachment object) earlier = none →
      .made object info ∈ earlier ∧ before.infos.length ≤ info)
  | .refused object _ after =>
    after.attachment object = attached object (s.attachment object) earlier
  | .made _ _ | .given _ _ | .ended _ => True

/-- What the dealings of a run tell of the store behind it. -/
structure Store.Dealt (s : Store) (dealings : List Dealing) (s' : Store) : Prop where
  objects : s.objects.length ≤ s'.objects.length
  infos : s.infos.length ≤ s'.infos.length
  attachment : ∀ object, s'.attachment object =
    Dealing.attached object (s.attachment object) dealings
  fits : ∀ {earlier later dealing}, dealings = earlier ++ dealing :: later → dealing.Fits s earlier
  increasing : ((Dealing.madeOf dealings).map Prod.snd).Pairwise (· < ·)
  range : ∀ info ∈ (Dealing.madeOf dealings).map Prod.snd, s.infos.length ≤ info ∧
    info < s'.infos.length
  bus : ∀ (info : InfoId) (i : Info), s.infos[info]? = some i →
    ∃ j : Info, s'.infos[info]? = some j ∧ j.bus = i.bus
  stands : s.Stands s'
  apart : s.Apart → s'.Apart

/-- What is so of a later run is so of the whole. -/
theorem Dealing.Fits.later {s s' : Store} {earlier between : List Dealing} {dealing : Dealing}
    (fits : dealing.Fits s' between)
    (attachment : ∀ object, s'.attachment object = attached object (s.attachment object) earlier) :
    dealing.Fits s (earlier ++ between) := by
  cases dealing with
  | got object before info =>
    obtain ⟨recalled, obtained⟩ := fits
    rw [attachment] at recalled obtained
    rw [Fits, attached_append]
    exact ⟨recalled, fun vacant => ⟨List.mem_append_right _ (obtained vacant).1,
      (obtained vacant).2⟩⟩
  | refused object e after =>
    rw [Fits, attached_append, ← attachment]
    exact fits
  | made | given | ended => trivial

namespace Store

variable {s s' s'' : Store} {earlier later dealings : List Dealing} {dealing : Dealing}

/-- What has come of the records is seen in their outline. -/
theorem Rests.origin (rests : s.Rests s') (there : s'.infos[info]? = some i) :
    ∃ j : Info, s.infos[info]? = some j ∧ j.bus = i.bus ∧ j.cells = i.cells := by
  have outlined : s'.outline[info]? = some (i.bus, i.cells) := by
    rw [Store.outline, List.getElem?_map, there, Option.map_some]
  rw [rests.outline, Store.outline, List.getElem?_map] at outlined
  obtain ⟨j, found, same⟩ := Option.map_eq_some_iff.mp outlined
  obtain ⟨bus, cells⟩ := Prod.mk.inj same
  exact ⟨j, found, bus, cells⟩

theorem Rests.kept (rests : s.Rests s') (there : s.infos[info]? = some i) :
    ∃ j : Info, s'.infos[info]? = some j ∧ j.bus = i.bus := by
  have inside := (List.getElem?_eq_some_iff.mp there).1
  rw [← rests.infos] at inside
  have now : s'.infos[info]? = some s'.infos[info] := List.getElem?_eq_getElem inside
  obtain ⟨j, found, bus, -⟩ := rests.origin now
  obtain rfl : j = i := Option.some.inj (found.symm.trans there)
  exact ⟨_, now, bus.symm⟩

theorem Stands.apart_of_origin (stands : s.Stands s') (apart : s.Apart)
    (origin : ∀ (info : InfoId) (i : Info), s'.infos[info]? = some i →
      ∃ j : Info, s.infos[info]? = some j ∧ j.bus = i.bus ∧ j.cells = i.cells) : s'.Apart := by
  intro info i there
  obtain ⟨j, found, bus, cells⟩ := origin info i there
  obtain ⟨owner, on⟩ := apart info j found
  refine ⟨bus ▸ stands.owner _ _ owner, fun entry among => ?_⟩
  obtain ⟨c, was, same⟩ := on entry (cells ▸ among)
  obtain ⟨now, is, same'⟩ := stands.cell _ c was
  exact ⟨now, is, bus ▸ same'.trans same⟩

namespace Dealt

/-- Where nothing is dealt, records and objects rest. -/
theorem of_leaves (leaves : s.Leaves s') : s.Dealt [] s' where
  objects := leaves.objects
  infos := Nat.le_of_eq leaves.infos.symm
  attachment := leaves.attachment
  fits none := absurd none (by simp)
  increasing := .nil
  range _ among := absurd among List.not_mem_nil
  bus _ _ there := leaves.kept there
  stands := leaves.stands
  apart apart := leaves.stands.apart_of_origin apart fun _ _ there => leaves.origin there

/-- One run after another. -/
theorem trans (first : s.Dealt earlier s') (second : s'.Dealt later s'') :
    s.Dealt (earlier ++ later) s'' where
  objects := Nat.le_trans first.objects second.objects
  infos := Nat.le_trans first.infos second.infos
  attachment object := by rw [second.attachment, first.attachment, Dealing.attached_append]
  fits := by
    intro before behind dealing split
    rcases List.append_eq_append_iff.mp split with ⟨between, rfl, inSecond⟩ | ⟨between,
      inFirst, across⟩
    · exact (second.fits inSecond).later first.attachment
    · cases between with
      | nil =>
        obtain rfl : earlier = before := by rw [inFirst, List.append_nil]
        have begins : dealing.Fits s' [] := second.fits across.symm
        simpa using begins.later first.attachment
      | cons head rest =>
        obtain ⟨rfl, -⟩ := List.cons.inj across
        exact first.fits inFirst
  increasing := by
    rw [Dealing.madeOf_append, List.map_append, List.pairwise_append]
    refine ⟨first.increasing, second.increasing, fun a among b among' => ?_⟩
    exact Nat.lt_of_lt_of_le (first.range a among).2 (second.range b among').1
  range info among := by
    rw [Dealing.madeOf_append, List.map_append, List.mem_append] at among
    rcases among with before | behind
    · exact ⟨(first.range info before).1,
        Nat.lt_of_lt_of_le (first.range info before).2 second.infos⟩
    · exact ⟨Nat.le_trans first.infos (second.range info behind).1, (second.range info behind).2⟩
  bus info i there := by
    obtain ⟨j, found, same⟩ := first.bus info i there
    obtain ⟨k, found', same'⟩ := second.bus info j found
    exact ⟨k, found', same'.trans same⟩
  stands := first.stands.trans second.stands
  apart apart := second.apart (first.apart apart)

/-- One more dealing, which makes no record. -/
theorem followed (dealt : s.Dealt dealings s') (rests : s'.Rests s'')
    (fits : dealing.Fits s dealings) (unmade : Dealing.madeOf [dealing] = [])
    (attaches : ∀ object, s''.attachment object = dealing.attach object (s'.attachment object)) :
    s.Dealt (dealings ++ [dealing]) s'' where
  objects := Nat.le_trans dealt.objects rests.objects
  infos := Nat.le_trans dealt.infos (Nat.le_of_eq rests.infos.symm)
  attachment object := by
    rw [attaches, dealt.attachment, Dealing.attached_append]
    rfl
  fits := by
    intro before behind other split
    rcases List.append_eq_append_iff.mp split with ⟨between, rfl, last⟩ | ⟨between, inside, across⟩
    · obtain ⟨rfl, rfl⟩ : between = [] ∧ dealing = other := by
        cases between <;> simp_all
      rwa [List.append_nil]
    · cases between with
      | nil =>
        obtain rfl : dealings = before := by rw [inside, List.append_nil]
        obtain ⟨rfl, -⟩ := List.cons.inj across
        exact fits
      | cons head rest =>
        obtain ⟨rfl, -⟩ := List.cons.inj across
        exact dealt.fits inside
  increasing := by
    rw [Dealing.madeOf_append, unmade, List.append_nil]
    exact dealt.increasing
  range info among := by
    rw [Dealing.madeOf_append, unmade, List.append_nil] at among
    rw [rests.infos]
    exact dealt.range info among
  bus info i there := by
    obtain ⟨j, found, same⟩ := dealt.bus info i there
    obtain ⟨k, found', same'⟩ := rests.kept found
    exact ⟨k, found', same'.trans same⟩
  stands := dealt.stands.trans rests.stands
  apart apart := rests.stands.apart_of_origin (dealt.apart apart) fun _ _ there =>
    rests.origin there

/-- A record and its bus are set aside for an object. -/
theorem reserving (classId : ClassId) (known : object < s.objects.length) :
    s.Dealt [.made object s.infos.length] (s.reserving classId object) where
  objects := Nat.le_refl _
  infos := by simp [Store.reserving]
  attachment _ := rfl
  fits := by
    intro before behind dealing split
    obtain ⟨rfl, rfl, rfl⟩ : before = [] ∧ dealing = .made object s.infos.length ∧ behind = [] := by
      cases before <;> simp_all
    trivial
  increasing := List.pairwise_singleton _ _
  range info among := by
    obtain rfl : info = s.infos.length := List.mem_singleton.mp among
    exact ⟨Nat.le_refl _, by simp [Store.reserving]⟩
  bus info i there :=
    ⟨i, (List.getElem?_append_left (List.getElem?_eq_some_iff.mp there).1).trans there, rfl⟩
  stands := ⟨fun _ c there => ⟨c, there, rfl⟩, (quiet_reserving known).owner⟩
  apart apart := by
    intro info i there
    rcases Nat.lt_or_ge info s.infos.length with inside | outside
    · rw [Store.reserving, List.getElem?_append_left inside] at there
      obtain ⟨owner, cells⟩ := apart info i there
      exact ⟨(quiet_reserving known).owner _ _ owner, cells⟩
    · obtain ⟨rfl, rfl⟩ : info = s.infos.length ∧
          i = ⟨classId, [], [], object, false, s.buses.length, 0⟩ := by
        have next : (s.reserving classId object).infos.length = s.infos.length + 1 := by
          simp [Store.reserving]
        have last := (List.getElem?_eq_some_iff.mp there).1
        rw [next] at last
        obtain rfl : info = s.infos.length := Nat.le_antisymm (Nat.le_of_lt_succ last) outside
        rw [Store.reserving, List.getElem?_concat_length] at there
        exact ⟨rfl, (Option.some.inj there).symm⟩
      exact ⟨by simp [busOwner?, Store.reserving, Bus.ofOwner], List.forall_mem_nil _⟩

/-- A record is filled with cells that are on its bus. -/
theorem filled {f : Info → Info} (dealt : s.Dealt dealings s') (bus : ∀ i, (f i).bus = i.bus)
    (on : ∀ i : Info, s'.infos[info]? = some i → ∀ entry ∈ (f i).cells,
      ∃ c, s'.cells[entry.2]? = some c ∧ c.bus = some i.bus) :
      s.Dealt dealings (s'.adjustInfo info f) where
  objects := dealt.objects
  infos := by
    rw [length_adjustInfo]
    exact dealt.infos
  attachment := dealt.attachment
  fits := dealt.fits
  increasing := dealt.increasing
  range info among := by
    rw [length_adjustInfo]
    exact dealt.range info among
  bus other i there := by
    obtain ⟨j, found, same⟩ := dealt.bus other i there
    rw [adjustInfo, List.getElem?_modify, found]
    by_cases here : info = other
    · exact ⟨f j, by simp [here], (bus j).trans same⟩
    · exact ⟨j, by simp [here], same⟩
  stands := ⟨dealt.stands.cell, dealt.stands.owner⟩
  apart apart := by
    intro other i there
    rw [adjustInfo, List.getElem?_modify] at there
    obtain ⟨j, found, rfl⟩ := Option.map_eq_some_iff.mp there
    obtain ⟨owner, cells⟩ := dealt.apart apart other j found
    split
    · subst other
      exact ⟨(bus j).symm ▸ owner, fun entry among => (bus j).symm ▸ on j found entry among⟩
    · exact ⟨owner, cells⟩

end Dealt

end Store

/-! ## Runs -/

/-- A run from a world, with its dealings. Beside what it asks of the library about records a
program does whatever leaves them alone, in any order, and in its callbacks, validators,
declarations and sources of initial values too. -/
inductive Deals (foreign : Foreign υ) : {α : Type} → Act (World υ) α → World υ → List Dealing → Prop
  | step {α : Type} {act : Act (World υ) α} {w : World υ}
      (leaves : w.store.Leaves (act w).2.store) :
      Deals foreign act w []
  | next {α β : Type} {first : Act (World υ) α} {next : α → Act (World υ) β}
      {w after : World υ} {a : α} {earlier later : List Dealing}
      (run : Deals foreign first w earlier) (ran : first w = (.ok a, after))
      (further : Deals foreign (next a) after later) :
      Deals foreign (first >>= next) w (earlier ++ later)
  | stop {α β : Type} {first : Act (World υ) α} {next : α → Act (World υ) β}
      {w after : World υ} {e : Error} {dealings : List Dealing}
      (run : Deals foreign first w dealings) (fails : first w = (.error e, after)) :
      Deals foreign (first >>= next) w dealings
  | attempt {α : Type} {act : Act (World υ) α} {w : World υ} {dealings : List Dealing}
      (run : Deals foreign act w dealings) : Deals foreign act.attempt w dealings
  | ensure {α : Type} {act : Act (World υ) α} {w : World υ} {dealings : List Dealing}
      {last : Store → Store} (run : Deals foreign act w dealings)
      (leaves : (act w).2.store.Leaves (last (act w).2.store)) :
      Deals foreign (World.ensure act last) w dealings
  /-- The program has a record made that is not attached, or it tries to. -/
  | created {w middle : World υ} {object : ObjectId} {o : Obj} {known : ClassInfo}
      {earlier later : List Dealing} (there : w.store.objects[object]? = some o)
      (run : Deals foreign (Info.classInfo foreign o.classId) w earlier)
      (found : Info.classInfo foreign o.classId w = (.ok known, middle))
      (further : Deals foreign
        (Info.makeCells foreign middle.store.buses.length middle.store.infos.length known.columns)
        (middle.reserving o.classId object) later) :
      Deals foreign (Info.create foreign object) w
      (earlier ++ .made object middle.store.infos.length :: later)
  /-- The record of the object is asked for, and there is one. -/
  | recalled {w : World υ} {object : ObjectId} {o : Obj} {info : InfoId}
      (there : w.store.objects[object]? = some o) (attached : o.attached = some info) :
      Deals foreign (Info.ofObject foreign object) w [.got object w.store info]
  /-- It is asked for, and its class cannot be found out. -/
  | unknown {w after : World υ} {object : ObjectId} {o : Obj} {e : Error} {dealings : List Dealing}
      (there : w.store.objects[object]? = some o) (unattached : o.attached = none)
      (run : Deals foreign (Info.classInfo foreign o.classId) w dealings)
      (fails : Info.classInfo foreign o.classId w = (.error e, after)) :
      Deals foreign (Info.ofObject foreign object) w (dealings ++ [.refused object e after.store])
  /-- It is asked for, and the default of a column cannot be applied. -/
  | unfinished {w middle after : World υ} {object : ObjectId} {o : Obj}
      {known : ClassInfo} {e : Error} {earlier later : List Dealing}
      (there : w.store.objects[object]? = some o) (unattached : o.attached = none)
      (run : Deals foreign (Info.classInfo foreign o.classId) w earlier)
      (found : Info.classInfo foreign o.classId w = (.ok known, middle)) (further : Deals foreign
        (Info.makeCells foreign middle.store.buses.length middle.store.infos.length known.columns)
        (middle.reserving o.classId object) later)
      (fails : Info.makeCells foreign middle.store.buses.length middle.store.infos.length
        known.columns (middle.reserving o.classId object) = (.error e, after)) :
      Deals foreign (Info.ofObject foreign object) w
        (earlier ++ .made object middle.store.infos.length :: later ++
          [.refused object e after.store])
  /-- It is asked for and made, and then it is attached, unless another one has been meanwhile. -/
  | obtained {w middle after : World υ} {object : ObjectId} {o : Obj} {known : ClassInfo}
      {cells : List (Column × CellId)} {info : InfoId} {earlier later : List Dealing}
      (there : w.store.objects[object]? = some o) (unattached : o.attached = none)
      (run : Deals foreign (Info.classInfo foreign o.classId) w earlier)
      (found : Info.classInfo foreign o.classId w = (.ok known, middle))
      (further : Deals foreign
        (Info.makeCells foreign middle.store.buses.length middle.store.infos.length known.columns)
        (middle.reserving o.classId object) later)
      (ran : Info.makeCells foreign middle.store.buses.length middle.store.infos.length
        known.columns (middle.reserving o.classId object) = (.ok cells, after))
      (got : (Info.ofObject foreign object w).1 = .ok (some info)) :
      Deals foreign (Info.ofObject foreign object) w
        (earlier ++ .made object middle.store.infos.length :: later ++ [.got object w.store info])
  /-- The program attaches a record. -/
  | given {w : World υ} {object : ObjectId} {o : Obj} {info : InfoId}
      (there : w.store.objects[object]? = some o) :
      Deals foreign (Info.attach object info) w [.given object info]
  /-- An object without references left lets go of what it held. -/
  | ended {w : World υ} {object : ObjectId} (dead : w.store.objectAlive object = false) :
      Deals foreign (World.change
        (·.adjustObject object fun o => { o with attached := none, replaced := [] })) w
        [.ended object]

/-- The sources of initial values leave cells on their buses, and buses with their owners. -/
def Foreign.KeepsBuses (foreign : Foreign υ) : Prop :=
  ∀ source (w : World υ), w.store.Stands (foreign.initial source w).2.store

theorem Makes.stands {bus : BusId} {fresh : List Fresh} {after : World υ}
    (keeping : foreign.KeepsBuses) (makes : Makes foreign info bus w fresh after) :
    w.store.Stands after.store ∧
      ∀ f ∈ fresh, ∃ c, after.store.cells[f.cell]? = some c ∧ c.bus = some bus := by
  induction makes with
  | none w => exact ⟨.refl _, List.forall_mem_nil _⟩
  | @one w begun after column state rest begins others ih =>
    obtain ⟨stands, made⟩ := ih
    have asked : w.store.Stands begun.store := by
      rcases begins.asks with rfl | ⟨source, rfl⟩
      · exact .refl _
      · exact keeping source w
    have added := (Store.Leaves.addCell begun.store (column.cell info bus state)).stands
    refine ⟨(asked.trans added).trans stands, List.forall_mem_cons.mpr ⟨?_, made⟩⟩
    exact stands.cell _ (column.cell info bus state) List.getElem?_concat_length

namespace Store

variable {s : Store} {o : Obj}

theorem attachment_eq (there : s.objects[object]? = some o) : s.attachment object = o.attached := by
  rw [attachment, there, Option.bind_some]

theorem rests_attaching : s.Rests (s.attaching object info) := by
  have moved : s.Rests (s.adjustObject object fun o => { o with attached := some info }) :=
    ⟨Nat.le_of_eq (length_adjustObject _).symm, rfl, .of_same rfl rfl⟩
  exact moved.trans Leaves.retainInfo.toRests

theorem attachment_attaching (there : s.objects[object]? = some o) (other : ObjectId) :
    (s.attaching object info).attachment other =
      if object = other then some info else s.attachment other := by
  rw [attaching, Leaves.retainInfo.attachment, Leaves.attachment_adjustObject]
  split
  · subst other
    rw [there, Option.bind_some]
  · rfl

/-- What attaching a record does beside attaching it leaves the records attached. -/
theorem Attaches.leaves {s' : Store} (attaches : s.Attaches object info o s') :
    (s.attaching object info).Leaves s' := by
  cases attaches with
  | vacant => exact .refl _
  | kept => exact .adjustObject fun _ => rfl
  | dropped => exact .releaseInfo

namespace Dealt

variable {middle : World υ} {known : ClassInfo} {earlier later : List Dealing}

theorem refl (s : Store) : s.Dealt [] s := of_leaves (.refl s)

/-- A record is set aside, and made if all its cells are. -/
theorem created (keeping : foreign.KeepsBuses) (there : w.store.objects[object]? = some o)
    (found : Info.classInfo foreign o.classId w = (.ok known, middle))
    (first : w.store.Dealt earlier middle.store)
    (second : (middle.reserving o.classId object).store.Dealt later
      (Info.makeCells foreign middle.store.buses.length middle.store.infos.length known.columns
        (middle.reserving o.classId object)).2.store) :
    w.store.Dealt (earlier ++ .made object middle.store.infos.length :: later)
      (Info.create foreign object w).2.store := by
  have inside := Nat.lt_of_lt_of_le (List.getElem?_eq_some_iff.mp there).1 first.objects
  have set_aside := first.trans ((reserving o.classId inside).trans second)
  rcases ran : Info.makeCells foreign middle.store.buses.length middle.store.infos.length
    known.columns
    (middle.reserving o.classId object) with ⟨e | cells, after⟩
  · rw [Info.create_of_unfinished there found ran]
    rwa [ran] at set_aside
  · rw [Info.create_of_made there found ran]
    rw [ran] at set_aside second
    refine set_aside.filled (fun _ => rfl) fun i now => ?_
    obtain ⟨j, found, bus⟩ := second.bus _ _ List.getElem?_concat_length
    obtain rfl : j = i := Option.some.inj (found.symm.trans now)
    obtain ⟨fresh, makes, -, rfl⟩ := Info.makeCells_eq_ok_iff.mp ran
    intro entry among
    obtain ⟨f, fresh, rfl⟩ := List.mem_map.mp among
    obtain ⟨c, made, on⟩ := (makes.stands keeping).2 f fresh
    exact ⟨c, made, on.trans (congrArg some bus.symm)⟩

/-- A record is made and attached, unless another one has been meanwhile. -/
theorem obtained {after : World υ} {made : InfoId} {dealings : List Dealing}
    (there : w.store.objects[object]? = some o) (unattached : o.attached = none)
    (ran : Info.create foreign object w = (.ok (some made), after))
    (dealt : w.store.Dealt dealings after.store) (among : .made object made ∈ dealings)
    (got : (Info.ofObject foreign object w).1 = .ok (some info)) :
    w.store.Dealt (dealings ++ [.got object w.store info])
      (Info.ofObject foreign object w).2.store := by
  have inside := Nat.lt_of_lt_of_le (List.getElem?_eq_some_iff.mp there).1 dealt.objects
  have still : after.store.objects[object]? = some after.store.objects[object] :=
    List.getElem?_eq_getElem inside
  have standing := attachment_eq still
  cases attached : after.store.objects[object].attached with
  | some meanwhile =>
    rw [attached] at standing
    have forestalled := Info.ofObject_of_forestalled there unattached ran still attached
    rw [forestalled] at got ⊢
    obtain rfl : meanwhile = info := by simpa using got
    have leaves : after.store.Leaves ((after.store.releaseInfo made).retainInfo meanwhile) :=
      .trans .releaseInfo .retainInfo
    refine dealt.followed leaves.toRests ⟨?_, ?_⟩ rfl fun other => ?_
    · intro before same
      exact Option.some.inj (standing.symm.trans ((dealt.attachment object).trans same))
    · intro vacant
      cases standing.symm.trans ((dealt.attachment object).trans vacant)
    · rw [leaves.attachment, Dealing.attach]
      split
      · subst other
        rw [standing, Option.getD_some]
      · rfl
  | none =>
    rw [attached] at standing
    have introduced := Info.ofObject_of_introduced there unattached ran still attached
    rw [introduced] at got ⊢
    obtain rfl : made = info := by simpa using got
    refine dealt.followed rests_attaching ⟨?_, fun _ => ⟨among, ?_⟩⟩ rfl fun other => ?_
    · intro before same
      cases standing.symm.trans ((dealt.attachment object).trans same)
    · exact (dealt.range made (List.mem_map.mpr ⟨_, Dealing.mem_madeOf.mpr among, rfl⟩)).1
    · rw [attachment_attaching still, Dealing.attach]
      split
      · subst other
        rw [standing, Option.getD_none]
      · rfl

end Dealt

end Store

/-- What is written down of a run tells of its end. -/
theorem Deals.dealt {act : Act (World υ) α} {dealings : List Dealing} (keeping : foreign.KeepsBuses)
    (run : Deals foreign act w dealings) : w.store.Dealt dealings (act w).2.store := by
  induction run with
  | step leaves => exact .of_leaves leaves
  | next run ran further first second =>
    rw [ran] at first
    rw [Act.bind_of_ok _ _ _ _ _ ran]
    exact first.trans second
  | stop run fails ih =>
    rw [fails] at ih
    rwa [Act.bind_of_error _ _ _ _ _ fails]
  | attempt run ih => rwa [Act.attempt_state]
  | ensure run leaves ih =>
    have whole := ih.trans (.of_leaves leaves)
    rwa [List.append_nil] at whole
  | created there run found further first second =>
    rw [found] at first
    exact .created keeping there found first second
  | @recalled w object o info there attached =>
    rw [Info.ofObject_of_attached there attached]
    have standing : w.store.attachment object = some info :=
      (Store.attachment_eq there).trans attached
    refine (Store.Dealt.refl w.store).followed Store.Leaves.retainInfo.toRests ⟨?_,
      ?_⟩ rfl fun other => ?_
    · intro other same
      exact Option.some.inj (standing.symm.trans same)
    · intro vacant
      cases standing.symm.trans vacant
    · rw [Store.Leaves.retainInfo.attachment, Dealing.attach]
      split
      · subst other
        rw [standing, Option.getD_some]
      · rfl
  | @unknown w after object o e dealings there unattached run fails ih =>
    rw [fails] at ih
    rw [Info.ofObject_of_refused there unattached (Info.create_of_unknown there fails)]
    exact ih.followed (.refl _) (ih.attachment object) rfl fun _ => rfl
  | unfinished there unattached run found further fails first second =>
    rw [found] at first
    have made := Store.Dealt.created keeping there found first second
    have stopped := Info.create_of_unfinished there found fails
    rw [stopped] at made
    rw [Info.ofObject_of_refused there unattached stopped]
    exact made.followed (.refl _) (made.attachment _) rfl fun _ => rfl
  | obtained there unattached run found further ran got first second =>
    rw [found] at first
    have made := Store.Dealt.created keeping there found first second
    have finished := Info.create_of_made there found ran
    rw [finished] at made
    exact .obtained there unattached finished made (List.mem_append_right _ List.mem_cons_self) got
  | @given w object o info there =>
    have attaches : w.store.Attaches object info o _ := Info.attach_attaches there
    refine (Store.Dealt.refl w.store).followed (Store.rests_attaching.trans attaches.leaves.toRests)
      trivial rfl
      fun other => ?_
    rw [attaches.leaves.attachment, Store.attachment_attaching there]
    rfl
  | @ended w object dead =>
    refine (Store.Dealt.refl w.store).followed ⟨?_, rfl, .of_same rfl rfl⟩ trivial
      rfl fun other => ?_
    · exact Nat.le_of_eq (Store.length_adjustObject _).symm
    · rw [World.change, Store.Leaves.attachment_adjustObject]
      simp only [Dealing.attach]
      cases w.store.objects[other]? <;> rfl

end RowMapper
