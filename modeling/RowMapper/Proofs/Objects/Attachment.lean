import RowMapper.Proofs.Objects.Interference
import RowMapper.Proofs.Objects.Requests
/-!
Objects and their records. An object that is asked for its record always gives the same one, until
it is given another. The records of different objects have nothing in common, so that what is
assigned to the cells of one is neither seen in the cells of the other nor told to its hooks.
-/

set_option autoImplicit false

namespace RowMapper

variable {υ α : Type} {foreign : Foreign υ} {w : World υ} {object : ObjectId}
    {info one two : InfoId} {i j : Info} {dealings : List Dealing}

namespace Dealing

/-- The object is given no record, and does not end. -/
def Keeps (object : ObjectId) (dealings : List Dealing) : Prop :=
  (∀ info, .given object info ∉ dealings) ∧ .ended object ∉ dealings

/-- The object is given no record, and no record of it is got. -/
def Vacant (object : ObjectId) (dealings : List Dealing) : Prop :=
  (∀ info, .given object info ∉ dealings) ∧ ∀ before info, .got object before info ∉ dealings

theorem attached_of_keeps (keeps : Keeps object dealings) :
    attached object (some info) dealings = some info := by
  induction dealings with
  | nil => rfl
  | cons dealing rest ih =>
    obtain ⟨ungiven, unended⟩ := keeps
    have stays : attach object (some info) dealing = some info := by
      cases dealing with
      | made | refused => rfl
      | got other before again => simp [attach]
      | given other again =>
        have elsewhere : other ≠ object := by
          rintro rfl
          exact ungiven again List.mem_cons_self
        rw [attach, if_neg elsewhere]
      | ended other =>
        have elsewhere : other ≠ object := by
          rintro rfl
          exact unended List.mem_cons_self
        rw [attach, if_neg elsewhere]
    rw [attached, List.foldl_cons, stays]
    exact ih ⟨fun info among => ungiven info (.tail _ among), fun among => unended (.tail _ among)⟩

theorem attached_of_vacant (vacant : Vacant object dealings) :
    attached object none dealings = none := by
  induction dealings with
  | nil => rfl
  | cons dealing rest ih =>
    obtain ⟨ungiven, ungot⟩ := vacant
    have stays : attach object none dealing = none := by
      cases dealing with
      | made | refused => rfl
      | ended other => simp [attach]
      | given other again =>
        have elsewhere : other ≠ object := by
          rintro rfl
          exact ungiven again List.mem_cons_self
        rw [attach, if_neg elsewhere]
      | got other before again =>
        have elsewhere : other ≠ object := by
          rintro rfl
          exact ungot before again List.mem_cons_self
        rw [attach, if_neg elsewhere]
    rw [attached, List.foldl_cons, stays]
    exact ih ⟨fun info among => ungiven info (.tail _ among), fun before info among =>
      ungot before info (.tail _ among)⟩

/-- A request that fails leaves the object without a record. -/
theorem Vacant.refused {earlier later : List Dealing} (sooner : Vacant object earlier)
    (behind : Vacant object later) (other : ObjectId) (e : Error) (after : Store) :
    Vacant object (earlier ++ .refused other e after :: later) := by
  refine ⟨fun info among => ?_, fun before info among => ?_⟩
  · rcases List.mem_append.mp among with before | rest
    · exact sooner.1 info before
    · exact behind.1 info ((List.mem_cons.mp rest).resolve_left nofun)
  · rcases List.mem_append.mp among with earlier | rest
    · exact sooner.2 before info earlier
    · exact behind.2 before info ((List.mem_cons.mp rest).resolve_left nofun)

inductive Attaches (object : ObjectId) (info : InfoId) : Dealing → Prop
  | given : Attaches object info (.given object info)
  | got (before : Store) : Attaches object info (.got object before info)

theorem Attaches.attach_eq {s : Store} {earlier : List Dealing} {dealing : Dealing}
    (attaches : dealing.Attaches object info) (fits : dealing.Fits s earlier) :
    attach object (attached object (s.attachment object) earlier) dealing = some info := by
  cases attaches with
  | given => simp [attach]
  | got before =>
    cases standing : attached object (s.attachment object) earlier with
    | none => simp [attach]
    | some was =>
      obtain rfl := fits.1 was standing
      simp [attach]

theorem made_injective (increasing : ((madeOf dealings).map Prod.snd).Pairwise (· < ·))
    {first second : ObjectId} (made : .made first info ∈ dealings)
    (made' : .made second info ∈ dealings) : first = second := by
  have distinct : ((madeOf dealings).map Prod.snd).Nodup := increasing.imp Nat.ne_of_lt
  have same := List.inj_on_of_nodup_map distinct (mem_madeOf.mpr made) (mem_madeOf.mpr made') rfl
  exact congrArg Prod.fst same

end Dealing

/-! ## Independent records -/

/-- Two records have nothing in common. An assignment to a cell of the first one changes no cell of
the second one, and calls hooks for the first one alone, but for what the callbacks and the
validators do themselves. -/
structure World.Independent (foreign : Foreign υ) (w : World υ) (one two : InfoId) (i j : Info) :
    Prop where
  different : one ≠ two
  first : w.store.infos[one]? = some i
  second : w.store.infos[two]? = some j
  buses : i.bus ≠ j.bus
  owners : w.store.busOwner? i.bus = some (.info one) ∧ w.store.busOwner? j.bus = some (.info two)
  cells : ∀ entry ∈ i.cells, ∀ entry' ∈ j.cells, entry.2 ≠ entry'.2
  /-- Cells stay as they are in every world, if callbacks and validators leave them so. -/
  spares :
    (∀ callback owner args, Spares (· ∈ j.cells.map Prod.snd) (foreign.call callback owner args)) →
    (∀ rule context subject v,
      Spares (· ∈ j.cells.map Prod.snd) (foreign.validate rule context subject v)) →
    ∀ entry ∈ i.cells, ∀ a source,
    Spares (· ∈ j.cells.map Prod.snd) (Cell.set foreign entry.2 a source)
  /-- Every hook that is called is called for the first record. -/
  heard : foreign.Discreet → ∀ entry ∈ i.cells, ∀ a source,
    HeardBy (.info one) (Cell.set foreign.noting entry.2 a source (w.hearing [])).2

theorem Store.Apart.independent (apart : w.store.Apart) (different : one ≠ two)
    (first : w.store.infos[one]? = some i) (second : w.store.infos[two]? = some j) :
    w.Independent foreign one two i j := by
  obtain ⟨owner, on⟩ := apart one i first
  obtain ⟨buses, cells⟩ := apart.disjoint different first second
  refine ⟨different, first, second, buses, ⟨owner, (apart two j second).1⟩, cells, ?_, ?_⟩
  · intro calls rules entry among a source
    refine .set (fun shared => ?_) calls rules a source
    obtain ⟨entry', among', same⟩ := List.mem_map.mp shared
    exact cells entry among entry' among' same.symm
  · intro discreet entry among a source
    exact .set discreet a source (w.hearing []) ⟨on entry among, owner, List.forall_mem_nil _⟩

/-- Every object that is asked for its record in a run gives the one that was attached to it last,
which is the one given to it last, or else the one that was made when it was first asked for. If
making a record fails, nothing is attached, and the next request makes another one. The records that
are made for different objects are independent of each other. -/
theorem records_stay_with_their_objects {act : Act (World υ) α} (keeping : foreign.KeepsBuses)
    (run : Deals foreign act w dealings) (noObjects : w.store.objects = [])
    (noInfos : w.store.infos = []) :
    (∀ object info earlier attaching between before got later,
      Dealing.Attaches object info attaching →
        dealings = earlier ++ attaching :: (between ++ .got object before got :: later) →
      Dealing.Keeps object between → got = info) ∧
    (∀ object info earlier before later, dealings = earlier ++ .got object before info :: later →
      Dealing.Vacant object earlier → .made object info ∈ earlier ∧ before.infos.length ≤ info) ∧
    (∀ object e earlier after later, dealings = earlier ++ .refused object e after :: later →
      Dealing.Vacant object earlier → after.attachment object = none ∧
        ∀ between before info behind, later = between ++ .got object before info :: behind →
          Dealing.Vacant object between →
          .made object info ∈ earlier ++ between ∧ before.infos.length ≤ info) ∧
    (∀ first second one two, .made first one ∈ dealings → .made second two ∈ dealings →
      first ≠ second → ∃ i j, (act w).2.Independent foreign one two i j) := by
  have dealt := run.dealt keeping
  have nothing (object : ObjectId) : w.store.attachment object = none := by
    rw [Store.attachment, noObjects, List.getElem?_nil, Option.bind_none]
  have afresh (object : ObjectId) (info : InfoId) (earlier : List Dealing) (before : Store)
      (later : List Dealing)
      (split : dealings = earlier ++ .got object before info :: later)
        (vacant : Dealing.Vacant object earlier) :
      .made object info ∈ earlier ∧ before.infos.length ≤ info := by
    refine (dealt.fits split).2 ?_
    rw [nothing]
    exact Dealing.attached_of_vacant vacant
  refine ⟨?_, afresh, ?_, ?_⟩
  · intro object info earlier attaching between before got later attaches split keeps
    have settled := attaches.attach_eq (dealt.fits split)
    have again : dealings = (earlier ++ attaching :: between) ++ .got object before
        got :: later := by
      rw [split, List.append_assoc, List.cons_append]
    refine (dealt.fits again).1 info ?_
    rw [Dealing.attached_append, Dealing.attached, List.foldl_cons, settled]
    exact Dealing.attached_of_keeps keeps
  · intro object e earlier after later split vacant
    refine ⟨?_, fun between before info behind inside vacant' => ?_⟩
    · have standing : after.attachment object = _ := dealt.fits split
      rw [standing, nothing]
      exact Dealing.attached_of_vacant vacant
    · have again : dealings = (earlier ++ .refused object e after :: between) ++ .got object before
          info :: behind := by
        rw [split, inside, List.append_assoc, List.cons_append]
      obtain ⟨made, fresh⟩ :=
        afresh object info _ before behind again (vacant.refused vacant' object e after)
      refine ⟨?_, fresh⟩
      simpa using made
  · intro first second one two made made' apart
    have different : one ≠ two := by
      rintro rfl
      exact apart (Dealing.made_injective dealt.increasing made made')
    have there {object : ObjectId} {info : InfoId} (made : .made object info ∈ dealings) :
        (act w).2.store.infos[info]? = some _ :=
      List.getElem?_eq_getElem
        (dealt.range info (List.mem_map.mpr ⟨_, Dealing.mem_madeOf.mpr made, rfl⟩)).2
    exact ⟨_, _, (dealt.apart (.of_nothing noInfos)).independent different (there made)
      (there made')⟩

def noteColumn : Column := ⟨0, "text", none, 0, { allowNull := false, initial := some 0 }⟩

/-- A source that gives null when it is first asked, and then a text. -/
def hesitant : Foreign Nat where
  call _ _ _ := pure .keep
  validate _ _ _ v := pure v
  initial _ w := (if w.user = 0 then .null else .value (.text "new"), { w with user := w.user + 1 })
  declared _ w := (⟨"Note", ⟨"notes"⟩, [noteColumn], some ["text"], []⟩, w)

theorem hesitant_orderly : hesitant.Orderly where
  call _ _ _ := .pure Flow.keep
  validate _ _ _ v := .pure v
  initial _ := .of_leaves fun w => .refl w.store
  declared _ := .of_leaves fun w => .refl w.store

/-- Two objects are asked for their records, of which the first one is refused at first. Then it is
given another, and the record that it had is still there to be assigned to. -/
def handling : Act (World Nat) Unit := do
  World.change fun s => ((s.addObject 0).2.addObject 0).2
  let _ ← (Info.ofObject hesitant 0).attempt
  let _ ← Info.ofObject hesitant 0
  let _ ← Info.ofObject hesitant 1
  Info.attach 0 2
  let _ ← Info.ofObject hesitant 0
  Cell.set hesitant 0 (.value (.text "old")) .program

def noteInfo (object : ObjectId) (bus : BusId) (cells : List CellId) (references : Nat) : Info :=
  ⟨0, cells.map fun cell => (noteColumn, cell), cells, object, false, bus, references⟩

/-- A world with two objects, in which the source has been asked so often, and the cells belong to
these records. -/
def notes (asked : Nat) (made : List InfoId) (infos : List Info) (first second : Obj) :
    World Nat where
  store :=
    { cells := made.map fun info => noteColumn.cell info info ⟨none, .value (.text "new")⟩
      buses := infos.map fun i => .ofOwner (.info i.bus)
      actors := []
      infos
      objects := [first, second]
      classes := Dict.empty.insert 0 ⟨"Note", ⟨"notes"⟩, [noteColumn], [noteColumn], [0], []⟩ }
  user := asked

theorem handling_deals : ∃ after first second again later, Deals hesitant handling ⟨.empty, 0⟩
    ([.made 0 0, .refused 0 (.nullNotAllowed (some "text")) after, .made 0 1,
      .got 0 first 1, .made 1 2, .got 1 second 2, .given 0 2, .got 0 again 2] ++ later) := by
  let born : World Nat := ⟨((Store.empty.addObject 0).2.addObject 0).2, 0⟩
  let known : World Nat := notes 0 [] [] ⟨0, 1, none, []⟩ ⟨0, 1, none, []⟩
  let refused := notes 1 [] [noteInfo 0 0 [] 0] ⟨0, 1, none, []⟩ ⟨0, 1, none, []⟩
  let met := notes 2 [1] [noteInfo 0 0 [] 0, noteInfo 0 1 [0] 2] ⟨0, 1, some 1, []⟩ ⟨0, 1, none, []⟩
  let both := notes 3 [1, 2] [noteInfo 0 0 [] 0, noteInfo 0 1 [0] 2, noteInfo 1 2 [1] 2] ⟨0,
    1, some 1, []⟩
    ⟨0, 1, some 2, []⟩
  let swapped (references : Nat) := notes 3 [1, 2]
    [noteInfo 0 0 [] 0, noteInfo 0 1 [0] 2, noteInfo 1 2 [1] references] ⟨0, 1, some 2, [1]⟩ ⟨0,
      1, some 2, []⟩
  have adds : Deals hesitant (World.change fun s => ((s.addObject 0).2.addObject 0).2)
      ⟨.empty, 0⟩ [] :=
    .step ((Store.Leaves.addObject _ 0).trans (.addObject _ 0))
  have found : Info.classInfo hesitant 0 born =
      (.ok ⟨"Note", ⟨"notes"⟩, [noteColumn], [noteColumn], [0], []⟩, known) := rfl
  have refuses : Deals hesitant (Info.ofObject hesitant 0) born
      ([] ++ .made 0 known.store.infos.length :: [] ++
        [.refused 0 (.nullNotAllowed (some "text")) refused.store]) :=
    .unfinished rfl rfl (.step (.of_same rfl rfl rfl rfl)) found
      (.step (.of_same rfl rfl rfl rfl)) rfl
  have failed : (Info.ofObject hesitant 0).attempt born =
      (.ok (.error (.nullNotAllowed (some "text"))), refused) := rfl
  have meets : Deals hesitant (Info.ofObject hesitant 0) refused
      ([] ++ .made 0 refused.store.infos.length :: [] ++ [.got 0 refused.store 1]) :=
    .obtained rfl rfl (.step (.of_same rfl rfl rfl rfl)) rfl (.step (.addCell _ _)) rfl rfl
  have ran : Info.ofObject hesitant 0 refused = (.ok (some 1), met) := rfl
  have meets' : Deals hesitant (Info.ofObject hesitant 1) met
      ([] ++ .made 1 met.store.infos.length :: [] ++ [.got 1 met.store 2]) :=
    .obtained rfl rfl (.step (.of_same rfl rfl rfl rfl)) rfl (.step (.addCell _ _)) rfl rfl
  have ran' : Info.ofObject hesitant 1 met = (.ok (some 2), both) := rfl
  have gives : Deals hesitant (Info.attach 0 2) both [.given 0 2] := .given rfl
  have gave : Info.attach 0 2 both = (.ok (), swapped 3) := rfl
  have asks : Deals hesitant (Info.ofObject hesitant 0) (swapped 3) [.got 0 (swapped 3).store 2] :=
    .recalled rfl rfl
  have ran'' : Info.ofObject hesitant 0 (swapped 3) = (.ok (some 2), swapped 4) := rfl
  obtain ⟨later, assigns⟩ :=
    Orderly.set hesitant_orderly 0 (.value (.text "old")) .program (swapped 4)
  refine ⟨refused.store, refused.store, met.store, (swapped 3).store, later, ?_⟩
  exact adds.next rfl (.next (.attempt refuses) failed
    (.next meets ran (.next meets' ran' (.next gives gave (.next asks ran'' assigns)))))

/-- A record is refused, made afresh and got, and then the one that was given. An assignment to a
cell of the first record calls no hooks of the second one. -/
theorem handled_records_stay : ∃ after first second again later, Deals hesitant handling ⟨.empty, 0⟩
    ([.made 0 0, .refused 0 (.nullNotAllowed (some "text")) after, .made 0 1,
      .got 0 first 1, .made 1 2, .got 1 second 2, .given 0 2, .got 0 again 2] ++ later) ∧
    after.attachment 0 = none ∧ first.infos.length ≤ 1 ∧
    ∃ i j, (handling ⟨.empty, 0⟩).2.Independent hesitant 1 2 i j ∧
      ∀ a source, HeardBy (.info 1)
      (Cell.set hesitant.noting 0 a source ((handling ⟨.empty, 0⟩).2.hearing [])).2 := by
  obtain ⟨after, first, second, again, later, run⟩ := handling_deals
  have keeping : hesitant.KeepsBuses := fun _ _ => .refl _
  have discreet : hesitant.Discreet := ⟨fun _ _ _ _ _ => .refl _, fun _ _ _ _ _ _ shared => shared⟩
  obtain ⟨-, -, refused, apart⟩ := records_stay_with_their_objects keeping run rfl rfl
  have vacant (info : InfoId) : Dealing.Vacant 0 [.made 0 info] := by simp [Dealing.Vacant]
  obtain ⟨unattached, afresh⟩ := refused 0 _ [.made 0 0] _ _ rfl (vacant 0)
  obtain ⟨-, fresh⟩ := afresh [.made 0 1] _ _ _ rfl (vacant 1)
  obtain ⟨i, j, independent⟩ := apart 0 1 1 2 (by simp) (by simp) (by simp)
  have there : (handling ⟨.empty, 0⟩).2.store.infos[1]? = some (noteInfo 0 1 [0] 2) := rfl
  obtain rfl : noteInfo 0 1 [0] 2 = i := Option.some.inj (there.symm.trans independent.first)
  refine ⟨after, first, second, again, later, run, unattached, fresh, _, j, independent,
    fun a source => ?_⟩
  exact independent.heard discreet (noteColumn, 0) List.mem_cons_self a source

end RowMapper
