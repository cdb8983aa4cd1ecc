import RowMapper.Proofs.Objects.Dealings
import RowMapper.Proofs.Objects.Runs
/-!
Requests are runs. Whatever a program asks of the library is a run with its dealings, as long as the
code that the program brings is: assignments to cells and reads of them, the events that they emit,
the records that are asked for, attached and made to observe objects, and the ends of objects.
-/

set_option autoImplicit false

namespace RowMapper

variable {υ α β : Type} {foreign : Foreign υ} {w : World υ}

namespace Info

variable {object : ObjectId} {o : Obj}

theorem ofObject_of_absent (absent : w.store.objects[object]? = none) :
    ofObject foreign object w = (.ok none, w) := by
  have nothing : create foreign object w = (.ok none, w) := by
    rw [create, World.read_bind, absent]
    rfl
  rw [ofObject, World.read_bind, absent, Option.bind_none]
  exact Act.bind_of_ok _ _ _ _ _ nothing

/-- If a record can be made, the object gets one. -/
theorem exists_ofObject {after : World υ} {made : InfoId}
    (there : w.store.objects[object]? = some o) (unattached : o.attached = none)
    (ran : create foreign object w = (.ok (some made), after)) :
    ∃ info, (ofObject foreign object w).1 = .ok (some info) := by
  rw [ofObject_of_unattached there unattached, Act.bind_of_ok _ _ _ _ _ ran]
  simp only
  rw [World.read_bind]
  cases (after.store.objects[object]?).bind Obj.attached with
  | none => exact ⟨made, rfl⟩
  | some info => exact ⟨info, rfl⟩

end Info

namespace Deals

theorem reading {f : Store → α} {next : α → Act (World υ) β} {dealings : List Dealing}
    (further : Deals foreign (next (f w.store)) w dealings) :
    Deals foreign (World.read f >>= next) w dealings :=
  .next (.step (.refl w.store)) rfl further

theorem changing {f : Store → Store} {next : Unit → Act (World υ) β} {dealings : List Dealing}
    (leaves : w.store.Leaves (f w.store))
    (further : Deals foreign (next ()) { w with store := f w.store } dealings) :
    Deals foreign (World.change f >>= next) w dealings :=
  .next (.step leaves) rfl further

end Deals

/-- From every world the program is a run. -/
def Orderly (foreign : Foreign υ) (act : Act (World υ) α) : Prop :=
  ∀ w, ∃ dealings, Deals foreign act w dealings

/-- The code that a program brings is a run whenever it is asked. -/
structure Foreign.Orderly (foreign : Foreign υ) : Prop where
  call : ∀ callback owner args, RowMapper.Orderly foreign (foreign.call callback owner args)
  validate : ∀ rule context subject v,
    RowMapper.Orderly foreign (foreign.validate rule context subject v)
  initial : ∀ source, RowMapper.Orderly foreign (Act.update (foreign.initial source))
  declared : ∀ classId, RowMapper.Orderly foreign (Act.update (foreign.declared classId))

namespace Orderly

/-! ## Programs made of programs -/

theorem of_leaves {act : Act (World υ) α} (leaves : ∀ w : World υ, w.store.Leaves (act w).2.store) :
    Orderly foreign act :=
  fun w => ⟨[], .step (leaves w)⟩

theorem lift (result : Except Error α) : Orderly foreign (Act.lift result) :=
  of_leaves fun w => .refl w.store

theorem pure (a : α) : Orderly foreign (Pure.pure a) := lift (.ok a)

theorem read (f : Store → α) : Orderly foreign (World.read f) := of_leaves fun w => .refl w.store

theorem change {f : Store → Store} (leaves : ∀ s : Store, s.Leaves (f s)) :
    Orderly foreign (World.change f) :=
  of_leaves fun w => leaves w.store

theorem update {f : Store → α × Store} (leaves : ∀ s : Store, s.Leaves (f s).2) :
    Orderly foreign (World.update f) :=
  of_leaves fun w => leaves w.store

theorem bind {first : Act (World υ) α} {next : α → Act (World υ) β} (head : Orderly foreign first)
    (tail : ∀ a, Orderly foreign (next a)) : Orderly foreign (first >>= next) := by
  intro w
  obtain ⟨earlier, run⟩ := head w
  rcases ran : first w with ⟨e | a, after⟩
  · exact ⟨earlier, .stop run ran⟩
  · obtain ⟨later, further⟩ := tail a after
    exact ⟨earlier ++ later, .next run ran further⟩

theorem attempt {act : Act (World υ) α} (orderly : Orderly foreign act) :
    Orderly foreign act.attempt := by
  intro w
  obtain ⟨dealings, run⟩ := orderly w
  exact ⟨dealings, .attempt run⟩

theorem ensure {act : Act (World υ) α} {last : Store → Store} (orderly : Orderly foreign act)
    (leaves : ∀ s : Store, s.Leaves (last s)) : Orderly foreign (World.ensure act last) := by
  intro w
  obtain ⟨dealings, run⟩ := orderly w
  exact ⟨dealings, .ensure run (leaves _)⟩

theorem branch {p : Prop} [Decidable p] {first second : Act (World υ) α}
    (whenTrue : Orderly foreign first) (whenFalse : Orderly foreign second) :
    Orderly foreign (if p then first else second) := by
  split
  · exact whenTrue
  · exact whenFalse

/-! ## Cells apart -/

theorem changeState (id : CellId) (f : CellState → CellState) :
    Orderly foreign (Cell.changeState id f) :=
  change fun _ => .adjustCell fun _ => rfl

theorem takeLazy (id : CellId) : Orderly foreign (Cell.takeLazy id) := by
  refine bind (read _) fun found => ?_
  cases found with
  | none => exact pure false
  | some c => exact bind (changeState id _) fun _ => pure _

theorem content (id : CellId) (default : Option Value) (target : Side) :
    Orderly foreign (Cell.content id default target) := by
  refine bind (read _) fun found => ?_
  cases found with
  | none => exact pure default
  | some c =>
    obtain ⟨kind, allowNull, column, bus, validator, ⟨waiting, slot⟩, baseline⟩ := c
    cases slot with
    | undefined => exact pure default
    | null => exact pure none
    | value v => exact lift _

theorem setCheckpoint (id : CellId) : Orderly foreign (Cell.setCheckpoint id) :=
  change fun _ => .adjustCell fun _ => rfl

theorem copy (id : CellId) : Orderly foreign (Cell.copy id) := by
  refine update fun s => ?_
  cases s.cells[id]? with
  | none => exact .refl s
  | some c => exact .addCell s c.detached

theorem build (kind : Kind) (allowNull : Bool) (column : Option Column) (bus : Option BusId)
    (validator : Option Validator) (first : Option (Assignment × Side)) :
    Orderly foreign (Cell.build kind allowNull column bus validator first) :=
  bind (lift _) fun _ => update fun s => .addCell s _

section

variable (brought : foreign.Orderly)

include brought

/-! ## Events -/

theorem callAll (bus : BusId) (name : String) (owner : Owner) (args : List Arg)
    (hooks : List Hook) :
    Orderly foreign (Bus.callAll foreign bus name owner args hooks) := by
  induction hooks with
  | nil => exact pure ()
  | cons hook rest ih =>
    refine bind (brought.call _ _ _) fun flow => branch (bind (change fun s => ?_) fun _ => ih) ih
    exact .adjustBus fun b => b.owner_unhook name hook

theorem emit (bus : BusId) (name : String) (args : List Arg) :
    Orderly foreign (Bus.emit foreign bus name args) := by
  refine bind (read _) fun found => ?_
  cases found with
  | none => exact pure ()
  | some b =>
    refine bind (read _) fun alive => branch ?_ (pure ())
    cases b.hooks.get? name with
    | none => exact pure ()
    | some hooks =>
      exact bind (change fun _ => .retainOwner b.owner) fun _ =>
        ensure (callAll brought bus name b.owner args hooks) fun _ => .releaseOwner b.owner

theorem announce (bus : Option BusId) (name : String) (args : List Arg) :
    Orderly foreign (Cell.announce foreign bus name args) := by
  cases bus with
  | none => exact pure ()
  | some bus => exact emit brought bus name args

/-! ## Ends of objects -/

theorem notify (info : InfoId) : Orderly foreign (Obj.notify foreign info) := by
  refine bind (read _) fun found => ?_
  cases found with
  | none => exact pure ()
  | some i =>
    refine bind (read _) fun alive => branch (bind (change fun _ => ?_) fun _ => ?_) (pure ())
    · exact .adjustInfo (fun _ => rfl) fun _ => rfl
    · refine bind (read _) fun found => ?_
      cases found with
      | none => exact pure ()
      | some i => exact emit brought i.bus Obj.deletedEvent []

theorem notifyAll (infos : List InfoId) : Orderly foreign (Obj.notifyAll foreign infos) := by
  induction infos with
  | nil => exact pure ()
  | cons info rest ih =>
    exact bind (attempt (notify brought info)) fun _ =>
      bind (change fun _ => .releaseInfo) fun _ => ih

/-- Dropping a reference to an object is a run. With the last one the object lets go of what it
held. -/
theorem release (object : ObjectId) : Orderly foreign (Obj.release foreign object) := by
  intro w
  have drops : w.store.Leaves
      (w.store.adjustObject object fun o => { o with references := o.references - 1 }) :=
    .adjustObject fun _ => rfl
  unfold Obj.release
  generalize (fun o : Obj => { o with references := o.references - 1 }) = dropping at drops
  cases there : (w.store.adjustObject object dropping).objects[object]? with
  | none =>
    refine ⟨[], .changing drops (.reading ?_)⟩
    simp only [there]
    exact .step (.refl _)
  | some o =>
    by_cases last : o.references = 0
    · have dead : (w.store.adjustObject object dropping).objectAlive object = false := by
        rw [Store.objectAlive_eq there, decide_eq_false_iff_not, not_not, last]
      obtain ⟨dealings, tells⟩ := notifyAll brought (o.attached.toList ++ o.replaced)
        ⟨(w.store.adjustObject object dropping).adjustObject object fun o =>
          { o with attached := none, replaced := [] }, w.user⟩
      refine ⟨.ended object :: dealings, .changing drops (.reading ?_)⟩
      simp only [there, last, ↓reduceIte]
      exact .next (.ended dead) rfl tells
    · refine ⟨[], .changing drops (.reading ?_)⟩
      simp only [there, last, ↓reduceIte]
      exact .step (.refl _)

/-! ## Cells -/

theorem validate (validator : Validator) (v : Option Value) :
    Orderly foreign (Cell.validate foreign validator v) := by
  refine bind (read _) fun context => ?_
  cases context with
  | none => exact brought.validate _ _ _ _
  | some context =>
    cases context with
    | actor id =>
      exact bind (change fun _ => .of_same rfl rfl rfl rfl) fun _ =>
        ensure (brought.validate _ _ _ _) fun _ => .of_same rfl rfl rfl rfl
    | object id =>
      exact bind (change fun _ => .adjustObject fun _ => rfl) fun _ =>
        bind (attempt (brought.validate _ _ _ _)) fun result =>
          bind (release brought id) fun _ => lift result

theorem commit (id : CellId) (new : Slot) (payload : Arg) (cleared : Bool) (source : Side) :
    Orderly foreign (Cell.commit foreign id new payload cleared source) := by
  refine bind (read _) fun found => ?_
  cases found with
  | none => exact pure ()
  | some c =>
    exact bind (changeState id _) fun _ =>
      branch (bind (lift _) fun shown => announce brought c.bus _ _) (pure ())

theorem place (id : CellId) (c : Cell) (v : Option Value) (source : Side) :
    Orderly foreign (Cell.place foreign id c v source) := by
  refine bind (takeLazy id) fun cleared => ?_
  cases v with
  | none => exact branch (commit brought id _ _ cleared source) (lift (.error _))
  | some v =>
    refine bind (lift _) fun kept => ?_
    cases source with
    | program => exact commit brought id _ _ cleared _
    | database => exact bind (lift _) fun shown => commit brought id _ _ cleared _

theorem assign (id : CellId) (v : Option Value) (source : Side) :
    Orderly foreign (Cell.assign foreign id v source) := by
  refine bind (read _) fun found => ?_
  cases found with
  | none => exact pure ()
  | some c =>
    obtain ⟨kind, allowNull, column, bus, validator, state, baseline⟩ := c
    cases source with
    | database => exact bind (pure v) fun v => place brought id _ v _
    | program =>
      cases validator with
      | none => exact bind (pure v) fun v => place brought id _ v _
      | some validator => exact bind (validate brought validator v) fun v => place brought id _ v _

/-- Assigning to a cell is a run. -/
theorem set (id : CellId) (a : Assignment) (source : Side) :
    Orderly foreign (Cell.set foreign id a source) := by
  cases a with
  | lazy l =>
    exact bind (change fun _ => .adjustCell fun _ => rfl) fun _ => commit brought id _ _ _ source
  | null => exact assign brought id none source
  | value v => exact assign brought id (some v) source

theorem delete (id : CellId) : Orderly foreign (Cell.delete foreign id) := by
  refine bind (read _) fun found => ?_
  cases found with
  | none => exact pure ()
  | some c =>
    exact bind (changeState id _) fun _ =>
      branch (bind (lift _) fun shown => announce brought c.bus _ _) (pure ())

theorem get (id : CellId) (default : Option Value) (target : Side) :
    Orderly foreign (Cell.get foreign id default target) := by
  refine bind (read _) fun found => ?_
  cases found with
  | none => exact pure default
  | some c =>
    obtain ⟨kind, allowNull, column, bus, validator, ⟨waiting, slot⟩, baseline⟩ := c
    cases waiting with
    | none => exact content id default target
    | some l => exact bind (announce brought bus _ _) fun _ => content id default target

/-! ## Records -/

theorem ofColumn (column : Column) (bus : BusId) (info : InfoId) :
    Orderly foreign (Cell.ofColumn foreign column (some bus) (some (.objectOf info))) := by
  rw [Cell.ofColumn_eq]
  refine bind ?_ fun state => update fun s => .addCell s _
  unfold Column.begin
  cases column.factory.initial with
  | none => exact pure _
  | some source => exact bind (brought.initial source) fun first => lift _

theorem makeCells (bus : BusId) (info : InfoId) (columns : List Column) :
    Orderly foreign (Info.makeCells foreign bus info columns) := by
  induction columns with
  | nil => exact pure []
  | cons column rest ih =>
    exact bind (ofColumn brought column bus info) fun cell => bind ih fun cells => pure _

theorem classInfo (id : ClassId) : Orderly foreign (Info.classInfo foreign id) := by
  refine bind (read _) fun found => ?_
  cases found with
  | some known => exact pure known
  | none =>
    refine bind (brought.declared id) fun d => ?_
    cases ClassInfo.build d.typeName d.table d.columns d.primary d.order with
    | error fault => exact lift (.error _)
    | ok built =>
      refine update fun s => ?_
      split <;> exact .of_same rfl rfl rfl rfl

/-- Having a record made is a run. -/
theorem create (object : ObjectId) : Orderly foreign (Info.create foreign object) := by
  intro w
  cases there : w.store.objects[object]? with
  | none =>
    refine ⟨[], .reading ?_⟩
    simp only [there]
    exact .step (.refl _)
  | some o =>
    obtain ⟨earlier, run⟩ := classInfo brought o.classId w
    rcases found : Info.classInfo foreign o.classId w with ⟨e | known, middle⟩
    · refine ⟨earlier, .reading ?_⟩
      simp only [there]
      exact .stop run found
    · obtain ⟨later, further⟩ :=
        makeCells brought middle.store.buses.length middle.store.infos.length known.columns
        (middle.reserving o.classId object)
      exact ⟨_, .created there run found further⟩

/-- Asking for the record of an object is a run. -/
theorem ofObject (object : ObjectId) : Orderly foreign (Info.ofObject foreign object) := by
  intro w
  cases there : w.store.objects[object]? with
  | none =>
    have nothing : Info.ofObject foreign object w = (.ok none, w) := Info.ofObject_of_absent there
    exact ⟨[], .step (by rw [nothing]; exact .refl _)⟩
  | some o =>
    cases attached : o.attached with
    | some info => exact ⟨_, .recalled there attached⟩
    | none =>
      obtain ⟨earlier, run⟩ := classInfo brought o.classId w
      rcases found : Info.classInfo foreign o.classId w with ⟨e | known, middle⟩
      · exact ⟨_, .unknown there attached run found⟩
      · obtain ⟨later, further⟩ :=
          makeCells brought middle.store.buses.length middle.store.infos.length known.columns
          (middle.reserving o.classId object)
        rcases ran : Info.makeCells foreign middle.store.buses.length middle.store.infos.length
          known.columns
          (middle.reserving o.classId object) with ⟨e | cells, after⟩
        · exact ⟨_, .unfinished there attached run found further ran⟩
        · obtain ⟨info, got⟩ :=
            Info.exists_ofObject there attached (Info.create_of_made there found ran)
          exact ⟨_, .obtained there attached run found further ran got⟩

end

/-- Attaching a record to an object is a run. -/
theorem attach (object : ObjectId) (info : InfoId) : Orderly foreign (Info.attach object info) := by
  intro w
  cases there : w.store.objects[object]? with
  | none =>
    have same : (Info.attach object info w).2.store = w.store := by
      simp only [Info.attach, World.change, there]
    exact ⟨[], .step (same ▸ .refl _)⟩
  | some o => exact ⟨_, .given there⟩

theorem observe (info : InfoId) (object : ObjectId) : Orderly foreign (Info.observe info object) :=
  change fun _ => .adjustInfo (fun _ => rfl) fun _ => rfl

end Orderly

/-! ## Programs made of requests -/

/-- What a program asks of the library about objects, their records, and cells. -/
inductive Demand where
  | addObject (classId : ClassId)
  | ofObject (object : ObjectId)
  | create (object : ObjectId)
  | attach (object : ObjectId) (info : InfoId)
  | observe (info : InfoId) (object : ObjectId)
  | set (cell : CellId) (a : Assignment) (source : Side)
  | get (cell : CellId) (default : Option Value) (target : Side)
  | delete (cell : CellId)
  | checkpoint (cell : CellId)
  | copy (cell : CellId)
  | build (kind : Kind) (allowNull : Bool) (column : Option Column) (bus : Option BusId)
      (validator : Option Validator) (first : Option (Assignment × Side))
  | dropInfo (info : InfoId)
  | dropObject (object : ObjectId)

namespace Demand

def meet (foreign : Foreign υ) : Demand → Act (World υ) Unit
  | .addObject classId => do let _ ← World.update (·.addObject classId)
  | .ofObject object => do let _ ← Info.ofObject foreign object
  | .create object => do let _ ← Info.create foreign object
  | .attach object info => Info.attach object info
  | .observe info object => Info.observe info object
  | .set cell a source => Cell.set foreign cell a source
  | .get cell default target => do let _ ← Cell.get foreign cell default target
  | .delete cell => Cell.delete foreign cell
  | .checkpoint cell => Cell.setCheckpoint cell
  | .copy cell => do let _ ← Cell.copy cell
  | .build kind allowNull column bus validator first => do
    let _ ← Cell.build kind allowNull column bus validator first
  | .dropInfo info => World.change (·.releaseInfo info)
  | .dropObject object => Obj.release foreign object

def meetAll (foreign : Foreign υ) : List Demand → Act (World υ) Unit
  | [] => pure ()
  | demand :: rest => do
    let _ ← (demand.meet foreign).attempt
    meetAll foreign rest

theorem orderly_meet (brought : foreign.Orderly) (demand : Demand) :
    Orderly foreign (demand.meet foreign) := by
  cases demand with
  | addObject classId => exact .bind (.update fun s => .addObject s classId) fun _ => .pure ()
  | ofObject object => exact .bind (.ofObject brought object) fun _ => .pure ()
  | create object => exact .bind (.create brought object) fun _ => .pure ()
  | attach object info => exact .attach object info
  | observe info object => exact .observe info object
  | set cell a source => exact .set brought cell a source
  | get cell default target => exact .bind (.get brought cell default target) fun _ => .pure ()
  | delete cell => exact .delete brought cell
  | checkpoint cell => exact .setCheckpoint cell
  | copy cell => exact .bind (.copy cell) fun _ => .pure ()
  | build kind allowNull column bus validator first =>
    exact .bind (.build kind allowNull column bus validator first) fun _ => .pure ()
  | dropInfo info => exact .change fun _ => .releaseInfo
  | dropObject object => exact .release brought object

/-- Every program of requests is a run, in whatever order they are made. -/
theorem orderly_meetAll (brought : foreign.Orderly) (demands : List Demand) :
    Orderly foreign (meetAll foreign demands) := by
  induction demands with
  | nil => exact .pure ()
  | cons demand rest ih => exact .bind (.attempt (orderly_meet brought demand)) fun _ => ih

end Demand

end RowMapper
