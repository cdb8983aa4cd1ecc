import RowMapper.Proofs.Objects.Course
/-!
What the library does for mapped objects, case by case: making records and finding the one of an
object, attaching them, dropping the last reference to an object, and the notices of the records
that it held.
-/

set_option autoImplicit false

namespace RowMapper

variable {υ : Type} {foreign : Foreign υ} {w middle after : World υ} {object : ObjectId}
    {info made : InfoId} {o later : Obj} {known : ClassInfo} {e : Error}

/-- The world with a record set aside. -/
def World.reserving (w : World υ) (classId : ClassId) (object : ObjectId) : World υ :=
  { w with store := w.store.reserving classId object }

def World.dropping (w : World υ) (info : InfoId) : World υ :=
  { w with store := w.store.releaseInfo info }

def World.flagging (w : World υ) (info : InfoId) : World υ :=
  { w with store := w.store.flagging info }

def World.ending (w : World υ) (object : ObjectId) : World υ :=
  { w with store := w.store.ending object }

namespace World

variable {α β : Type}

theorem read_bind (f : Store → α) (next : α → Act (World υ) β) (w : World υ) :
    (read f >>= next) w = next (f w.store) w := rfl

theorem change_bind (f : Store → Store) (next : Unit → Act (World υ) β) (w : World υ) :
    (change f >>= next) w = next () { w with store := f w.store } := rfl

end World

namespace Info

theorem create_eq (there : w.store.objects[object]? = some o) :
    create foreign object w = (do
      let known ← classInfo foreign o.classId
      let (info, bus) ← reserve o.classId object
      let cells ← makeCells foreign bus info known.columns
      let keyCells := known.keyPositions.filterMap fun place => (cells[place]?).map Prod.snd
      World.change (·.adjustInfo info fun i => { i with cells, keyCells, references := 1 })
      return some info) w := by
  have known : World.read (fun s => s.objects[object]?) w = (.ok (some o), w) := by
    rw [World.read, there]
  exact Act.bind_of_ok _ _ w w (some o) known

theorem create_of_unknown (there : w.store.objects[object]? = some o)
    (fails : classInfo foreign o.classId w = (.error e, after)) :
    create foreign object w = (.error e, after) := by
  rw [create_eq there, Act.bind_of_error _ _ _ _ _ fails]

theorem reserve_eq (classId : ClassId) : reserve classId object w =
    (.ok (w.store.infos.length, w.store.buses.length), w.reserving classId object) := rfl

theorem create_of_unfinished (there : w.store.objects[object]? = some o)
    (found : classInfo foreign o.classId w = (.ok known, middle))
    (fails : makeCells foreign middle.store.buses.length middle.store.infos.length known.columns
      (middle.reserving o.classId object) = (.error e, after)) :
    create foreign object w = (.error e, after) := by
  rw [create_eq there, Act.bind_of_ok _ _ _ _ _ found,
    Act.bind_of_ok _ _ _ _ _ (reserve_eq o.classId)]
  exact Act.bind_of_error _ _ _ _ _ fails

/-- What becomes of the record that was set aside. -/
theorem create_of_made {cells : List (Column × CellId)} (there : w.store.objects[object]? = some o)
    (found : classInfo foreign o.classId w = (.ok known, middle))
    (ran : makeCells foreign middle.store.buses.length middle.store.infos.length known.columns
      (middle.reserving o.classId object) = (.ok cells, after)) :
    create foreign object w = (.ok (some middle.store.infos.length), { after with
      store := after.store.adjustInfo middle.store.infos.length fun i => { i with
        cells
        keyCells := known.keyPositions.filterMap fun place => (cells[place]?).map Prod.snd
        references := 1 } }) := by
  rw [create_eq there, Act.bind_of_ok _ _ _ _ _ found,
    Act.bind_of_ok _ _ _ _ _ (reserve_eq o.classId)]
  exact Act.bind_of_ok _ _ _ _ _ ran

theorem ofObject_of_attached (there : w.store.objects[object]? = some o)
    (attached : o.attached = some info) :
    ofObject foreign object w = (.ok (some info), { w with store := w.store.retainInfo info }) := by
  rw [ofObject, World.read_bind, there, Option.bind_some, attached]
  rfl

theorem ofObject_of_unattached (there : w.store.objects[object]? = some o)
    (unattached : o.attached = none) :
    ofObject foreign object w = (do
      match ← create foreign object with
      | none => pure none
      | some made =>
        match ← World.read (fun s => (s.objects[object]?).bind Obj.attached) with
        | some info =>
          World.change fun s => (s.releaseInfo made).retainInfo info
          return some info
        | none =>
          World.change fun s =>
            (s.adjustObject object fun o => { o with attached := some made }).retainInfo made
          return some made) w := by
  have vacant : World.read (fun s => (s.objects[object]?).bind Obj.attached) w = (.ok none, w) := by
    rw [World.read, there, Option.bind_some, unattached]
  exact Act.bind_of_ok _ _ w w none vacant

theorem ofObject_of_refused (there : w.store.objects[object]? = some o)
    (unattached : o.attached = none) (fails : create foreign object w = (.error e, after)) :
    ofObject foreign object w = (.error e, after) := by
  rw [ofObject_of_unattached there unattached, Act.bind_of_error _ _ _ _ _ fails]

theorem ofObject_of_forestalled (there : w.store.objects[object]? = some o)
    (unattached : o.attached = none) (ran : create foreign object w = (.ok (some made), after))
    (still : after.store.objects[object]? = some later) (attached : later.attached = some info) :
    ofObject foreign object w =
      (.ok (some info),
        { after with store := (after.store.releaseInfo made).retainInfo info }) := by
  rw [ofObject_of_unattached there unattached, Act.bind_of_ok _ _ _ _ _ ran]
  simp only
  rw [World.read_bind, still, Option.bind_some, attached]
  rfl

theorem ofObject_of_introduced (there : w.store.objects[object]? = some o)
    (unattached : o.attached = none) (ran : create foreign object w = (.ok (some made), after))
    (still : after.store.objects[object]? = some later) (vacant : later.attached = none) :
    ofObject foreign object w =
      (.ok (some made), { after with store := after.store.attaching object made }) := by
  rw [ofObject_of_unattached there unattached, Act.bind_of_ok _ _ _ _ _ ran]
  simp only
  rw [World.read_bind, still, Option.bind_some, vacant]
  rfl

end Info

/-- A record has been attached to an object. The one before is kept there, or the object gives its
reference to it back. -/
inductive Store.Attaches (s : Store) (object : ObjectId) (info : InfoId) (o : Obj) : Store → Prop
  | vacant (vacant : o.attached = none) : Attaches s object info o (s.attaching object info)
  | kept {previous : InfoId} (attached : o.attached = some previous) :
      Attaches s object info o ((s.attaching object info).adjustObject object fun o =>
        { o with replaced := o.replaced ++ [previous] })
  | dropped {previous : InfoId} (attached : o.attached = some previous)
      (dispensable : s.observed? previous ≠ some object ∨ previous = info) :
      Attaches s object info o ((s.attaching object info).releaseInfo previous)

namespace Store

variable {s s' : Store} {taken : List InfoId}

theorem observed?_eq (other : InfoId) : s.observed? other =
    (s.face? other).bind fun f => if s.objectAlive f.object then some f.object else none := by
  unfold observed? face?
  cases s.infos[other]? <;> rfl

theorem objectAlive_eq (there : s.objects[object]? = some o) :
    s.objectAlive object = decide (o.references ≠ 0) := by
  rw [objectAlive, there]

theorem held_eq (there : s.objects[object]? = some o) : s.held object = o.held := by
  rw [held, there, Option.map_some, Option.getD_some]

theorem mem_held_of_attached (there : s.objects[object]? = some o)
    (attached : o.attached = some info) :
    info ∈ s.held object := by
  rw [held_eq there, Obj.held, attached]
  exact List.mem_cons_self

theorem face?_releaseInfo (other : InfoId) : (s.releaseInfo info).face? other = s.face? other :=
  face?_adjustInfo_of_same (g := fun i => { i with references := i.references - 1 })
    (fun _ => rfl) other

theorem face?_attaching (other : InfoId) : (s.attaching object info).face? other = s.face? other :=
  face?_adjustInfo_of_same (g := fun i => { i with references := i.references + 1 })
    (fun _ => rfl) other

theorem objectAlive_attaching (other : ObjectId) :
    (s.attaching object info).objectAlive other = s.objectAlive other :=
  objectAlive_adjustObject (g := fun o => { o with attached := some info })
    (fun _ _ => Iff.rfl) other

theorem observed?_attaching (other : InfoId) :
    (s.attaching object info).observed? other = s.observed? other := by
  simp only [observed?_eq, face?_attaching, objectAlive_attaching]

theorem objects_attaching (there : s.objects[object]? = some o) :
    (s.attaching object info).objects[object]? = some { o with attached := some info } := by
  rw [attaching, retainInfo, adjustInfo, adjustObject, List.getElem?_modify_eq, there]
  rfl

end Store

theorem Info.attach_attaches (there : w.store.objects[object]? = some o) :
    w.store.Attaches object info o (attach object info w).2.store := by
  cases attached : o.attached with
  | none =>
    have after : (attach object info w).2.store = w.store.attaching object info := by
      simp only [attach, World.change, there, attached, Store.attaching]
    rw [after]
    exact .vacant attached
  | some previous =>
    have after : (attach object info w).2.store =
        if w.store.observed? previous = some object ∧ previous ≠ info then
          (w.store.attaching object info).adjustObject object fun o =>
            { o with replaced := o.replaced ++ [previous] }
        else (w.store.attaching object info).releaseInfo previous := by
      simp only [attach, World.change, there, attached]
      rw [← Store.attaching, Store.observed?_attaching]
    rw [after]
    split
    · exact .kept attached
    · rename_i unlike
      rw [not_and_or, not_not] at unlike
      exact .dropped attached unlike

namespace Store.Attaches

variable {s s' : Store} {taken : List InfoId}

/-- The object holds the record, and what it held and observes it. -/
theorem changes (attaches : s.Attaches object info o s') (there : s.objects[object]? = some o)
    (alive : o.references ≠ 0) : Incident.Changes (.attached object info s') s s' := by
  have lives : s.objectAlive object = true := by rw [objectAlive_eq there, decide_eq_true alive]
  have others : ∀ other, other ≠ object → (s.attaching object info).held other = s.held other := by
    intro other apart
    exact (held_adjustObject other).trans (if_neg (Ne.symm apart))
  have now : (s.attaching object info).held object = { o with attached := some info }.held :=
    held_eq (objects_attaching there)
  cases attaches with
  | vacant vacant =>
    refine .attached lives (length_adjustObject _) objectAlive_attaching others ?_ ?_
      face?_attaching fun _ => rfl
    · rw [now]
      exact List.mem_cons_self
    · intro other f holds _ _
      rw [held_eq there, Obj.held, vacant] at holds
      rw [now]
      exact List.mem_cons_of_mem _ holds
  | @kept previous attached =>
    have behind : (((s.attaching object info).adjustObject object fun o =>
        { o with replaced := o.replaced ++ [previous] }).held object) =
          info :: (o.replaced ++ [previous]) := by
      rw [held_adjustObject, if_pos rfl, objects_attaching there]
      rfl
    refine .attached lives ((length_adjustObject _).trans (length_adjustObject _)) ?_ ?_ ?_ ?_
      face?_attaching
      fun _ => rfl
    · intro other
      rw [objectAlive_adjustObject (g := fun o => { o with replaced := o.replaced ++ [previous] })
        fun _ _ => Iff.rfl, objectAlive_attaching]
    · intro other apart
      rw [held_adjustObject, if_neg (Ne.symm apart), others other apart]
    · rw [behind]
      exact List.mem_cons_self
    · intro other f holds _ _
      rw [held_eq there, Obj.held, attached] at holds
      rw [behind]
      rcases List.mem_cons.mp holds with rfl | before
      · exact List.mem_cons_of_mem _ (List.mem_append_right _ List.mem_cons_self)
      · exact List.mem_cons_of_mem _ (List.mem_append_left _ before)
  | @dropped previous attached dispensable =>
    refine .attached lives (length_adjustObject _) objectAlive_attaching others ?_ ?_
      (fun other => (face?_releaseInfo other).trans (face?_attaching other)) fun _ => rfl
    · exact now ▸ List.mem_cons_self
    · intro other f holds found observes
      rw [held_eq there, Obj.held, attached] at holds
      refine now ▸ ?_
      rcases List.mem_cons.mp holds with rfl | before
      · -- it observes the object, so it is dropped only if it is the one that is attached now
        rcases dispensable with elsewhere | rfl
        · refine absurd ?_ elsewhere
          rw [observed?_eq, found, Option.bind_some, observes, if_pos lives]
        · exact List.mem_cons_self
      · exact List.mem_cons_of_mem _ before

theorem counted (attaches : s.Attaches object info o s') (there : s.objects[object]? = some o)
    (alive : s.infoAlive info = true) (counted : s.Counted taken) : s'.Counted taken := by
  have attached := counted.attaching there alive
  cases attaches with
  | vacant vacant => rwa [vacant] at attached
  | kept was =>
    rw [was] at attached
    refine attached.exchange (objects_attaching there) fun other => ?_
    simp only [Obj.held, Option.toList_some, List.count_append, List.count_cons, List.count_nil]
    omega
  | dropped was =>
    rw [was] at attached
    exact attached.release

theorem buries (attaches : s.Attaches object info o s') (alive : s.infoAlive info = true) :
    s.Buries s' := by
  have attached : s.Buries (s.attaching object info) :=
    (Buries.retainInfo alive).trans (.of_infos rfl)
  cases attaches with
  | vacant => exact attached
  | kept => exact attached.trans (.of_infos rfl)
  | dropped => exact attached.trans .releaseInfo

end Store.Attaches

namespace Obj

theorem release_of_last (there : w.store.objects[object]? = some o) (last : o.references = 1) :
    release foreign object w = notifyAll foreign o.held (w.ending object) := by
  have fewer : (w.store.adjustObject object fun o =>
      { o with references := o.references - 1 }).objects[object]? =
        some { o with references := 0 } := by
    rw [Store.adjustObject, List.getElem?_modify_eq, there, Option.map_eq_map,
      Option.map_some, last]
  have ends :
      ((w.store.adjustObject object fun o => { o with references := o.references - 1 }).adjustObject
        object fun o => { o with attached := none, replaced := [] }) = w.store.ending object := by
    simp only [Store.ending, Store.adjustObject, List.modify_modify_eq]
    rw [modify_eq_set_of_getElem? there, modify_eq_set_of_getElem? there, Function.comp_apply, last]
  rw [release, World.change_bind, World.read_bind, fewer]
  simp only [↓reduceIte]
  rw [World.change_bind, ends]
  rfl

/-- What a record does about the end of an object. -/
theorem notify_of_passed
    (nothing : ∀ f, w.store.face? info = some f → w.store.objectAlive f.object = true ∨
      f.notified = true) :
    notify foreign info w = (.ok (), w) := by
  rw [notify, World.read_bind]
  cases there : w.store.infos[info]? with
  | none => rfl
  | some i =>
    have silent : (!w.store.objectAlive i.object && !i.notified) = false := by
      rcases nothing i.face (by rw [Store.face?, there, Option.map_some]) with alive | notified
      · rw [show w.store.objectAlive i.object = true from alive, Bool.not_true, Bool.false_and]
      · rw [show i.notified = true from notified, Bool.not_true, Bool.and_false]
    simp only
    rw [World.read_bind, silent]
    rfl

theorem notify_of_announced {f : Face} (there : w.store.face? info = some f)
    (dead : w.store.objectAlive f.object = false) (unnotified : f.notified = false) :
    notify foreign info w = Bus.emit foreign f.bus deletedEvent [] (w.flagging info) := by
  obtain ⟨i, found, rfl⟩ := Option.map_eq_some_iff.mp there
  have flagged : World.read (fun s => s.infos[info]?) (w.flagging info) =
      (.ok (some { i with notified := true }), w.flagging info) := by
    rw [World.read, World.flagging, Store.flagging, Store.adjustInfo,
      List.getElem?_modify_eq, found]
    rfl
  have speaks : (!w.store.objectAlive i.object && !i.notified) = true := by
    rw [show w.store.objectAlive i.object = false from dead,
      show i.notified = false from unnotified]
    rfl
  rw [notify, World.read_bind, found]
  simp only
  rw [World.read_bind, speaks, if_pos rfl, World.change_bind]
  exact Act.bind_of_ok _ _ _ _ _ flagged

/-- A failure that can be borne does not keep the next records from their notices. -/
theorem notifyAll_of_borne {rest : List InfoId} {outcome : Except Error Unit}
    (ran : notify foreign info w = (outcome, after))
    (bearable : ∀ e, outcome = .error e → e.isFatal = false) :
    notifyAll foreign (info :: rest) w = notifyAll foreign rest (after.dropping info) := by
  have attempted : (notify foreign info).attempt w = (.ok outcome, after) := by
    cases outcome with
    | ok => simp only [Act.attempt, ran]
    | error e =>
      simp only [Act.attempt, ran, bearable e rfl]
      rfl
  rw [notifyAll, Act.bind_of_ok _ _ _ _ _ attempted, World.change_bind]
  rfl

/-- A record that has nothing to announce is dropped. -/
theorem notifyAll_of_passed {rest : List InfoId}
    (nothing : ∀ f, w.store.face? info = some f → w.store.objectAlive f.object = true ∨
      f.notified = true) :
    notifyAll foreign (info :: rest) w = notifyAll foreign rest (w.dropping info) := by
  refine notifyAll_of_borne (notify_of_passed nothing) fun e failed => ?_
  cases failed

theorem notifyAll_of_fatal {rest : List InfoId} (ran : notify foreign info w = (.error e, after))
    (fatal : e.isFatal = true) : notifyAll foreign (info :: rest) w = (.error e, after) := by
  have attempted : (notify foreign info).attempt w = (.error e, after) := by
    simp only [Act.attempt, ran, fatal, ↓reduceIte]
  rw [notifyAll, Act.bind_of_error _ _ _ _ _ attempted]

end Obj

end RowMapper
