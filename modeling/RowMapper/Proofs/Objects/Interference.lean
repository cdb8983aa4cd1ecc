import RowMapper.Proofs.Cells.Congruence
import RowMapper.Proofs.Cells.Deeds
import RowMapper.Proofs.Objects.Dealings
/-!
What an assignment to a cell has to do with other cells and with other buses. It changes no cell but
its own, and calls the hooks of no owner but that of its bus. Whatever else happens is done by the
callbacks and the validators themselves.
-/

set_option autoImplicit false

namespace RowMapper

variable {υ α β : Type}

/-! ## Other cells -/

/-- A program leaves cells as they are. -/
def Spares (kept : CellId → Prop) (act : Act (World υ) α) : Prop :=
  ∀ (w : World υ) (cell : CellId) (c : Cell), kept cell → w.store.cells[cell]? = some c →
    (act w).2.store.cells[cell]? = some c

/-- What is made of parts spares the cells that the parts spare. -/
theorem Spares.congruence (kept : CellId → Prop) :
    Congruence fun {α} (act : Act (World υ) α) (_ : Act (World υ) α) => Spares kept act where
  lift _ _ _ _ _ there := there
  read _ _ _ _ _ there := there
  beside same w cell c _ there := (congrArg (·[cell]?) (same w.store)).trans there
  bind {_ _ first _ next _} head tail w cell c among there := by
    have between := head w cell c among there
    rcases ran : first w with ⟨e | a, after⟩
    · rw [Act.bind_of_error _ _ _ _ _ ran]
      rwa [ran] at between
    · rw [Act.bind_of_ok _ _ _ _ _ ran]
      rw [ran] at between
      exact tail a after cell c among between
  attempt spares w cell c among there := by
    rw [Act.attempt_state]
    exact spares w cell c among there
  ensure {_ act _ f} spares same w cell c among there :=
    (congrArg (·[cell]?) (same (act w).2.store)).trans (spares w cell c among there)

/-- An assignment to a cell leaves the others as they are, if the callbacks and the validators
do. -/
theorem Spares.set {foreign : Foreign υ} {kept : CellId → Prop} {id : CellId} (apart : ¬kept id)
    (calls : ∀ callback owner args, Spares kept (foreign.call callback owner args))
    (rules : ∀ rule context subject v, Spares kept (foreign.validate rule context subject v))
    (a : Assignment) (source : Side) : Spares kept (Cell.set foreign id a source) := by
  have deeds (f : Cell → Cell) : Spares (υ := υ) kept (World.change (·.adjustCell id f)) := by
    intro w cell c among there
    have elsewhere : id ≠ cell := fun same => apart (same ▸ among)
    rw [World.change, Store.adjustCell, List.getElem?_modify_ne _ _ elsewhere]
    exact there
  exact @Congruence.set υ υ _ (congruence kept) foreign foreign calls id deeds rules a source

/-! ## Other buses -/

/-- A program leads from worlds with one property to worlds with another, whether or not it
fails. -/
def Brings (P Q : World υ → Prop) (act : Act (World υ) α) : Prop := ∀ w, P w → Q (act w).2

namespace Brings

variable {P M Q : World υ → Prop}

theorem bind {first : Act (World υ) α} {next : α → Act (World υ) β} (head : Brings P M first)
    (tail : ∀ a, Brings M Q (next a)) (stops : ∀ w, M w → Q w) : Brings P Q (first >>= next) := by
  intro w holds
  have between := head w holds
  rcases ran : first w with ⟨e | a, after⟩
  · rw [Act.bind_of_error _ _ _ _ _ ran]
    rw [ran] at between
    exact stops after between
  · rw [Act.bind_of_ok _ _ _ _ _ ran]
    rw [ran] at between
    exact tail a after between

theorem lift (result : Except Error α) : Brings P P (Act.lift result : Act (World υ) α) :=
  fun _ holds => holds

theorem pure (a : α) : Brings P P (Pure.pure a : Act (World υ) α) := lift (.ok a)

end Brings

/-- All calls so far went to one owner. -/
def HeardBy (owner : Owner) (w : World (Heard υ)) : Prop := ∀ d ∈ w.user.calls, d.owner = owner

/-- A cell is on a bus that has an owner, and all calls so far went to that one. -/
structure Tidy (id : CellId) (bus : BusId) (owner : Owner) (w : World (Heard υ)) : Prop where
  on : ∃ c, w.store.cells[id]? = some c ∧ c.bus = some bus
  owned : w.store.busOwner? bus = some owner
  heard : HeardBy owner w

/-- There is more than one reference to an object. -/
def Store.Shared (s : Store) (object : ObjectId) : Prop :=
  ∃ o, s.objects[object]? = some o ∧ 2 ≤ o.references

/-- Validators leave cells on their buses and buses with their owners, and end no object: one that
is referred to beside the validation still is so behind it. -/
structure Foreign.Discreet (foreign : Foreign υ) : Prop where
  stands : ∀ rule context subject v (w : World υ),
    w.store.Stands (foreign.validate rule context subject v w).2.store
  shared : ∀ rule context subject v (w : World υ) object, w.store.Shared object →
    (foreign.validate rule context subject v w).2.store.Shared object

variable {foreign : Foreign υ} {id : CellId} {bus : BusId} {owner : Owner} {c : Cell}

namespace Tidy

variable {w w' : World (Heard υ)}

theorem of_stands (tidy : Tidy id bus owner w) (stands : w.store.Stands w'.store)
    (calls : w'.user.calls = w.user.calls) : Tidy id bus owner w' where
  on := by
    obtain ⟨c, there, on⟩ := tidy.on
    obtain ⟨now, there', same⟩ := stands.cell id c there
    exact ⟨now, there', same.trans on⟩
  owned := stands.owner bus owner tidy.owned
  heard d among := tidy.heard d (calls ▸ among)

theorem withCell {d : Cell} (tidy : Tidy id bus owner w) (there : w.store.cells[id]? = some c)
    (on : d.bus = some bus) : Tidy id bus owner (w.withCell id d) where
  on := ⟨d, World.cells_withCell there d, on⟩
  owned := tidy.owned
  heard := tidy.heard

end Tidy

namespace HeardBy

/-- The hooks that are called are called for the owner. -/
theorem callAll (name : String) (args : List Arg) (hooks : List Hook) :
    Brings (HeardBy owner) (HeardBy owner)
      (Bus.callAll foreign.noting bus name owner args hooks) := by
  induction hooks with
  | nil => exact .pure ()
  | cons hook rest ih =>
    have called : Brings (HeardBy owner) (HeardBy owner)
        (foreign.noting.call hook.callback owner (args ++ hook.extra)) := by
      intro w heard d among
      rcases List.mem_append.mp among with before | now
      · exact heard d before
      · rw [List.mem_singleton.mp now]
    refine called.bind (fun flow => ?_) fun _ heard => heard
    by_cases leaves : flow = .unsubscribe
    · simp only [if_pos leaves]
      exact Brings.bind (M := HeardBy owner) (fun _ heard => heard) (fun _ => ih)
        fun _ heard => heard
    · simp only [if_neg leaves]
      exact ih

theorem emit (name : String) (args : List Arg) :
    Brings (Tidy id bus owner) (HeardBy owner) (Bus.emit foreign.noting bus name args) := by
  intro w tidy
  obtain ⟨b, there, same⟩ := Option.map_eq_some_iff.mp tidy.owned
  cases alive : w.store.ownerAlive b.owner with
  | false =>
    rw [Bus.emit_of_dead there alive]
    exact tidy.heard
  | true =>
    rw [Bus.emit_of_alive there alive, same]
    exact callAll name args _ (w.retaining owner) tidy.heard

theorem report (on : c.bus = some bus) (payload : Arg) (source : Side) :
    Brings (Tidy id bus owner) (HeardBy owner)
      (Cell.report foreign.noting id c payload source) := by
  unfold Cell.report
  rw [on]
  exact (Brings.lift _).bind (fun _ => emit _ _) fun _ tidy => tidy.heard

theorem commit (new : Slot) (payload : Arg) (cleared : Bool) (source : Side) :
    Brings (Tidy id bus owner) (HeardBy owner)
      (Cell.commit foreign.noting id new payload cleared source) := by
  intro w tidy
  obtain ⟨c, there, on⟩ := tidy.on
  have changed : Tidy id bus owner
      (w.withCell id { c with state := { c.state with slot := new } }) :=
    tidy.withCell there on
  rw [Cell.commit_of_there there]
  split
  · exact report on payload source _ changed
  · exact changed.heard

theorem place (c : Cell) (v : Option Value) (source : Side) :
    Brings (Tidy id bus owner) (HeardBy owner) (Cell.place foreign.noting id c v source) := by
  have takes : Brings (Tidy (υ := υ) id bus owner) (Tidy id bus owner) (Cell.takeLazy id) := by
    intro w tidy
    obtain ⟨c, there, on⟩ := tidy.on
    rw [Cell.takeLazy_of_there there]
    exact tidy.withCell there on
  rw [Cell.place_eq]
  refine takes.bind (fun cleared => ?_) fun _ tidy => tidy.heard
  exact (Brings.lift _).bind (fun taken => commit _ _ cleared source) fun _ tidy => tidy.heard

end HeardBy

/-! ## Validations -/

/-- The object that a validator is told of is alive. -/
theorem Store.context?_object {s : Store} {source : ContextSource} {object : ObjectId}
    (context : s.context? source = some (.object object)) :
    ∃ o, s.objects[object]? = some o ∧ 1 ≤ o.references := by
  cases source with
  | actor actor =>
    simp only [context?] at context
    split at context <;> cases context
  | objectOf info =>
    obtain ⟨observed, same⟩ : s.observed? info = some object ∧ s.infoAlive info = true := by
      simp only [context?] at context
      split at context
      · exact ⟨by simpa using context, ‹_›⟩
      · cases context
    simp only [observed?] at observed
    split at observed
    · split at observed
      · next alive =>
        cases observed
        rw [objectAlive] at alive
        split at alive
        · next o there => exact ⟨o, there, by simpa [Nat.one_le_iff_ne_zero] using alive⟩
        · cases alive
      · cases observed
    · cases observed

/-- An object that is referred to otherwise does not end. -/
theorem Obj.release_of_shared {w : World υ} {object : ObjectId} {o : Obj}
    (there : w.store.objects[object]? = some o) (shared : 2 ≤ o.references) :
    Obj.release foreign object w =
      (.ok (),
        { w with store := w.store.adjustObject object fun o => { o with
            references := o.references - 1 } }) := by
  have fewer : (w.store.adjustObject object fun o =>
      { o with references := o.references - 1 }).objects[object]? =
        some { o with references := o.references - 1 } := by
    rw [Store.adjustObject, List.getElem?_modify_eq, there, Option.map_eq_map, Option.map_some]
  rw [release, World.change_bind, World.read_bind, fewer]
  simp only
  rw [if_neg (by omega)]
  rfl

namespace Tidy

theorem ruled (discreet : foreign.Discreet) (rule : RuleId) (context : Option ContextRef)
    (subject : String) (v : Option Value) :
    Brings (Tidy id bus owner) (Tidy id bus owner)
      (foreign.noting.validate rule context subject v) :=
  fun w tidy => tidy.of_stands (discreet.stands rule context subject v w.unheard) rfl

/-- A rule is applied while the object that it is told of is kept alive. It does not end then
either. -/
theorem ruledFor (discreet : foreign.Discreet) (rule : RuleId) (context : Option ContextRef)
    (subject : String) (v : Option Value) (object : ObjectId) :
    Brings (fun w => Tidy id bus owner w ∧ w.store.Shared object) (Tidy id bus owner) (do
      let result ← (foreign.noting.validate rule context subject v).attempt
      Obj.release foreign.noting object
      Act.lift result) := by
  have judged : Brings (fun w => Tidy id bus owner w ∧ w.store.Shared object)
      (fun w => Tidy id bus owner w ∧ w.store.Shared object)
      (foreign.noting.validate rule context subject v).attempt := by
    rintro w ⟨tidy, shared⟩
    rw [Act.attempt_state]
    exact ⟨ruled discreet rule context subject v w tidy,
      discreet.shared rule context subject v w.unheard object shared⟩
  have released : Brings (fun w => Tidy id bus owner w ∧ w.store.Shared object) (Tidy id bus owner)
      (Obj.release foreign.noting object) := by
    rintro w ⟨tidy, o, there, shared⟩
    rw [Obj.release_of_shared there shared]
    exact tidy.of_stands (.of_same rfl rfl) rfl
  exact judged.bind (fun result => released.bind (fun _ => .lift result) fun _ tidy => tidy)
    fun _ both => both.1

/-- A validation leaves the cell on its bus, and no hook is called. -/
theorem validate (discreet : foreign.Discreet) (validator : Validator) (v : Option Value) :
    Brings (Tidy id bus owner) (Tidy id bus owner) (Cell.validate foreign.noting validator v) := by
  intro w tidy
  rw [Cell.validate, World.read_bind]
  cases context : validator.context.bind w.store.context? with
  | none => exact ruled discreet validator.rule none validator.name v w tidy
  | some reference =>
    cases reference with
    | actor actor =>
      have retained : Tidy id bus owner { w with store := w.store.retainActor actor } :=
        tidy.of_stands (.of_same rfl rfl) rfl
      dsimp only
      rw [World.change_bind]
      exact (ruled discreet _ _ _ _ _ retained).of_stands (.of_same rfl rfl) rfl
    | object object =>
      obtain ⟨source, -, tells⟩ := Option.bind_eq_some_iff.mp context
      obtain ⟨o, there, alive⟩ := Store.context?_object tells
      have retained : Tidy id bus owner { w with store := w.store.retainObject object } :=
        tidy.of_stands (.of_same rfl rfl) rfl
      have shared : (w.store.retainObject object).Shared object := by
        refine ⟨{ o with references := o.references + 1 }, ?_, Nat.succ_le_succ alive⟩
        rw [Store.retainObject, Store.adjustObject, List.getElem?_modify_eq, there,
          Option.map_eq_map, Option.map_some]
      dsimp only
      rw [World.change_bind]
      exact ruledFor discreet _ _ _ _ object _ ⟨retained, shared⟩

end Tidy

/-- An assignment to a cell calls the hooks of its bus, for the owner of the bus, and no others. -/
theorem HeardBy.set (discreet : foreign.Discreet) (a : Assignment) (source : Side) :
    Brings (Tidy id bus owner) (HeardBy owner) (Cell.set foreign.noting id a source) := by
  have settles (v : Option Value) :
      Brings (Tidy id bus owner) (HeardBy owner) (Cell.assign foreign.noting id v source) := by
    intro w tidy
    obtain ⟨c, there, on⟩ := tidy.on
    have judges : Brings (Tidy id bus owner) (Tidy id bus owner)
        (Cell.judge foreign.noting c v source) := by
      unfold Cell.judge
      split
      · exact .validate discreet _ v
      · exact .pure v
    rw [Cell.assign_of_there _ _ there]
    exact judges.bind (fun v => .place c v source) (fun _ tidy => tidy.heard) w tidy
  cases a with
  | lazy l =>
    intro w tidy
    obtain ⟨c, there, on⟩ := tidy.on
    rw [(Cell.begins_waitFor foreign.noting id l source).present w c there]
    exact report on _ source _ (tidy.withCell there on)
  | null => exact settles none
  | value v => exact settles (some v)

end RowMapper
