import RowMapper.Cell.Operations
/-!
Relations between programs that carry over from parts to wholes. What the library does with buses,
records and objects is made of such parts, and of the foreign code that it calls: where two bodies
of foreign code are related call by call, so are the emission of an event, the release of an object
and the validation of a value.
-/

set_option autoImplicit false

namespace RowMapper

variable {υ ω : Type}

/-- A relation between the programs of two worlds that holds of what leaves all cells alone, and of
a whole where it holds of the parts. -/
structure Congruence (R : ∀ {α : Type}, Act (World υ) α → Act (World ω) α → Prop) : Prop where
  lift : ∀ {α : Type} (result : Except Error α), R (Act.lift result) (Act.lift result)
  read : ∀ {α : Type} (f : Store → α), R (World.read f) (World.read f)
  beside : ∀ {f : Store → Store}, (∀ s, (f s).cells = s.cells) → R (World.change f) (World.change f)
  bind : ∀ {α β : Type} {first : Act (World υ) α} {first' : Act (World ω) α}
    {next : α → Act (World υ) β}
    {next' : α → Act (World ω) β}, R first first' → (∀ a, R (next a) (next' a)) →
      R (first >>= next) (first' >>= next')
  attempt : ∀ {α : Type} {act : Act (World υ) α} {act' : Act (World ω) α}, R act act' →
    R act.attempt act'.attempt
  ensure : ∀ {α : Type} {act : Act (World υ) α} {act' : Act (World ω) α} {f : Store → Store},
    R act act' → (∀ s, (f s).cells = s.cells) → R (World.ensure act f) (World.ensure act' f)

namespace Congruence

variable {R : ∀ {α : Type}, Act (World υ) α → Act (World ω) α → Prop}

theorem branch (_ : Congruence R) {α : Type} {p : Prop} [Decidable p]
    {first second : Act (World υ) α} {first' second' : Act (World ω) α} (whenTrue : R first first')
    (whenFalse : R second second') :
    R (if p then first else second) (if p then first' else second') := by
  split
  · exact whenTrue
  · exact whenFalse

variable (congruence : Congruence R)

include congruence

theorem pure {α : Type} (a : α) : R (Pure.pure a) (Pure.pure a) := congruence.lift (.ok a)

theorem content (cell : CellId) (default : Option Value) (target : Side) :
    R (Cell.content cell default target) (Cell.content cell default target) := by
  refine congruence.bind (congruence.read _) fun found => ?_
  cases found with
  | none => exact congruence.pure default
  | some c =>
    cases slot : c.state.slot with
    | undefined => simpa only [slot] using congruence.pure default
    | null => simpa only [slot] using congruence.pure none
    | value v => simpa only [slot] using congruence.lift _

variable {foreign : Foreign υ} {foreign' : Foreign ω}
  (calls : ∀ callback owner args,
    R (foreign.call callback owner args) (foreign'.call callback owner args))

include calls

theorem callAll (bus : BusId) (name : String) (owner : Owner) (args : List Arg)
    (hooks : List Hook) :
    R (Bus.callAll foreign bus name owner args hooks)
      (Bus.callAll foreign' bus name owner args hooks) := by
  induction hooks with
  | nil => exact congruence.pure ()
  | cons hook rest ih =>
    exact congruence.bind (calls _ _ _) fun flow =>
      congruence.branch (congruence.bind (congruence.beside fun _ => rfl) fun _ => ih) ih

theorem emit (bus : BusId) (name : String) (args : List Arg) :
    R (Bus.emit foreign bus name args) (Bus.emit foreign' bus name args) := by
  refine congruence.bind (congruence.read _) fun found => ?_
  cases found with
  | none => exact congruence.pure ()
  | some b =>
    refine congruence.bind (congruence.read _) fun alive =>
      congruence.branch ?_ (congruence.pure ())
    cases b.hooks.get? name with
    | none => exact congruence.pure ()
    | some hooks =>
      have retains : ∀ s : Store, (s.retainOwner b.owner).cells = s.cells := by
        intro s
        cases b.owner <;> rfl
      have releases : ∀ s : Store, (s.releaseOwner b.owner).cells = s.cells := by
        intro s
        cases b.owner <;> rfl
      exact congruence.bind (congruence.beside retains) fun _ =>
        congruence.ensure (congruence.callAll calls bus name b.owner args hooks) releases

theorem announce (bus : Option BusId) (name : String) (args : List Arg) :
    R (Cell.announce foreign bus name args) (Cell.announce foreign' bus name args) := by
  cases bus with
  | none => exact congruence.pure ()
  | some bus => exact congruence.emit calls bus name args

theorem notify (info : InfoId) : R (Obj.notify foreign info) (Obj.notify foreign' info) := by
  refine congruence.bind (congruence.read _) fun found => ?_
  cases found with
  | none => exact congruence.pure ()
  | some i =>
    refine congruence.bind (congruence.read _) fun alive =>
      congruence.branch ?_ (congruence.pure ())
    refine congruence.bind (congruence.beside fun _ => rfl) fun _ =>
      congruence.bind (congruence.read _) fun found => ?_
    cases found with
    | none => exact congruence.pure ()
    | some i => exact congruence.emit calls i.bus Obj.deletedEvent []

theorem notifyAll (infos : List InfoId) :
    R (Obj.notifyAll foreign infos) (Obj.notifyAll foreign' infos) := by
  induction infos with
  | nil => exact congruence.pure ()
  | cons info rest ih =>
    exact congruence.bind (congruence.attempt (congruence.notify calls info)) fun _ =>
      congruence.bind (congruence.beside fun _ => rfl) fun _ => ih

theorem release (object : ObjectId) :
    R (Obj.release foreign object) (Obj.release foreign' object) := by
  refine congruence.bind (congruence.beside fun _ => rfl) fun _ =>
    congruence.bind (congruence.read _) fun found => ?_
  cases found with
  | none => exact congruence.pure ()
  | some o =>
    exact congruence.branch
      (congruence.bind (congruence.beside fun _ => rfl) fun _ => congruence.notifyAll calls _)
        (congruence.pure ())

theorem validate
    (rules : ∀ rule context subject v,
      R (foreign.validate rule context subject v) (foreign'.validate rule context subject v))
    (validator : Validator) (v : Option Value) :
    R (Cell.validate foreign validator v) (Cell.validate foreign' validator v) := by
  refine congruence.bind (congruence.read _) fun context => ?_
  cases context with
  | none => exact rules _ _ _ _
  | some context =>
    cases context with
    | actor owner =>
      exact congruence.bind (congruence.beside fun _ => rfl) fun _ =>
        congruence.ensure (rules _ _ _ _) fun _ => rfl
    | object owner =>
      exact congruence.bind (congruence.beside fun _ => rfl) fun _ =>
        congruence.bind (congruence.attempt (rules _ _ _ _)) fun result =>
          congruence.bind (congruence.release calls owner) fun _ => congruence.lift result

/-! ## Assignments -/

section

variable {id : CellId}
  (deeds : ∀ f : Cell → Cell,
    R (World.change (·.adjustCell id f)) (World.change (·.adjustCell id f)))

include deeds

theorem commit (new : Slot) (payload : Arg) (cleared : Bool) (source : Side) :
    R (Cell.commit foreign id new payload cleared source)
      (Cell.commit foreign' id new payload cleared source) := by
  refine congruence.bind (congruence.read _) fun found => ?_
  cases found with
  | none => exact congruence.pure ()
  | some c =>
    exact congruence.bind (deeds _) fun _ => congruence.branch
      (congruence.bind (congruence.lift _) fun shown => congruence.announce calls c.bus _ _)
        (congruence.pure ())

theorem place (c : Cell) (v : Option Value) (source : Side) :
    R (Cell.place foreign id c v source) (Cell.place foreign' id c v source) := by
  have takes : R (Cell.takeLazy id) (Cell.takeLazy id) := by
    refine congruence.bind (congruence.read _) fun found => ?_
    cases found with
    | none => exact congruence.pure false
    | some c => exact congruence.bind (deeds _) fun _ => congruence.pure _
  refine congruence.bind takes fun cleared => ?_
  cases v with
  | none =>
    exact congruence.branch (congruence.commit calls deeds _ _ cleared source)
      (congruence.lift (.error _))
  | some v =>
    refine congruence.bind (congruence.lift _) fun kept => ?_
    cases source with
    | program => exact congruence.commit calls deeds _ _ cleared _
    | database =>
      exact congruence.bind (congruence.lift _) fun shown =>
        congruence.commit calls deeds _ _ cleared _

variable (rules : ∀ rule context subject v,
  R (foreign.validate rule context subject v) (foreign'.validate rule context subject v))

include rules

theorem assign (v : Option Value) (source : Side) :
    R (Cell.assign foreign id v source) (Cell.assign foreign' id v source) := by
  refine congruence.bind (congruence.read _) fun found => ?_
  cases found with
  | none => exact congruence.pure ()
  | some c =>
    obtain ⟨kind, allowNull, column, bus, validator, state, baseline⟩ := c
    have places (v : Option Value) :=
      congruence.place calls deeds ⟨kind, allowNull, column, bus, validator, state,
        baseline⟩ v source
    cases source with
    | database => exact congruence.bind (congruence.pure v) places
    | program =>
      cases validator with
      | none => exact congruence.bind (congruence.pure v) places
      | some validator => exact congruence.bind (congruence.validate calls rules validator v) places

/-- Where what is done to a cell carries over, so does an assignment to it. -/
theorem set (a : Assignment) (source : Side) :
    R (Cell.set foreign id a source) (Cell.set foreign' id a source) := by
  cases a with
  | lazy l => exact congruence.bind (deeds _) fun _ => congruence.commit calls deeds _ _ _ source
  | null => exact congruence.assign calls deeds rules none source
  | value v => exact congruence.assign calls deeds rules (some v) source

end

end Congruence

end RowMapper
