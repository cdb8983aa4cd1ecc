import RowMapper.Mapping.ObjectInfo
import RowMapper.Proofs.Cells.Readability
import RowMapper.Proofs.Values.Equality
/-!
Checkpoints of records. A checkpoint makes a record clean, up to what equality makes of the values:
a cell that holds a number that is none differs from what it remembers, and so has changed at once.
Only cells of three kinds can hold one.
-/

set_option autoImplicit false

namespace RowMapper

variable {υ α β : Type}

/-! ## Which cells can hold what is no number -/

theorem Value.ordinary_of_map {α : Type} {result : Except Error α} {f : α → Value} {kept : Value}
    (ordinary : ∀ a, (f a).hasNaN = false) (made : result.map f = .ok kept) :
    kept.hasNaN = false := by
  cases result with
  | error e => cases made
  | ok a =>
    cases made
    exact ordinary a

namespace Kind

/-- A cell of the kind can hold a number that is none. -/
def admitsNaN : Kind → Bool
  | .any | .float | .json => true
  | _ => false

theorem ordinary_of_timestamp {seconds : Float} {kept : Value}
    (made : ofTimestamp seconds = .ok kept) :
    kept.hasNaN = false := by
  unfold ofTimestamp at made
  split at made
  · cases made
    rfl
  · cases made

/-- Only integers have names. -/
theorem ordinary_of_named {members : List (String × Int64)} {kept shown : Value}
    (named : (enumeration members).present .program kept = .ok shown) : kept.hasNaN = false := by
  cases kept with
  | int n => rfl
  | _ => cases named

/-- What the other kinds keep are no floating point numbers and no documents. An enumeration accepts
whatever the database brings, but a cell takes it only if it has a name. -/
theorem ordinary_of_accept {kind : Kind} {source : Side} {v kept : Value}
    (refused : kind.admitsNaN = false) (accepted : kind.accept source v = .ok kept)
    (presented : source = .database → ∃ shown, kind.present .program kept = .ok shown) :
    kept.hasNaN = false := by
  by_cases members : ∃ m, kind = .enumeration m ∧ source = .database
  · obtain ⟨m, rfl, fromDatabase⟩ := members
    obtain ⟨shown, named⟩ := presented fromDatabase
    exact ordinary_of_named named
  · fun_cases accept kind source v
    all_goals first
      | exact absurd refused (by decide)
      | exact (members ⟨_, rfl, ‹_›⟩).elim
      | simp only [accept, mismatch, *, ite_true, ite_false] at accepted
        first
          | exact Value.ordinary_of_map (fun _ => rfl) accepted
          | exact ordinary_of_timestamp accepted
          | cases accepted <;> rfl

end Kind

namespace Cell

/-- The cell holds a number that is none only if it is of a kind that can. -/
def FitsKind (c : Cell) : Prop := c.kind.admitsNaN = false → c.state.slot.hasNaN = false

theorem FitsKind.congr {c d : Cell} (kind : d.kind = c.kind) (slot : d.state.slot = c.state.slot)
    (fits : c.FitsKind) :
    d.FitsKind := by
  unfold FitsKind
  rw [kind, slot]
  exact fits

theorem FitsKind.of_empty {c : Cell} (empty : c.state.slot = .undefined ∨ c.state.slot = .null) :
    c.FitsKind := by
  intro _
  rcases empty with empty | empty <;> rw [empty] <;> rfl

theorem Made.fitsKind {c : Cell} (made : c.Made) : c.FitsKind := by
  rcases made.2 with initial | ⟨source, a, first⟩
  · exact .of_empty (.inl (congrArg CellState.slot initial))
  · cases a with
    | lazy l => exact .of_empty (.inl (congrArg CellState.slot (Except.ok.inj first).symm))
    | null =>
      simp only [CellState.ofAssignment] at first
      split at first
      · exact .of_empty (.inr (congrArg CellState.slot (Except.ok.inj first).symm))
      · cases first
    | value v =>
      obtain ⟨kept, accepted, state, presented⟩ := ofAssignment_value first
      intro refused
      rw [state]
      exact Kind.ordinary_of_accept refused accepted presented

theorem take_fitsKind {c : Cell} {v : Option Value} {source : Side} {new shown : Slot}
    (taken : c.take v source = .ok (new, shown)) (refused : c.kind.admitsNaN = false) :
    new.hasNaN = false := by
  cases v with
  | none =>
    obtain ⟨rfl, -⟩ := take_none taken
    rfl
  | some v =>
    obtain ⟨kept, y, accepted, rfl, -, presented⟩ := take_some taken
    exact Kind.ordinary_of_accept refused accepted fun fromDatabase => ⟨y, presented fromDatabase⟩

theorem fitsKind_invariant (restores : Prop) : Cell.Invariant restores FitsKind where
  detached c fits := fits.congr rfl rfl
  done c deed own fits := by
    cases deed with
    | waitFor l => exact .of_empty (.inl rfl)
    | place v source =>
      cases taken : c.take v source with
      | error e =>
        exact fits.congr (by simp only [Deed.apply, taken]) (by simp only [Deed.apply, taken])
      | ok both =>
        obtain ⟨new, shown⟩ := both
        intro refused
        simp only [Deed.apply, taken] at refused ⊢
        exact take_fitsKind taken refused
    | delete => exact .of_empty (.inl rfl)
    | look | checkpoint => exact fits.congr rfl rfl
    | restore state => exact (own trivial).elim
  restored _ c d _ fits same := fits.congr same.symm rfl

/-! ## Checkpoints -/

theorem checkpoint_checkpoint (c : Cell) : c.checkpoint.checkpoint = c.checkpoint := rfl

/-- What a cell remembers is equal to itself unless it holds a number that is none. -/
theorem hasChanged_checkpoint (c : Cell) :
    c.checkpoint.hasChanged = (c.state.lazy.isSome || c.state.slot.hasNaN) := by
  have slot := Slot.partialEquality.self c.state.slot
  cases waits : c.state.lazy with
  | none =>
    simp only [hasChanged, checkpoint, CellState.same, waits, slot, Option.isSome_none,
      Bool.false_or, Bool.true_and, Bool.not_not]
  | some l => simp only [hasChanged, checkpoint, waits, Option.isSome_some, Bool.true_or]

end Cell

/-- A checkpoint in some cells, which may stand twice. -/
theorem Store.cells_checkpoint (s : Store) (entries : List (Column × CellId)) (id : CellId) :
    (entries.foldl (fun s (_, cell) => s.adjustCell cell Cell.checkpoint) s).cells[id]? =
      if id ∈ entries.map Prod.snd then (s.cells[id]?).map Cell.checkpoint else s.cells[id]? := by
  induction entries generalizing s with
  | nil => simp
  | cons entry rest ih =>
    obtain ⟨column, cell⟩ := entry
    rw [List.foldl_cons, ih]
    dsimp only [Store.adjustCell]
    rw [List.map_cons]
    by_cases here : cell = id
    · subst here
      rw [List.getElem?_modify_eq, if_pos List.mem_cons_self]
      cases s.cells[cell]? <;> simp [Cell.checkpoint_checkpoint]
    · have among : id ∈ cell :: rest.map Prod.snd ↔ id ∈ rest.map Prod.snd :=
        List.mem_cons.trans (or_iff_right fun same => here same.symm)
      rw [List.getElem?_modify_ne _ _ here]
      simp only [among]

theorem Store.infos_checkpoint (s : Store) (entries : List (Column × CellId)) :
    (entries.foldl (fun s (_, cell) => s.adjustCell cell Cell.checkpoint) s).infos = s.infos := by
  induction entries generalizing s with
  | nil => rfl
  | cons entry rest ih => exact ih (s.adjustCell entry.2 Cell.checkpoint)

/-! ## Records in a run -/

/-- The program has a companion that keeps a journal. -/
def Accompanied (restores : Prop) (act : Act (World υ) α) : Prop :=
  ∃ companion, Journals restores act companion

namespace Accompanied

variable {restores : Prop} {foreign : Foreign υ}

theorem aside {act : Act (World υ) α} (leaves : LeavesCells act) : Accompanied restores act :=
  ⟨_, .aside leaves⟩

theorem bind {first : Act (World υ) α} {next : α → Act (World υ) β}
    (head : Accompanied restores first) (tail : ∀ a, Accompanied restores (next a)) :
    Accompanied restores (first >>= next) := by
  obtain ⟨companion, follows⟩ := head
  choose companions follow using tail
  exact ⟨_, .bind follows follow⟩

/-- The cell of a column is built of the first value that its source gives. -/
theorem ofColumn (sources : ∀ source w, (foreign.initial source w).2.store.cells = w.store.cells)
    (column : Column) (bus : Option BusId) (context : Option ContextSource) :
    Accompanied restores (Cell.ofColumn foreign column bus context) := by
  let validator := column.factory.validator.map fun named =>
    (⟨named.1, named.2, context⟩ : Validator)
  let build := Cell.build (υ := υ) column.factory.kind column.factory.allowNull (some column)
    bus validator
  have builds : ∀ first, Accompanied restores (build first) := fun first => ⟨_, .build ..⟩
  cases initial : column.factory.initial with
  | none =>
    have made : Cell.ofColumn foreign column bus context = build none := by
      unfold Cell.ofColumn
      simp only [initial]
      rfl
    exact made ▸ builds none
  | some source =>
    have made : Cell.ofColumn foreign column bus context =
        Act.update (foreign.initial source) >>= fun first => build (some (first, .program)) := by
      unfold Cell.ofColumn
      simp only [initial]
      funext w
      rfl
    exact made ▸ .bind (.aside fun w => sources source w) fun first => builds _

theorem makeCells (sources : ∀ source w, (foreign.initial source w).2.store.cells = w.store.cells)
    (bus : BusId) (info : InfoId) (columns : List Column) :
    Accompanied restores (Info.makeCells foreign bus info columns) := by
  induction columns with
  | nil => exact .aside fun _ => rfl
  | cons column rest ih =>
    exact .bind (.ofColumn sources column _ _) fun cell => ih.bind fun cells => .aside fun _ => rfl

theorem classInfo (declarations : ∀ id w, (foreign.declared id w).2.store.cells = w.store.cells)
    (id : ClassId) :
    Accompanied restores (Info.classInfo foreign id) := by
  refine .bind (.aside fun _ => rfl) fun found => ?_
  cases found with
  | some known => exact .aside fun _ => rfl
  | none =>
    refine .bind (.aside fun w => declarations id w) fun d => ?_
    cases ClassInfo.build d.typeName d.table d.columns d.primary d.order with
    | error fault => exact .aside fun _ => rfl
    | ok built =>
      refine .aside fun w => ?_
      dsimp only [World.update]
      split <;> rfl

/-- The record of an object is made within a run, as long as the declarations and the sources of
initial values leave the cells alone. -/
theorem ofObject (sources : ∀ source w, (foreign.initial source w).2.store.cells = w.store.cells)
    (declarations : ∀ id w, (foreign.declared id w).2.store.cells = w.store.cells)
    (object : ObjectId) :
    Accompanied restores (Info.ofObject foreign object) := by
  have create : Accompanied restores (Info.create foreign object) := by
    refine .bind (.aside fun _ => rfl) fun found => ?_
    cases found with
    | none => exact .aside fun _ => rfl
    | some o =>
      refine (classInfo declarations o.classId).bind fun known =>
        .bind (.aside fun _ => rfl) fun numbers => ?_
      exact (makeCells sources numbers.2 numbers.1 known.columns).bind fun cells =>
        .bind (.aside fun _ => rfl) fun _ => .aside fun _ => rfl
  refine .bind (.aside fun _ => rfl) fun attached => ?_
  cases attached with
  | some info => exact .bind (.aside fun _ => rfl) fun _ => .aside fun _ => rfl
  | none =>
    refine create.bind fun made => ?_
    cases made with
    | none => exact .aside fun _ => rfl
    | some made =>
      refine .bind (.aside fun _ => rfl) fun attached => ?_
      cases attached with
      | some info => exact .bind (.aside fun _ => rfl) fun _ => .aside fun _ => rfl
      | none => exact .bind (.aside fun _ => rfl) fun _ => .aside fun _ => rfl

/-- A checkpoint of a record is one of each of its cells, so runs may go on behind it. -/
theorem setCheckpoint (info : InfoId) :
    Accompanied (υ := υ) restores (Info.setCheckpoint info) := by
  have all : ∀ entries : List (Column × CellId), Accompanied (υ := υ) restores
      (World.change fun s => entries.foldl
        (fun s (_, cell) => s.adjustCell cell Cell.checkpoint) s) := by
    intro entries
    induction entries with
    | nil => exact .aside fun _ => rfl
    | cons entry rest ih =>
      have first : Accompanied (υ := υ) restores (Cell.setCheckpoint entry.2) :=
        ⟨_, .checkpoint entry.2⟩
      exact first.bind fun _ => ih
  have found : Info.setCheckpoint (υ := υ) info = World.read (fun s => s.infos[info]?) >>= fun i =>
      World.change fun s =>
        (i.elim [] Info.cells).foldl (fun s (_, cell) => s.adjustCell cell Cell.checkpoint) s := by
    funext w
    have read : World.read (fun s => s.infos[info]?) w = (.ok w.store.infos[info]?, w) := rfl
    rw [Act.bind_of_ok _ _ _ _ _ read]
    cases there : w.store.infos[info]? <;>
      simp only [Info.setCheckpoint, World.change, there, Option.elim_none, Option.elim_some,
        List.foldl_nil]
  rw [found]
  exact .bind (.aside fun _ => rfl) fun i => all _

end Accompanied

namespace Info

variable {w : World υ} {info : InfoId} {i : Info}

theorem setCheckpoint_of_there (there : w.store.infos[info]? = some i) :
    setCheckpoint info w =
      (.ok (),
        { w with store := i.cells.foldl (fun s (_, cell) => s.adjustCell cell
          Cell.checkpoint) w.store }) := by
  simp only [setCheckpoint, World.change, there]

/-- The cells of the record remember how they are, and all others stay as they are. -/
theorem cells_setCheckpoint (there : w.store.infos[info]? = some i) (id : CellId) :
    (setCheckpoint info w).2.store.cells[id]? =
      if id ∈ i.cells.map Prod.snd then (w.store.cells[id]?).map Cell.checkpoint
      else w.store.cells[id]? := by
  rw [setCheckpoint_of_there there]
  exact w.store.cells_checkpoint i.cells id

theorem cells_setCheckpoint_of_mem (there : w.store.infos[info]? = some i) {entry : Column × CellId}
    (isEntry : entry ∈ i.cells) :
    (setCheckpoint info w).2.store.cells[entry.2]? =
      (w.store.cells[entry.2]?).map Cell.checkpoint := by
  rw [cells_setCheckpoint there, if_pos (List.mem_map_of_mem isEntry)]

/-- After a checkpoint of a record for none of whose cells a lazy value waits, each cell has changed
exactly if it holds a number that is none, and the record has exactly if one of its cells has.
Nothing else about the cells has changed. In a run, cells of other kinds than the three never hold
one. -/
theorem checkpoint_leaves_clean_but_for_nan (there : w.store.infos[info]? = some i)
    (settled : ∀ entry ∈ i.cells, ∀ c, w.store.cells[entry.2]? = some c → c.state.lazy = none) :
    let done := setCheckpoint info w
    done.1 = .ok () ∧ done.2.store.infos[info]? = some i ∧
    (∀ id : CellId, (done.2.store.cells[id]?).map Cell.state =
      (w.store.cells[id]?).map Cell.state) ∧
    (∀ entry ∈ i.cells, ∀ c, done.2.store.cells[entry.2]? = some c →
      c.hasChanged = c.state.slot.hasNaN) ∧
    (hasChanged done.2.store i = false ↔
      ∀ entry ∈ i.cells, ∀ c, w.store.cells[entry.2]? = some c → c.state.slot.hasNaN = false) ∧
    ∀ restores start journal, w.Within restores start journal → ∀ (id : CellId) (c : Cell),
      w.store.cells[id]? = some c → c.kind.admitsNaN = false → c.state.slot.hasNaN = false := by
  have changed : ∀ entry ∈ i.cells, ∀ c, w.store.cells[entry.2]? = some c →
      c.checkpoint.hasChanged = c.state.slot.hasNaN := by
    intro entry isEntry c found
    rw [c.hasChanged_checkpoint, settled entry isEntry c found]
    rfl
  refine ⟨?_, ?_, ?_, ?_, ?_, ?_⟩
  · rw [setCheckpoint_of_there there]
  · rw [setCheckpoint_of_there there]
    exact (congrArg (·[info]?) (w.store.infos_checkpoint i.cells)).trans there
  · intro id
    rw [cells_setCheckpoint there]
    split
    · rw [Option.map_map]
      rfl
    · rfl
  · intro entry isEntry c found
    rw [cells_setCheckpoint_of_mem there isEntry] at found
    obtain ⟨before, was, rfl⟩ := Option.map_eq_some_iff.mp found
    exact changed entry isEntry before was
  · rw [hasChanged, List.any_eq_false]
    refine forall₂_congr fun entry isEntry => ?_
    dsimp only
    rw [cells_setCheckpoint_of_mem there isEntry]
    cases found : w.store.cells[entry.2]? with
    | none => simp
    | some c => simp [changed entry isEntry c found]
  · intro restores start journal within id c found
    exact within.holds (Cell.fitsKind_invariant restores) (fun _ made => made.fitsKind) c
      (List.mem_of_getElem? found)

def unmeasured : World Unit := ⟨(Store.empty.addObject 0).2, ()⟩

/-- A program whose objects have a column of integers and one of floating point numbers. -/
def gauging : Foreign Unit :=
  { Foreign.ofCall fun _ _ _ => pure .keep with
    declared := fun _ w =>
      (⟨"Gauge", ⟨"gauges"⟩, [⟨0, "level", none, 0, { kind := .int }⟩,
        ⟨1, "reading", none, 0, { kind := .float }⟩], some ["level"], []⟩, w) }

/-- Asks for the record of the object, assigns a number to its first cell and lets the database
bring one for the second. -/
def gauge (reading : Float) : Act (World Unit) Unit := do
  let _ ← ofObject gauging 0
  Cell.set gauging 0 (.value (.int 3)) .program
  Cell.set gauging 1 (.value (.float reading)) .database

theorem gauge_accompanied (reading : Float) : Accompanied False (gauge reading) := by
  let silent : Foreign (Journaled Unit) := .ofCall fun _ _ _ => pure .keep
  have sets : ∀ id a source, Accompanied False (Cell.set gauging id a source) := fun id a source =>
    ⟨Journal.set silent id a source,
      .set (fun _ _ _ => .pure _) (fun _ _ _ _ => .pure _) id a source⟩
  have record : Accompanied False (ofObject gauging 0) :=
    .ofObject (fun _ _ => rfl) (fun _ _ => rfl) 0
  exact record.bind fun _ => (sets 0 _ _).bind fun _ => sets 1 _ _

/-- The record has changed before a checkpoint and is clean after it. The first cell could not hold
a number that is none, whatever was assigned to it. -/
theorem gauged_is_clean :
    let w := (gauge 1.5 unmeasured).2
    (w.store.infos[0]?).map (hasChanged w.store) = some true ∧
    ((setCheckpoint 0 w).2.store.infos[0]?).map (hasChanged (setCheckpoint 0 w).2.store) =
    some false ∧
    (w.store.cells[0]?).map (fun c => c.state.slot.hasNaN) = some false := by
  have before : (gauge 1.5 unmeasured).2.store.infos[0]? = some _ := rfl
  obtain ⟨-, there, -, -, clean, ordinary⟩ := checkpoint_leaves_clean_but_for_nan before (by
    intro entry isEntry c found
    fin_cases isEntry <;> cases found <;> rfl)
  refine ⟨rfl, ?_, ?_⟩
  · rw [there, Option.map_some, clean.mpr]
    intro entry isEntry c found
    fin_cases isEntry <;> cases found <;> decide
  · obtain ⟨companion, journals⟩ := gauge_accompanied 1.5
    have fair := journals.accounts.restoresFrom (w := unmeasured) .start
    have within := World.Within.ofRun journals (List.forall_mem_nil _) fair
    have level : (gauge 1.5 unmeasured).2.store.cells[0]? = some _ := rfl
    rw [level, Option.map_some, ordinary False _ _ within 0 _ level rfl]

/-- A record with a number that is none has changed directly after a checkpoint, though no lazy
value waits. -/
theorem strange_gauge_stays_changed :
    let w := (gauge (0 / 0) unmeasured).2
    let after := (setCheckpoint 0 w).2.store
    (∀ c ∈ w.store.cells, c.state.lazy = none) ∧ (after.cells[1]?).map Cell.hasChanged = some true ∧
      (after.infos[0]?).map (hasChanged after) = some true := by
  refine ⟨?_, ?_, ?_⟩
  · intro c isCell
    fin_cases isCell <;> rfl
  · decide
  · decide

end Info

end RowMapper
