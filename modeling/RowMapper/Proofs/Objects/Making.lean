import RowMapper.Proofs.Objects.Classes
import RowMapper.Proofs.Objects.Operations
/-!
The making of records. The cells of a record are made one after the other in the order of its
columns, each in the state that the default of its column gives, up to the first default that cannot
be applied. The record that comes of it has its columns, its cells and its key agree place by place.
-/

set_option autoImplicit false

namespace RowMapper

variable {υ : Type} {foreign : Foreign υ} {w middle begun reached after : World υ}
    {object : ObjectId} {o : Obj} {info : InfoId} {bus : BusId} {known : ClassInfo}
    {column : Column} {columns : List Column} {i : Info} {s s' : Store} {e : Error}

/-! ## Defaults -/

/-- What the default of a column makes of a new cell: the state that it gives, or why it cannot be
applied. Without one there is nothing in the cell. -/
inductive Column.Begins (foreign : Foreign υ) (column : Column) :
    World υ → Except Error CellState → World υ → Prop
  | bare {w : World υ} (without : column.factory.initial = none) :
      Begins foreign column w (.ok ⟨none, .undefined⟩) w
  | lazy {w after : World υ} {source : DefaultId} {l : Lazy}
      (default : column.factory.initial = some source)
      (gives : foreign.initial source w = (.lazy l, after)) :
      Begins foreign column w (.ok ⟨some l, .undefined⟩) after
  | null {w after : World υ} {source : DefaultId} (default : column.factory.initial = some source)
      (gives : foreign.initial source w = (.null, after))
      (allowed : column.factory.allowNull = true) :
      Begins foreign column w (.ok ⟨none, .null⟩) after
  | value {w after : World υ} {source : DefaultId} {v kept : Value}
      (default : column.factory.initial = some source)
      (gives : foreign.initial source w = (.value v, after))
      (accepted : column.factory.kind.accept .program v = .ok kept) :
      Begins foreign column w (.ok ⟨none, .value kept⟩) after
  | nullNotAllowed {w after : World υ} {source : DefaultId}
      (default : column.factory.initial = some source)
      (gives : foreign.initial source w = (.null, after))
      (forbidden : column.factory.allowNull = false) :
      Begins foreign column w (.error (.nullNotAllowed (some column.qualifiedName))) after
  | refused {w after : World υ} {source : DefaultId} {v : Value} {e : Error}
      (default : column.factory.initial = some source)
      (gives : foreign.initial source w = (.value v, after))
      (refuses : column.factory.kind.accept .program v = .error e) :
      Begins foreign column w (.error e) after

/-- Asks the default of a column for the state of a new cell. -/
def Column.begin (foreign : Foreign υ) (column : Column) : Act (World υ) CellState :=
  match column.factory.initial with
  | none => pure CellState.initial
  | some source => do
    let first ← Act.update (foreign.initial source)
    Act.lift (CellState.ofAssignment column.factory.kind column.factory.allowNull (some column)
      .program first)

theorem CellState.ofAssignment_of_accepted {kind : Kind} {allowNull : Bool} {column : Option Column}
    {v kept : Value} (accepted : kind.accept .program v = .ok kept) :
    ofAssignment kind allowNull column .program (.value v) = .ok ⟨none, .value kept⟩ := by
  simp only [ofAssignment, accepted]
  rfl

theorem CellState.ofAssignment_of_refused {kind : Kind} {allowNull : Bool}
    {column : Option Column} {v : Value} (refuses : kind.accept .program v = .error e) :
    ofAssignment kind allowNull column .program (.value v) = .error e := by
  simp only [ofAssignment, refuses]
  rfl

theorem Column.begin_of_default {source : DefaultId} {a : Assignment}
    (default : column.factory.initial = some source)
    (gives : foreign.initial source w = (a, after)) : column.begin foreign w =
      (CellState.ofAssignment column.factory.kind column.factory.allowNull (some column) .program a,
        after) := by
  rw [begin, default]
  exact Act.bind_of_ok _ _ w after a (by rw [Act.update, gives])

theorem Column.begin_eq_iff {result : Except Error CellState} :
    column.begin foreign w = (result, after) ↔ column.Begins foreign w result after := by
  constructor
  · intro ran
    cases default : column.factory.initial with
    | none =>
      rw [begin, default] at ran
      cases ran
      exact .bare default
    | some source =>
      obtain ⟨a, later⟩ : ∃ a, foreign.initial source w = (a, (foreign.initial source w).2) :=
        ⟨_, rfl⟩
      cases ran.symm.trans (begin_of_default default later)
      cases a with
      | lazy l => exact .lazy default later
      | null =>
        cases allowed : column.factory.allowNull with
        | true => exact .null default later allowed
        | false => exact .nullNotAllowed default later allowed
      | value v =>
        cases accepts : column.factory.kind.accept .program v with
        | ok kept =>
          rw [CellState.ofAssignment_of_accepted accepts]
          exact .value default later accepts
        | error e =>
          rw [CellState.ofAssignment_of_refused accepts]
          exact .refused default later accepts
  · intro begins
    cases begins with
    | bare without => rw [begin, without]; rfl
    | lazy default gives => exact begin_of_default default gives
    | null default gives allowed =>
      rw [begin_of_default default gives, CellState.ofAssignment, if_pos allowed]
    | value default gives accepted =>
      rw [begin_of_default default gives, CellState.ofAssignment_of_accepted accepted]
    | nullNotAllowed default gives forbidden =>
      rw [begin_of_default default gives, CellState.ofAssignment, forbidden]
      rfl
    | refused default gives refuses =>
      rw [begin_of_default default gives, CellState.ofAssignment_of_refused refuses]

/-! ## Cells in a row -/

def Column.cell (column : Column) (info : InfoId) (bus : BusId) (state : CellState) : Cell where
  kind := column.factory.kind
  allowNull := column.factory.allowNull
  column := some column
  bus := some bus
  validator := column.factory.validator.map fun (rule, name) => ⟨rule, name, some (.objectOf info)⟩
  state := state
  baseline := none

def World.adding (w : World υ) (c : Cell) : World υ := { w with store := (w.store.addCell c).2 }

/-- A cell made for a column, and the state that it began with. -/
structure Fresh where
  column : Column
  cell : CellId
  state : CellState

/-- Cells have been made one after the other: each began as the default of its column has it. -/
inductive Makes (foreign : Foreign υ) (info : InfoId) (bus : BusId) :
    World υ → List Fresh → World υ → Prop
  | none (w : World υ) : Makes foreign info bus w [] w
  | one {w begun after : World υ} {column : Column} {state : CellState} {rest : List Fresh}
      (begins : column.Begins foreign w (.ok state) begun)
      (others : Makes foreign info bus (begun.adding (column.cell info bus state)) rest after) :
      Makes foreign info bus w (⟨column, begun.store.cells.length, state⟩ :: rest) after

/-- The entry of a cell in its record. -/
def Fresh.entry (fresh : Fresh) : Column × CellId := (fresh.column, fresh.cell)

theorem Cell.ofColumn_eq : Cell.ofColumn foreign column (some bus) (some (.objectOf info)) =
    column.begin foreign >>= fun state =>
      World.update (·.addCell (column.cell info bus state)) := by
  funext w
  unfold Cell.ofColumn Column.begin
  cases column.factory.initial <;> rfl

theorem Act.bind_pure_apply {σ α β : Type} (act : Act σ α) (f : α → β) (s : σ) :
    (act >>= fun a => pure (f a)) s = ((act s).1.map f, (act s).2) := by
  rcases ran : act s with ⟨e | a, after⟩
  · rw [bind_of_error _ _ _ _ _ ran]
    rfl
  · rw [bind_of_ok _ _ _ _ _ ran]
    rfl

namespace Info

theorem makeCells_of_refused {rest : List Column}
    (begins : column.Begins foreign w (.error e) after) :
    makeCells foreign bus info (column :: rest) w = (.error e, after) := by
  rw [makeCells, Cell.ofColumn_eq]
  exact Act.bind_of_error _ _ _ _ _ (Act.bind_of_error _ _ _ _ _ (Column.begin_eq_iff.mpr begins))

theorem makeCells_of_begun {rest : List Column} {state : CellState}
    (begins : column.Begins foreign w (.ok state) begun) :
    makeCells foreign bus info (column :: rest) w =
      let made := makeCells foreign bus info rest (begun.adding (column.cell info bus state))
      (made.1.map ((column, begun.store.cells.length) :: ·), made.2) := by
  have made : Cell.ofColumn foreign column (some bus) (some (.objectOf info)) w =
      (.ok begun.store.cells.length, begun.adding (column.cell info bus state)) := by
    rw [Cell.ofColumn_eq]
    exact Act.bind_of_ok _ _ _ _ _ (Column.begin_eq_iff.mpr begins)
  rw [makeCells, Act.bind_of_ok _ _ _ _ _ made]
  exact Act.bind_pure_apply _ _ _

/-- The cells of the first columns have been made, and the making goes on with the others. -/
theorem makeCells_append {fresh : List Fresh} {rest : List Column}
    (makes : Makes foreign info bus w fresh reached) :
    makeCells foreign bus info (fresh.map Fresh.column ++ rest) w =
      let made := makeCells foreign bus info rest reached
      (made.1.map (fresh.map Fresh.entry ++ ·), made.2) := by
  induction makes with
  | none w =>
    rcases made : makeCells foreign bus info rest w with ⟨_ | _, _⟩ <;> simp [made, Except.map]
  | @one w begun after column state fresh begins others ih =>
    rw [List.map_cons, List.cons_append, makeCells_of_begun begins, ih]
    rcases makeCells foreign bus info rest after with ⟨_ | _, _⟩ <;> rfl

/-- Cells are made exactly of columns whose defaults can be applied one after the other. -/
theorem makeCells_eq_ok_iff {cells : List (Column × CellId)} :
    makeCells foreign bus info columns w = (.ok cells, after) ↔
      ∃ fresh, Makes foreign info bus w fresh after ∧ fresh.map Fresh.column = columns ∧
        fresh.map Fresh.entry = cells := by
  constructor
  · intro ran
    induction columns generalizing w cells with
    | nil =>
      cases ran
      exact ⟨[], .none _, rfl, rfl⟩
    | cons column rest ih =>
      rcases began : column.begin foreign w with ⟨e | state, begun⟩
      · rw [makeCells_of_refused (Column.begin_eq_iff.mp began)] at ran
        cases ran
      · rw [makeCells_of_begun (Column.begin_eq_iff.mp began)] at ran
        rcases made : makeCells foreign bus info rest (begun.adding (column.cell info bus state))
          with ⟨e | others, last⟩
        · rw [made] at ran
          cases ran
        · rw [made] at ran
          cases ran
          obtain ⟨fresh, makes, same, entries⟩ := ih made
          exact ⟨_, .one (Column.begin_eq_iff.mp began) makes, congrArg (column :: ·) same,
            congrArg (_ :: ·) entries⟩
  · rintro ⟨fresh, makes, rfl, rfl⟩
    have whole : makeCells foreign bus info (fresh.map Fresh.column ++ []) w = _ :=
      makeCells_append makes
    rw [List.append_nil] at whole
    rw [whole]
    simp [makeCells, Except.map]

/-- The making stops at the first default that cannot be applied, and asks none of the later
ones. -/
theorem makeCells_eq_error_iff :
    makeCells foreign bus info columns w = (.error e, after) ↔
      ∃ fresh column later reached, columns = fresh.map Fresh.column ++ column :: later ∧
        Makes foreign info bus w fresh reached ∧
        column.Begins foreign reached (.error e) after := by
  constructor
  · intro ran
    induction columns generalizing w with
    | nil => cases ran
    | cons column rest ih =>
      rcases began : column.begin foreign w with ⟨f | state, begun⟩
      · rw [makeCells_of_refused (Column.begin_eq_iff.mp began)] at ran
        cases ran
        exact ⟨[], column, rest, w, rfl, .none w, Column.begin_eq_iff.mp began⟩
      · rw [makeCells_of_begun (Column.begin_eq_iff.mp began)] at ran
        rcases made : makeCells foreign bus info rest (begun.adding (column.cell info bus state))
          with ⟨f | others, last⟩
        · rw [made] at ran
          cases ran
          obtain ⟨fresh, refused, later, reached, rfl, makes, begins⟩ := ih made
          exact ⟨_, refused, later, reached, rfl, .one (Column.begin_eq_iff.mp began) makes, begins⟩
        · rw [made] at ran
          cases ran
  · rintro ⟨fresh, column, later, reached, rfl, makes, begins⟩
    rw [makeCells_append makes, makeCells_of_refused begins]
    rfl

end Info

/-! ## Records in the making -/

/-- A record in the making: it has no cells yet, and nothing refers to it. -/
structure Store.Unmade (s : Store) (info : InfoId) (i : Info) : Prop where
  there : s.infos[info]? = some i
  bare : i.cells = []
  unreferenced : i.references = 0

/-- Records in the making are left as they are, with their buses and with the cells on these. -/
structure Store.SparesUnmade (s s' : Store) : Prop where
  info : ∀ {info : InfoId} {i : Info}, s.Unmade info i → s'.Unmade info i
  bus : ∀ {info : InfoId} {i : Info}, s.Unmade info i → s'.buses[i.bus]? = s.buses[i.bus]?
  cell : ∀ {info : InfoId} {i : Info} {cell : CellId} {c : Cell}, s.Unmade info i →
    s.cells[cell]? = some c →
    c.bus = some i.bus → s'.cells[cell]? = some c

/-- The sources of initial values cannot get at records in the making. -/
def Foreign.SparesUnmade (foreign : Foreign υ) : Prop :=
  ∀ source (w : World υ), w.store.SparesUnmade (foreign.initial source w).2.store

namespace Store.SparesUnmade

theorem refl (s : Store) : s.SparesUnmade s := ⟨id, fun _ => rfl, fun _ there _ => there⟩

theorem trans {t : Store} (first : s.SparesUnmade s') (second : s'.SparesUnmade t) :
    s.SparesUnmade t where
  info unmade := second.info (first.info unmade)
  bus unmade := (second.bus (first.info unmade)).trans (first.bus unmade)
  cell unmade there on := second.cell (first.info unmade) (first.cell unmade there on) on

theorem adding (w : World υ) (c : Cell) : w.store.SparesUnmade (w.adding c).store where
  info unmade := ⟨unmade.there, unmade.bare, unmade.unreferenced⟩
  bus _ := rfl
  cell _ there _ := (List.getElem?_append_left (List.getElem?_eq_some_iff.mp there).1).trans there

end Store.SparesUnmade

/-- A default is at most asked. -/
theorem Column.Begins.asks {result : Except Error CellState}
    (begins : column.Begins foreign w result after) :
    after = w ∨ ∃ source, after = (foreign.initial source w).2 := by
  cases begins with
  | bare => exact .inl rfl
  | lazy _ gives => exact .inr ⟨_, (congrArg Prod.snd gives).symm⟩
  | null _ gives => exact .inr ⟨_, (congrArg Prod.snd gives).symm⟩
  | value _ gives => exact .inr ⟨_, (congrArg Prod.snd gives).symm⟩
  | nullNotAllowed _ gives => exact .inr ⟨_, (congrArg Prod.snd gives).symm⟩
  | refused _ gives => exact .inr ⟨_, (congrArg Prod.snd gives).symm⟩

theorem Column.Begins.spares {result : Except Error CellState} (sparing : foreign.SparesUnmade)
    (begins : column.Begins foreign w result after) : w.store.SparesUnmade after.store := by
  rcases begins.asks with rfl | ⟨source, rfl⟩
  · exact .refl _
  · exact sparing source w

namespace Makes

variable {fresh : List Fresh}

theorem spares (sparing : foreign.SparesUnmade) (makes : Makes foreign info bus w fresh after) :
    w.store.SparesUnmade after.store := by
  induction makes with
  | none w => exact .refl _
  | one begins _ ih => exact ((begins.spares sparing).trans (.adding _ _)).trans ih

/-- At the end all cells are as they were made. -/
theorem cells (sparing : foreign.SparesUnmade) (makes : Makes foreign info bus w fresh after)
    (unmade : w.store.Unmade info i) (own : i.bus = bus) :
    ∀ f ∈ fresh, after.store.cells[f.cell]? = some (f.column.cell info bus f.state) := by
  induction makes with
  | none => exact List.forall_mem_nil _
  | @one w begun after column state rest begins others ih =>
    have added := (begins.spares sparing).trans (.adding begun (column.cell info bus state))
    refine List.forall_mem_cons.mpr ⟨?_, ih (added.info unmade)⟩
    have last : (begun.adding (column.cell info bus state)).store.cells[begun.store.cells.length]? =
        some (column.cell info bus state) := List.getElem?_concat_length
    exact (others.spares sparing).cell (added.info unmade) last (congrArg some own.symm)

end Makes

/-! ## Records and classes -/

/-- A record mirrors its class: it has the columns of the class, and for each of them the cell that
was made, on a bus of its own and in the state that the default gave. The cell is found by its
column and by no other one, and the cells of the key are those of the key columns. -/
structure Info.Mirrors (s : Store) (info : InfoId) (i : Info) (known : ClassInfo)
    (fresh : List Fresh) : Prop where
  bus : s.buses[i.bus]? = some (.ofOwner (.info info))
  columns : i.cells.map Prod.fst = known.columns
  cells : i.cells = fresh.map Fresh.entry
  each : ∀ f ∈ fresh, ∃ c, s.cells[f.cell]? = some c ∧ c.column = some f.column ∧
    c.bus = some i.bus ∧
    c.state = f.state
  found : ∀ f ∈ fresh, Info.cellOf? i f.column = some f.cell
  strange : ∀ other : Column, (∀ c ∈ known.columns, c.id ≠ other.id) → Info.cellOf? i other = none
  key : List.Forall₂ (fun c cell => Info.cellOf? i c = some cell) known.key i.keyCells

namespace Info

theorem cellOf?_eq_none {other : Column} (strange : ∀ entry ∈ i.cells, entry.1.id ≠ other.id) :
    cellOf? i other = none := by
  rw [cellOf?, List.find?_eq_none.mpr, Option.map_none]
  intro entry among same
  exact strange entry (List.mem_reverse.mp among) (eq_of_beq same)

theorem cellOf?_eq_some {entry : Column × CellId}
    (distinct : (i.cells.map fun entry => entry.1.id).Nodup) (among : entry ∈ i.cells) :
    cellOf? i entry.1 = some entry.2 := by
  have somewhere : (i.cells.reverse.find? fun other => other.1.same entry.1).isSome :=
    List.find?_isSome.mpr ⟨entry, List.mem_reverse.mpr among, beq_self_eq_true entry.1.id⟩
  obtain ⟨last, found⟩ := Option.isSome_iff_exists.mp somewhere
  have same : last.1.same entry.1 = true := by simpa using List.find?_some found
  have inside : last ∈ i.cells := List.mem_reverse.mp (List.mem_of_find?_eq_some found)
  have itself : last = entry := List.inj_on_of_nodup_map distinct inside among (eq_of_beq same)
  rw [cellOf?, found, itself, Option.map_some]

/-- The cells in the places of the key columns are found by the key columns. -/
theorem forall₂_keyCells {key : List Column} {places : List Nat}
    (standing : List.Forall₂ (ClassInfo.StandsAt columns) key places)
    (same : i.cells.map Prod.fst = columns) (distinct : (columns.map Column.id).Nodup) :
    List.Forall₂ (fun c cell => cellOf? i c = some cell) key
      (places.filterMap fun place => (i.cells[place]?).map Prod.snd) := by
  induction standing with
  | nil => exact .nil
  | @cons c place key places stands _ ih =>
    subst same
    obtain ⟨entry, there, rfl⟩ : ∃ entry, i.cells[place]? = some entry ∧ entry.1 = c := by
      simpa using stands.1
    rw [List.filterMap_cons_some (by rw [there, Option.map_some])]
    refine .cons (cellOf?_eq_some ?_ (List.mem_of_getElem? there)) ih
    rwa [List.map_map] at distinct

/-- A record that was set aside is in the making. -/
theorem unmade_reserving (classId : ClassId) :
    (w.reserving classId object).store.Unmade w.store.infos.length
      ⟨classId, [], [], object, false, w.store.buses.length, 0⟩ :=
  ⟨List.getElem?_concat_length, rfl, rfl⟩

/-- The finished record, with the cells that were made for the columns of its class. -/
theorem mirrors_of_makes {typeName : String} {table : Table} {primary : Option (List String)}
    {items : List String} {fresh : List Fresh} {classId : ClassId} (finish : Info → Info)
    (built : ClassInfo.build typeName table columns primary items = .ok known)
    (distinct : (columns.map Column.id).Nodup) (sparing : foreign.SparesUnmade)
    (makes : Makes foreign middle.store.infos.length middle.store.buses.length
      (middle.reserving classId object) fresh reached) (same :
      fresh.map Fresh.column = known.columns) :
    let finished : Info := {
      classId, object, notified := false, bus := middle.store.buses.length, references := 1
      cells := fresh.map Fresh.entry
      keyCells := known.keyPositions.filterMap fun place =>
        ((fresh.map Fresh.entry)[place]?).map Prod.snd }
    finished.Mirrors (reached.store.adjustInfo middle.store.infos.length finish)
      middle.store.infos.length known
      fresh := by
  intro finished
  have unmade : (middle.reserving classId object).store.Unmade _ _ := unmade_reserving classId
  have declared := ClassInfo.columns_of_build built
  have entries : finished.cells.map Prod.fst = columns := by
    rw [← declared, ← same, List.map_map]
    rfl
  have numbers : (finished.cells.map fun entry => entry.1.id).Nodup := by
    rw [← entries, List.map_map] at distinct
    exact distinct
  exact {
    bus := ((makes.spares sparing).bus unmade).trans List.getElem?_concat_length
    columns := entries.trans declared.symm
    cells := rfl
    each := fun f among => ⟨_, makes.cells sparing unmade rfl f among, rfl, rfl, rfl⟩
    found := fun f among => cellOf?_eq_some numbers (List.mem_map_of_mem among)
    strange := by
      intro other strange
      refine cellOf?_eq_none fun entry among => strange entry.1 ?_
      rw [declared, ← entries]
      exact List.mem_map_of_mem among
    key := forall₂_keyCells (ClassInfo.standing_of_build distinct built) entries distinct }

/-- A record is made of its cells. -/
theorem create_eq_ok_iff {result : Option InfoId} (there : w.store.objects[object]? = some o)
    (found : classInfo foreign o.classId w = (.ok known, middle)) :
    create foreign object w = (.ok result, after) ↔ ∃ cells reached,
      makeCells foreign middle.store.buses.length middle.store.infos.length known.columns
        (middle.reserving o.classId object) = (.ok cells, reached) ∧
      result = some middle.store.infos.length ∧
      after =
      { reached with store := reached.store.adjustInfo middle.store.infos.length fun i => { i with
        cells
        keyCells := known.keyPositions.filterMap fun place => (cells[place]?).map Prod.snd
        references := 1 } } := by
  rcases ran : makeCells foreign middle.store.buses.length middle.store.infos.length known.columns
    (middle.reserving o.classId object) with ⟨e | cells, reached⟩
  · simp [create_of_unfinished there found ran]
  · simp [create_of_made there found ran, eq_comm]

/-- Only its cells can keep a record from being made. -/
theorem create_eq_error_iff (there : w.store.objects[object]? = some o)
    (found : classInfo foreign o.classId w = (.ok known, middle)) :
    create foreign object w = (.error e, after) ↔
      makeCells foreign middle.store.buses.length middle.store.infos.length known.columns
        (middle.reserving o.classId object) = (.error e, after) := by
  rcases ran : makeCells foreign middle.store.buses.length middle.store.infos.length known.columns
    (middle.reserving o.classId object) with ⟨f | cells, reached⟩
  · simp [create_of_unfinished there found ran]
  · simp [create_of_made there found ran]

theorem makeCells_congr (call : CallbackId → Owner → List Arg → Act (World υ) Flow)
    (validate : RuleId → Option ContextRef → String → Option Value → Act (World υ) (Option Value)) :
    makeCells { foreign with call, validate } bus info columns =
      makeCells foreign bus info columns := by
  induction columns with
  | nil => rfl
  | cons column rest ih =>
    rw [makeCells, makeCells, ih]
    rfl

/-- Making a record calls no callback and applies no validator. -/
theorem create_congr (call : CallbackId → Owner → List Arg → Act (World υ) Flow)
    (validate : RuleId → Option ContextRef → String → Option Value → Act (World υ) (Option Value)) :
    create { foreign with call, validate } object w = create foreign object w := by
  simp only [create, makeCells_congr]
  rfl

end Info

/-- The making of a record of a class that was put together out of columns with numbers of their
own. It fails exactly if the default of a column cannot be applied, with the error of the first such
column, when those before it have their cells and none after it has been asked. Otherwise the record
mirrors the class. No callback is called and no validator is applied. -/
theorem record_mirrors_class {typeName : String} {table : Table} {primary : Option (List String)}
    {items : List String} (there : w.store.objects[object]? = some o)
    (found : Info.classInfo foreign o.classId w = (.ok known, middle))
    (built : ClassInfo.build typeName table columns primary items = .ok known)
    (distinct : (columns.map Column.id).Nodup) (sparing : foreign.SparesUnmade) :
    let info := middle.store.infos.length
    let Made := Makes foreign info middle.store.buses.length (middle.reserving o.classId object)
    (∀ e after, Info.create foreign object w = (.error e, after) ↔
      ∃ fresh column later reached, columns = fresh.map Fresh.column ++ column :: later ∧
      Made fresh reached ∧
        column.Begins foreign reached (.error e) after) ∧
    (∀ result after, Info.create foreign object w = (.ok result, after) →
      result = some info ∧ ∃ fresh reached i, Made fresh reached ∧
      fresh.map Fresh.column = columns ∧
        after.store.infos[info]? = some i ∧ i.Mirrors after.store info known fresh) ∧
    ∀ call validate, Info.create { foreign with call, validate } object w =
    Info.create foreign object w := by
  intro info Made
  have declared := ClassInfo.columns_of_build built
  refine ⟨fun e after => ?_, fun result after ran => ?_, Info.create_congr⟩
  · rw [Info.create_eq_error_iff there found, Info.makeCells_eq_error_iff, declared]
  · obtain ⟨cells, reached, made, rfl, rfl⟩ := (Info.create_eq_ok_iff there found).mp ran
    obtain ⟨fresh, makes, same, rfl⟩ := Info.makeCells_eq_ok_iff.mp made
    have set_aside := ((makes.spares sparing).info (Info.unmade_reserving o.classId)).there
    refine ⟨rfl, fresh, reached, _, makes, same.trans declared, ?_,
      Info.mirrors_of_makes _ built distinct sparing makes same⟩
    rw [Store.adjustInfo, List.getElem?_modify_eq, set_aside]
    rfl

/-- Sources of initial values that count how often they are asked: one gives a text, the others
null. -/
def furnishing : Foreign Nat where
  call _ _ _ := pure .keep
  validate _ _ _ v := pure v
  initial source w :=
    (if source = 0 then .value (.text "new") else .null, { w with user := w.user + 1 })
  declared _ w := (⟨"", ⟨""⟩, [], none, []⟩, w)

/-- Columns with defaults, of which the second one is null and two have the same name. -/
def bookColumns (allowNull : Bool) : List Column :=
  [⟨4, "code", none, 0, { initial := some 0 }⟩,
    ⟨7, "note", none, 0, { allowNull, initial := some 1 }⟩,
    ⟨9, "note", none, 0, { initial := some 0 }⟩]

def bookClass (allowNull : Bool) : ClassInfo :=
  ⟨"Book", ⟨"books"⟩, bookColumns allowNull, [⟨4, "code", none, 0, { initial := some 0 }⟩], [0], []⟩

def library (allowNull : Bool) : World Nat where
  store := { Store.empty with
    objects := [⟨0, 1, none, []⟩]
    classes := Dict.empty.insert 0 (bookClass allowNull) }
  user := 0

/-- Where null is allowed the record mirrors the class. Where it is not, the making stops at the
second column. -/
theorem books_mirror_their_class :
    (∃ after i fresh, Info.create furnishing 0 (library true) = (.ok (some 0), after) ∧
      after.store.infos[0]? = some i ∧ i.Mirrors after.store 0 (bookClass true) fresh ∧
        after.user = 3) ∧
    ∃ after, Info.create furnishing 0 (library false) =
      (.error (.nullNotAllowed (some "note")), after) ∧
      after.user = 2 ∧ ∃ (fresh : List Fresh) (column : Column) (later : List Column)
      (reached : World Nat),
        bookColumns false = fresh.map Fresh.column ++ column :: later ∧
        column.Begins furnishing reached (.error (.nullNotAllowed (some "note"))) after := by
  have sparing : furnishing.SparesUnmade := fun _ _ => .refl _
  have built (allowNull : Bool) :
      ClassInfo.build "Book" ⟨"books"⟩ (bookColumns allowNull) (some ["code"]) [] =
      .ok (bookClass allowNull) := rfl
  have distinct (allowNull : Bool) : ((bookColumns allowNull).map Column.id).Nodup := by
    simp [bookColumns]
  have there (allowNull : Bool) : (library allowNull).store.objects[0]? = some ⟨0, 1, none, []⟩ :=
    rfl
  have found (allowNull : Bool) : Info.classInfo furnishing 0 (library allowNull) =
      (.ok (bookClass allowNull), library allowNull) := rfl
  obtain ⟨-, success, -⟩ :=
    record_mirrors_class (there true) (found true) (built true) (distinct true) sparing
  obtain ⟨failure, -, -⟩ :=
    record_mirrors_class (there false) (found false) (built false) (distinct false) sparing
  refine ⟨?_, _, rfl, rfl, ?_⟩
  · obtain ⟨-, fresh, reached, i, -, -, made, mirrors⟩ := success _ _ rfl
    exact ⟨_, i, fresh, rfl, made, mirrors, rfl⟩
  · obtain ⟨fresh, column, later, reached, split, -, begins⟩ := (failure _ _).mp rfl
    exact ⟨fresh, column, later, reached, split, begins⟩

end RowMapper
