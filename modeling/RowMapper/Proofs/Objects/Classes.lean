import Mathlib.Data.List.Forall2
import Mathlib.Data.List.Sort
import RowMapper.Mapping.ClassInfo
/-!
What makes a class. A class has a table with a name, a key, and an order by columns that it has. An
explicit key is looked up name by name; without one the key is made of the columns with a position,
which must differ. What is known of a class then says where each key column stands.
-/

set_option autoImplicit false

namespace RowMapper.ClassInfo

variable {typeName name : String} {table : Table} {columns seen rest key : List Column}
    {names items : List String} {primary : Option (List String)} {c : Column}

/-! ## Columns by name -/

/-- The column is the first one with a name. -/
def IsFirstNamed (columns : List Column) (name : String) (c : Column) : Prop :=
  ∃ before after, columns = before ++ c :: after ∧ c.name = name ∧
    ∀ other ∈ before, other.name ≠ name

theorem IsFirstNamed.mem (first : IsFirstNamed columns name c) : c ∈ columns := by
  obtain ⟨before, after, rfl, -, -⟩ := first
  exact List.mem_append_right _ List.mem_cons_self

theorem IsFirstNamed.name_eq (first : IsFirstNamed columns name c) : c.name = name := by
  obtain ⟨-, -, -, same, -⟩ := first
  exact same

theorem columnNamed?_eq_some_iff : columnNamed? columns name = some c ↔
    IsFirstNamed columns name c := by
  rw [columnNamed?, List.find?_eq_some_iff_append]
  constructor
  · rintro ⟨same, before, after, split, others⟩
    exact ⟨before, after, split, eq_of_beq same,
      fun other among => by simpa using others other among⟩
  · rintro ⟨before, after, split, same, others⟩
    exact ⟨beq_iff_eq.mpr same, before, after, split,
      fun other among => by simpa using others other among⟩

theorem exists_isFirstNamed : (∃ c, IsFirstNamed columns name c) ↔
    ∃ c ∈ columns, c.name = name := by
  constructor
  · rintro ⟨c, first⟩
    exact ⟨c, first.mem, first.name_eq⟩
  · rintro ⟨c, among, same⟩
    have there : (columnNamed? columns name).isSome :=
      List.find?_isSome.mpr ⟨c, among, beq_iff_eq.mpr same⟩
    obtain ⟨d, found⟩ := Option.isSome_iff_exists.mp there
    exact ⟨d, columnNamed?_eq_some_iff.mp found⟩

/-- Everything in a list has something related to it exactly if some list is related to the
whole. -/
theorem exists_forall₂ {α β : Type} {R : α → β → Prop} {l : List α} :
    (∃ l', List.Forall₂ R l l') ↔ ∀ a ∈ l, ∃ b, R a b := by
  constructor
  · rintro ⟨l', related⟩ a among
    induction related with
    | nil => cases among
    | cons first _ ih =>
      rcases List.mem_cons.mp among with rfl | later
      · exact ⟨_, first⟩
      · exact ih later
  · intro each
    induction l with
    | nil => exact ⟨[], .nil⟩
    | cons a rest ih =>
      obtain ⟨b, first⟩ := each a List.mem_cons_self
      obtain ⟨l', others⟩ := ih fun a among => each a (List.mem_cons_of_mem _ among)
      exact ⟨b :: l', .cons first others⟩

/-- What goes through a list item by item, up to the first refusal, succeeds with what each item
gives. -/
theorem eq_ok_iff_forall₂ {α β ε : Type} {all : List α → Except ε (List β)} (each : α → Except ε β)
    (nothing : all [] = .ok [])
    (one : ∀ a rest, all (a :: rest) = each a >>= fun b => (all rest).map (b :: ·)) {l : List α}
    {l' : List β} : all l = .ok l' ↔ List.Forall₂ (fun a b => each a = .ok b) l l' := by
  induction l generalizing l' with
  | nil => simp [nothing, eq_comm]
  | cons a rest ih =>
    rw [one, List.forall₂_cons_left_iff]
    cases first : each a with
    | error e => simp [bind, Except.bind]
    | ok b =>
      simp only [Except.ok.injEq, exists_and_left, exists_eq_left', ← ih]
      cases all rest with
      | error e => simp [bind, Except.bind, Except.map]
      | ok others => simp [bind, Except.bind, Except.map, eq_comm]

theorem map_eq_ok_iff {α β ε : Type} {f : α → β} {result : Except ε α} {b : β} :
    result.map f = .ok b ↔ ∃ a, result = .ok a ∧ f a = b := by
  cases result <;> simp [Except.map]

theorem bind_eq_ok_iff {α β ε : Type} {first : Except ε α} {next : α → Except ε β} {b : β} :
    first >>= next = .ok b ↔ ∃ a, first = .ok a ∧ next a = .ok b := by
  cases first <;> simp [bind, Except.bind]

/-- The first column with a name, or a fault. -/
def columnOr (fault : ClassFault) (columns : List Column) (name : String) :
    Except ClassFault Column :=
  (columnNamed? columns name).elim (.error fault) .ok

theorem columnOr_eq_ok_iff (fault : ClassFault) :
    columnOr fault columns name = .ok c ↔ IsFirstNamed columns name c := by
  rw [← columnNamed?_eq_some_iff, columnOr]
  cases columnNamed? columns name <;> simp

/-! ## Keys -/

theorem namedKey_eq_ok_iff :
    namedKey typeName columns names = .ok key ↔ List.Forall₂ (IsFirstNamed columns) names key := by
  rw [eq_ok_iff_forall₂ (fun name => columnOr (.unknownKeyColumn typeName name) columns name) rfl]
  · simp only [columnOr_eq_ok_iff]
  · intro name rest
    rw [namedKey, columnOr]
    cases columnNamed? columns name <;> rfl

theorem checkPositions_eq_ok_iff : checkPositions typeName seen rest = .ok () ↔
    (rest.map Column.position).Nodup ∧ ∀ c ∈ rest, ∀ other ∈ seen, other.position ≠ c.position := by
  induction rest generalizing seen with
  | nil => simp [checkPositions]
  | cons c rest ih =>
    rw [checkPositions]
    cases found : seen.find? fun other => other.position == c.position with
    | some other =>
      have shared : other.position = c.position := by simpa using List.find?_some found
      simp only [reduceCtorEq, false_iff, not_and]
      intro _ apart
      exact apart c List.mem_cons_self other (List.mem_of_find?_eq_some found) shared
    | none =>
      have apart : ∀ other ∈ seen, other.position ≠ c.position := by
        simpa using List.find?_eq_none.mp found
      simp only [ih, List.map_cons, List.nodup_cons, List.mem_map, not_exists, not_and,
        List.forall_mem_cons]
      constructor
      · rintro ⟨distinct, others⟩
        exact ⟨⟨fun d among same => (others d among).1 same.symm, distinct⟩, apart,
          fun d among => (others d among).2⟩
      · rintro ⟨⟨unlike, distinct⟩, -, others⟩
        exact ⟨distinct, fun d among => ⟨fun same => unlike d among same.symm, others d among⟩⟩

def positioned (columns : List Column) : List Column := columns.filter fun c => c.position ≠ 0

theorem mem_positioned : c ∈ positioned columns ↔ c ∈ columns ∧ c.position ≠ 0 := by
  simp [positioned]

/-- The columns with a position in the order of their positions. -/
def arranged (columns : List Column) : List Column :=
  (positioned columns).mergeSort fun a b => a.position ≤ b.position

theorem arranged_perm (columns : List Column) : (arranged columns).Perm (positioned columns) :=
  List.mergeSort_perm ..

theorem arranged_ordered (columns : List Column) :
    (arranged columns).Pairwise fun a b => a.position ≤ b.position := by
  let before (a b : Column) : Bool := a.position ≤ b.position
  have transitive : ∀ a b c, before a b → before b c → before a c := by
    simp only [before, decide_eq_true_eq]
    omega
  have total : ∀ a b, before a b || before b a := by
    simp only [before, Bool.or_eq_true, decide_eq_true_eq]
    omega
  exact (List.pairwise_mergeSort transitive total (positioned columns)).imp of_decide_eq_true

theorem nodup_positions_congr (same : key.Perm (positioned columns)) :
    (key.map Column.position).Nodup ↔ ((positioned columns).map Column.position).Nodup :=
  (same.map Column.position).nodup_iff

/-- The columns with a position in a strict order: there is one if no two positions are the same. -/
theorem perm_and_increasing_iff :
    (key.Perm (positioned columns) ∧ key.Pairwise fun a b => a.position < b.position) ↔
      ((positioned columns).map Column.position).Nodup ∧ arranged columns = key := by
  constructor
  · rintro ⟨same, increasing⟩
    have distinct : (key.map Column.position).Nodup :=
      List.pairwise_map.mpr (increasing.imp Nat.ne_of_lt)
    have again := (arranged_perm columns).trans same.symm
    refine ⟨(nodup_positions_congr same).mp distinct,
      again.eq_of_pairwise ?_ (arranged_ordered columns) (increasing.imp Nat.le_of_lt)⟩
    intro a b among among' before after
    exact List.inj_on_of_nodup_map distinct (again.mem_iff.mp among) among'
      (Nat.le_antisymm before after)
  · rintro ⟨distinct, rfl⟩
    have apart :=
      List.pairwise_map.mp ((nodup_positions_congr (arranged_perm columns)).mpr distinct)
    exact ⟨arranged_perm columns, ((arranged_ordered columns).and apart).imp fun ⟨before, unlike⟩ =>
      Nat.lt_of_le_of_ne before unlike⟩

/-- A key of positions is known by what it says, and not by how the columns stand in the
declarations. -/
theorem positionedKey_eq_ok_iff : positionedKey typeName columns = .ok key ↔
    key.Perm (positioned columns) ∧ key.Pairwise fun a b => a.position < b.position := by
  have checked : checkPositions typeName [] (positioned columns) = .ok () ↔
      ((positioned columns).map Column.position).Nodup := by
    simp [checkPositions_eq_ok_iff]
  rw [perm_and_increasing_iff, positionedKey, ← positioned, ← checked, ← arranged]
  cases checkPositions typeName [] (positioned columns) with
  | error fault => simp [Except.map]
  | ok done => simp [Except.map]

/-- What the key of a class is: the columns of an explicit key, or else the columns with a position
in the order of their positions. -/
def IsKey (columns : List Column) (primary : Option (List String)) (key : List Column) : Prop :=
  match primary with
  | some names => List.Forall₂ (IsFirstNamed columns) names key
  | none => key.Perm (positioned columns) ∧ key.Pairwise fun a b => a.position < b.position

/-- The declarations make a key: each name of an explicit one is that of a column, or some columns
have a position, and no two of them the same. -/
def DeclaresKey (columns : List Column) : Option (List String) → Prop
  | some names => names ≠ [] ∧ ∀ name ∈ names, ∃ c ∈ columns, c.name = name
  | none =>
    (∃ c ∈ columns, c.position ≠ 0) ∧
      columns.Pairwise fun a b => a.position ≠ 0 → b.position ≠ 0 → a.position ≠ b.position

theorem IsKey.mem (isKey : IsKey columns primary key) (among : c ∈ key) : c ∈ columns := by
  cases primary with
  | some names =>
    obtain ⟨i, inside, rfl⟩ := List.mem_iff_getElem.mp among
    obtain ⟨lengths, each⟩ := List.forall₂_iff_get.mp isKey
    exact (each i (lengths ▸ inside) inside).mem
  | none => exact (mem_positioned.mp (isKey.1.mem_iff.mp among)).1

theorem exists_isKey : (∃ key, IsKey columns primary key ∧ key ≠ []) ↔
    DeclaresKey columns primary := by
  cases primary with
  | some names =>
    simp only [IsKey, DeclaresKey, ← exists_isFirstNamed,
      ← exists_forall₂ (R := IsFirstNamed columns)]
    constructor
    · rintro ⟨key, related, nonempty⟩
      refine ⟨?_, key, related⟩
      rintro rfl
      exact nonempty (List.forall₂_nil_left_iff.mp related)
    · rintro ⟨nonempty, key, related⟩
      refine ⟨key, related, ?_⟩
      rintro rfl
      exact nonempty (List.forall₂_nil_right_iff.mp related)
  | none =>
    have distinct : ((positioned columns).map Column.position).Nodup ↔
        columns.Pairwise fun a b => a.position ≠ 0 → b.position ≠ 0 → a.position ≠ b.position := by
      rw [List.Nodup, List.pairwise_map, positioned, List.pairwise_filter]
      simp
    have nonempty : arranged columns ≠ [] ↔ ∃ c ∈ columns, c.position ≠ 0 := by
      simp only [ne_eq, List.eq_nil_iff_forall_not_mem, not_forall, not_not,
        (arranged_perm columns).mem_iff, mem_positioned]
    simp only [IsKey, DeclaresKey, perm_and_increasing_iff, distinct, and_assoc, exists_and_left,
      exists_eq_left', nonempty]
    exact and_comm

/-! ## Orders -/

/-- How an item of the order names a column: with a dash in front if it is descending, and otherwise
by a name that does not begin with a dash. -/
def OrdersBy (item name : String) (descending : Bool) : Prop :=
  if descending then item = "-" ++ name else item = name ∧ item.toList.head? ≠ some '-'

theorem orderName_eq_iff {item : String} {descending : Bool} :
    orderName item = (name, descending) ↔ OrdersBy item name descending := by
  unfold orderName OrdersBy
  split
  · rename_i rest front
    have written : item = "-" ++ String.ofList rest := String.toList_inj.mp (by rw [front]; simp)
    cases descending with
    | true =>
      simp only [Prod.mk.injEq, and_true, ↓reduceIte, written, String.append_right_inj]
    | false => simp [front]
  · rename_i undashed
    have plain : item.toList.head? ≠ some '-' := by
      intro dash
      obtain ⟨rest, front⟩ := List.head?_eq_some_iff.mp dash
      exact undashed rest front
    cases descending with
    | true =>
      simp only [Prod.mk.injEq, reduceCtorEq, and_false, ↓reduceIte, false_iff]
      rintro rfl
      exact plain (by simp)
    | false => simp [plain]

/-- What the order of a class is: for each item the first column of the name in it, descending where
a dash stands in front. -/
def IsOrder (columns : List Column) : List String → List OrderItem → Prop :=
  List.Forall₂ fun item placed => ∃ name, OrdersBy item name placed.descending ∧
    IsFirstNamed columns name placed.column

theorem namedOrder_eq_ok_iff {order : List OrderItem} :
    namedOrder typeName columns items = .ok order ↔ IsOrder columns items order := by
  let each (item : String) : Except ClassFault OrderItem :=
    (columnOr (.unknownOrderColumn typeName (orderName item).1) columns (orderName item).1).map
      fun c => ⟨c, (orderName item).2⟩
  have placed (item : String) (placed : OrderItem) : each item = .ok placed ↔
      ∃ name, OrdersBy item name placed.descending ∧ IsFirstNamed columns name placed.column := by
    simp only [each, map_eq_ok_iff, columnOr_eq_ok_iff, ← orderName_eq_iff]
    constructor
    · rintro ⟨c, first, rfl⟩
      exact ⟨_, rfl, first⟩
    · rintro ⟨name, order, first⟩
      exact ⟨placed.column, order ▸ first, by rw [order]⟩
  rw [eq_ok_iff_forall₂ each rfl]
  · simp only [placed]
    rfl
  · intro item rest
    rw [namedOrder]
    simp only [each, columnOr]
    cases columnNamed? columns (orderName item).1 <;> rfl

theorem exists_isOrder : (∃ order, IsOrder columns items order) ↔
    ∀ item ∈ items, ∃ c ∈ columns, ∃ descending, OrdersBy item c.name descending := by
  simp only [IsOrder, exists_forall₂]
  refine forall₂_congr fun item _ => ?_
  constructor
  · rintro ⟨⟨c, descending⟩, name, order, first⟩
    exact ⟨c, first.mem, descending, first.name_eq ▸ order⟩
  · rintro ⟨c, among, descending, order⟩
    obtain ⟨d, first⟩ := exists_isFirstNamed.mpr ⟨c, among, rfl⟩
    exact ⟨⟨d, descending⟩, c.name, order, first⟩

/-! ## Places -/

/-- The column stands in a place, which is found when it is searched for. -/
def StandsAt (columns : List Column) (c : Column) (place : Nat) : Prop :=
  columns[place]? = some c ∧ columns.findIdx? (fun other => other.same c) = some place

/-- With numbers of their own the columns are all found, and none of them in the place of
another. -/
theorem standsAt_placeOf (distinct : (columns.map Column.id).Nodup) (among : c ∈ columns) :
    StandsAt columns c (placeOf columns c) := by
  have somewhere : (columns.findIdx? fun other => other.same c).isSome :=
    List.findIdx?_isSome.trans (List.any_eq_true.mpr ⟨c, among, beq_self_eq_true c.id⟩)
  obtain ⟨place, found⟩ := Option.isSome_iff_exists.mp somewhere
  obtain ⟨inside, same, -⟩ := List.findIdx?_eq_some_iff_getElem.mp found
  have itself : columns[place] = c :=
    List.inj_on_of_nodup_map distinct (List.getElem_mem inside) among (eq_of_beq same)
  rw [placeOf, found, Option.getD_some]
  exact ⟨List.getElem?_eq_some_iff.mpr ⟨inside, itself⟩, found⟩

/-! ## Classes -/

/-- The key, where it can be made out. -/
def keyOf (typeName : String) (columns : List Column) :
    Option (List String) → Except ClassFault (List Column)
  | some names => namedKey typeName columns names
  | none => positionedKey typeName columns

theorem keyOf_eq_ok_iff : keyOf typeName columns primary = .ok key ↔ IsKey columns primary key := by
  cases primary with
  | some names => exact namedKey_eq_ok_iff
  | none => exact positionedKey_eq_ok_iff

theorem build_of_unnamed (unnamed : table.name = "") :
    build typeName table columns primary items = .error (.noTableName typeName) := by
  rw [build, if_pos unnamed]
  rfl

theorem build_of_named (named : table.name ≠ "") : build typeName table columns primary items =
    keyOf typeName columns primary >>= fun key => if key = [] then .error (.noKey typeName) else
      (namedOrder typeName columns items).map fun order =>
        ⟨typeName, table, columns, key, key.map (placeOf columns), order⟩ := by
  rw [build, if_neg named]
  -- Both ways to a key go on alike.
  rcases primary with - | names <;>
  · refine congrArg _ (funext fun key => ?_)
    cases key with
    | nil => rfl
    | cons c rest =>
      simp only [List.isEmpty_cons, Bool.false_eq_true, ↓reduceIte, reduceCtorEq]
      cases namedOrder typeName columns items <;> rfl

/-- A class is put together if its table has a name and its key and its order can be made out, and
its key is not empty. -/
theorem build_eq_ok_iff {info : ClassInfo} : build typeName table columns primary items = .ok info ↔
    table.name ≠ "" ∧ ∃ key order, IsKey columns primary key ∧ key ≠ [] ∧
      IsOrder columns items order ∧
      ⟨typeName, table, columns, key, key.map (placeOf columns), order⟩ = info := by
  by_cases unnamed : table.name = ""
  · simp [build_of_unnamed unnamed, unnamed]
  · rw [build_of_named unnamed, bind_eq_ok_iff]
    simp only [keyOf_eq_ok_iff, ne_eq, unnamed, not_false_eq_true, true_and]
    refine exists_congr fun key => ?_
    by_cases empty : key = []
    · simp [empty]
    · simp [empty, map_eq_ok_iff, namedOrder_eq_ok_iff]

theorem columns_of_build {info : ClassInfo}
    (built : build typeName table columns primary items = .ok info) :
    info.columns = columns := by
  obtain ⟨-, _, _, -, -, -, rfl⟩ := build_eq_ok_iff.mp built
  rfl

/-- Each key column stands in the place that is kept with it. -/
theorem standing_of_build {info : ClassInfo} (distinct : (columns.map Column.id).Nodup)
    (built : build typeName table columns primary items = .ok info) :
    List.Forall₂ (StandsAt columns) info.key info.keyPositions := by
  obtain ⟨-, key, order, isKey, -, -, rfl⟩ := build_eq_ok_iff.mp built
  refine List.forall₂_map_right_iff.mpr (List.forall₂_same.mpr fun c among => ?_)
  exact standsAt_placeOf distinct (isKey.mem among)

theorem exists_build_iff : (∃ info, build typeName table columns primary items = .ok info) ↔
    table.name ≠ "" ∧ DeclaresKey columns primary ∧
      ∀ item ∈ items, ∃ c ∈ columns, ∃ descending, OrdersBy item c.name descending := by
  rw [← exists_isKey, ← exists_isOrder]
  constructor
  · rintro ⟨info, built⟩
    obtain ⟨named, key, order, isKey, nonempty, isOrder, -⟩ := build_eq_ok_iff.mp built
    exact ⟨named, ⟨key, isKey, nonempty⟩, order, isOrder⟩
  · rintro ⟨named, ⟨key, isKey, nonempty⟩, order, isOrder⟩
    exact ⟨_, build_eq_ok_iff.mpr ⟨named, key, order, isKey, nonempty, isOrder, rfl⟩⟩

/-- A key of positions stays what it is when the columns are declared in another order. -/
theorem exists_build_of_perm {info : ClassInfo} {others : List Column} (moved : others.Perm columns)
    (built : build typeName table columns none items = .ok info) :
    ∃ again, build typeName table others none items = .ok again ∧ again.key = info.key := by
  obtain ⟨named, key, order, ⟨same, increasing⟩, nonempty, isOrder, rfl⟩ := build_eq_ok_iff.mp built
  have isKey : IsKey others none key := ⟨same.trans (moved.filter _).symm, increasing⟩
  obtain ⟨otherOrder, isOrder⟩ : ∃ order, IsOrder others items order := by
    simp only [exists_isOrder, moved.mem_iff]
    exact exists_isOrder.mp ⟨order, isOrder⟩
  exact ⟨_, build_eq_ok_iff.mpr ⟨named, key, otherOrder, isKey, nonempty, isOrder, rfl⟩, rfl⟩

/-- A class is put together exactly if its table has a name, its key is declared and its order names
columns. An explicit key is then made of the first columns of the names, and one of positions of the
columns with a position in strictly increasing order, however they are declared. Each key column is
found in the place that is kept with it, and the order is that of the items. -/
theorem class_is_as_declared (distinct : (columns.map Column.id).Nodup) :
    ((∃ info, build typeName table columns primary items = .ok info) ↔
      table.name ≠ "" ∧ DeclaresKey columns primary ∧
        ∀ item ∈ items, ∃ c ∈ columns, ∃ descending, OrdersBy item c.name descending) ∧
    ∀ info, build typeName table columns primary items = .ok info →
      info.typeName = typeName ∧ info.table = table ∧ info.columns = columns ∧
      (∀ names, primary = some names → List.Forall₂ (IsFirstNamed columns) names info.key) ∧
      (primary = none →
        (info.key.Pairwise fun a b => a.position < b.position) ∧
        (∀ c, c ∈ info.key ↔ c ∈ columns ∧ c.position ≠ 0) ∧
        ∀ others, others.Perm columns →
          ∃ again, build typeName table others none items = .ok again ∧ again.key = info.key) ∧
      List.Forall₂ (StandsAt columns) info.key info.keyPositions ∧
      IsOrder columns items info.order := by
  refine ⟨exists_build_iff, fun info built => ?_⟩
  have standing := standing_of_build distinct built
  obtain ⟨-, key, order, isKey, -, isOrder, rfl⟩ := build_eq_ok_iff.mp built
  refine ⟨rfl, rfl, rfl, ?_, ?_, standing, isOrder⟩
  · rintro names rfl
    exact isKey
  · rintro rfl
    obtain ⟨same, increasing⟩ := isKey
    exact ⟨increasing, fun c => same.mem_iff.trans mem_positioned,
      fun others moved => exists_build_of_perm moved built⟩

/-- Columns of which two have the same name, and the one with the first position is declared
last. -/
def shelf : List Column :=
  [⟨4, "code", none, 2, {}⟩, ⟨7, "title", none, 0, {}⟩, ⟨9, "code", none, 1, {}⟩]

theorem shelf_class_is_as_declared : (shelf.map Column.id).Nodup ∧
    ∃ info, build "Book" ⟨"books"⟩ shelf none ["-title", "code"] = .ok info ∧
      info.key.map Column.id = [9, 4] ∧ info.keyPositions = [2, 0] ∧
      info.order.map (fun item => (item.column.id, item.descending)) = [(7, true), (4, false)] ∧
      List.Forall₂ (StandsAt shelf) info.key info.keyPositions := by
  have distinct : (shelf.map Column.id).Nodup := by decide
  let key : List Column := [⟨9, "code", none, 1, {}⟩, ⟨4, "code", none, 2, {}⟩]
  let order : List OrderItem :=
    [⟨⟨7, "title", none, 0, {}⟩, true⟩, ⟨⟨4, "code", none, 2, {}⟩, false⟩]
  have isKey : IsKey shelf none key := ⟨.swap .., by simp [key]⟩
  have isOrder : namedOrder "Book" shelf ["-title", "code"] = .ok order := rfl
  have built : build "Book" ⟨"books"⟩ shelf none ["-title", "code"] =
      .ok ⟨"Book", ⟨"books"⟩, shelf, key, key.map (placeOf shelf), order⟩ :=
    build_eq_ok_iff.mpr
      ⟨by decide, key, order, isKey, by simp [key], namedOrder_eq_ok_iff.mp isOrder, rfl⟩
  obtain ⟨-, -, -, -, -, standing, -⟩ := (class_is_as_declared distinct).2 _ built
  exact ⟨distinct, _, built, by decide, by decide, by decide, standing⟩

end RowMapper.ClassInfo
