import RowMapper.Proofs.Cells.Congruence
import RowMapper.Proofs.Cells.Deeds
/-!
Journals. A program that uses cells has a companion, which does the same and keeps a journal: every
deed is entered with the cell as it is just before, and so are the making and the copying of a cell,
wherever they happen, in callbacks and validators too. The journal of a run leads from the cells
before it to the cells behind it.
-/

set_option autoImplicit false

namespace RowMapper

variable {υ α β : Type}

/-! ## Journals -/

inductive Entry where
  /-- A deed, with the cell before it. -/
  | done (id : CellId) (before : Cell) (deed : Deed)
  | made (c : Cell)
  /-- A copy was made of a cell. -/
  | copied (id : CellId) (original : Cell)

/-- The entries of a run, the latest first. -/
abbrev Journal := List Entry

/-- The deed replaces the state of a cell by one that comes from elsewhere. -/
def Deed.Restores : Deed → Prop
  | .restore _ => True
  | _ => False

/-- A cell that has just been made: it holds its first value, or nothing, and remembers no
checkpoint. -/
def Cell.Made (c : Cell) : Prop :=
  c.baseline = none ∧ (c.state = .initial ∨
    ∃ source a, CellState.ofAssignment c.kind c.allowNull c.column source a = .ok c.state)

/-- A journal leads from some cells to others: each deed was done to the cell that its entry tells
of, and each cell that came was made or copied. States are replaced only if that is allowed. -/
inductive Leads (restores : Prop) (start : List Cell) : Journal → List Cell → Prop
  | start : Leads restores start [] start
  | done {journal : Journal} {cells : List Cell} {id : CellId} {c : Cell}
      (earlier : Leads restores start journal cells) (there : cells[id]? = some c) (deed : Deed)
      (allowed : deed.Restores → restores) :
      Leads restores start (.done id c deed :: journal) (cells.set id (deed.apply c))
  | made {journal : Journal} {cells : List Cell} {c : Cell}
      (earlier : Leads restores start journal cells) (made : c.Made) :
      Leads restores start (.made c :: journal) (cells ++ [c])
  | copied {journal : Journal} {cells : List Cell} {id : CellId} {c : Cell}
      (earlier : Leads restores start journal cells) (there : cells[id]? = some c) :
      Leads restores start (.copied id c :: journal) (cells ++ [c.detached])

namespace Leads

variable {restores : Prop} {start middle cells : List Cell} {journal later : Journal}

theorem trans (first : Leads restores start journal middle)
    (second : Leads restores middle later cells) :
    Leads restores start (later ++ journal) cells := by
  induction second with
  | start => exact first
  | done _ there deed allowed ih => exact ih.done there deed allowed
  | made _ made ih => exact ih.made made
  | copied _ there ih => exact ih.copied there

/-- A cell that is there stays, and stays alike. -/
theorem kept {id : CellId} {c : Cell} (leads : Leads restores start journal cells)
    (there : start[id]? = some c) :
    ∃ now, cells[id]? = some now ∧ now.Alike c := by
  induction leads with
  | start => exact ⟨c, there, .refl c⟩
  | @done _ _ other before _ at_other deed _ ih =>
    obtain ⟨now, there, alike⟩ := ih
    by_cases same : other = id
    · subst same
      obtain rfl : before = now := Option.some.inj (at_other.symm.trans there)
      exact ⟨_, List.getElem?_set_self (List.getElem?_eq_some_iff.mp there).1,
        (deed.apply_alike _).trans alike⟩
    · exact ⟨now, by rw [List.getElem?_set_ne same, there], alike⟩
  | made _ _ ih | copied _ _ ih =>
    obtain ⟨now, there, alike⟩ := ih
    exact ⟨now, by
      rw [List.getElem?_append_left (List.getElem?_eq_some_iff.mp there).1, there], alike⟩

end Leads

/-! ## Programs and their companions -/

structure Journaled (υ : Type) where
  user : υ
  journal : Journal

def World.beside (w : World υ) (journal : Journal) : World (Journaled υ) :=
  ⟨w.store, ⟨w.user, journal⟩⟩

namespace Journal

def entering (id : CellId) (entry : Cell → Entry) (act : Act (World (Journaled υ)) α) :
    Act (World (Journaled υ)) α := fun w =>
  match w.store.cells[id]? with
  | some c => act ⟨w.store, ⟨w.user.user, entry c :: w.user.journal⟩⟩
  | none => act w

def aside (act : Act (World υ) α) : Act (World (Journaled υ)) α := fun w =>
  let done := act ⟨w.store, w.user.user⟩
  (done.1, done.2.beside w.user.journal)

/-- Assigns a value, or null, and enters it when it is to be put into the cell. -/
def assign (foreign : Foreign (Journaled υ)) (id : CellId) (v : Option Value) (source : Side) :
    Act (World (Journaled υ)) Unit := do
  match ← Cell.find id with
  | none => pure ()
  | some c =>
    let v ← Cell.judge foreign c v source
    entering id (.done id · (.place v source)) (Cell.place foreign id c v source)

def set (foreign : Foreign (Journaled υ)) (id : CellId) (a : Assignment) (source : Side) :
    Act (World (Journaled υ)) Unit :=
  match a with
  | .lazy l => entering id (.done id · (.waitFor l)) (Cell.set foreign id (.lazy l) source)
  | .null => assign foreign id none source
  | .value v => assign foreign id (some v) source

def build (kind : Kind) (allowNull : Bool) (column : Option Column) (bus : Option BusId)
    (validator : Option Validator) (first : Option (Assignment × Side)) :
    Act (World (Journaled υ)) CellId := do
  let state ← Act.lift (match first with
    | none => .ok .initial
    | some (a, source) => CellState.ofAssignment kind allowNull column source a)
  let made : Cell := { kind, allowNull, column, bus, validator, state, baseline := none }
  Act.change fun w => ⟨w.store, ⟨w.user.user, .made made :: w.user.journal⟩⟩
  World.update (·.addCell made)

end Journal

/-- All cells stay as they are, and none comes. -/
def LeavesCells (act : Act (World υ) α) : Prop := ∀ w, (act w).2.store.cells = w.store.cells

/-- A program that uses cells, and its companion, which keeps the journal. Their callbacks and
validators are such pairs themselves. Beside the deeds, cells are only made and copied. -/
inductive Journals (restores : Prop) :
    {α : Type} → Act (World υ) α → Act (World (Journaled υ)) α → Prop
  | aside {α : Type} {act : Act (World υ) α} (leaves : LeavesCells act) :
      Journals restores act (Journal.aside act)
  | bind {α β : Type} {first : Act (World υ) α} {first' : Act (World (Journaled υ)) α}
      {next : α → Act (World υ) β} {next' : α → Act (World (Journaled υ)) β}
      (head : Journals restores first first') (tail : ∀ a, Journals restores (next a) (next' a)) :
      Journals restores (first >>= next) (first' >>= next')
  | attempt {α : Type} {act : Act (World υ) α} {act' : Act (World (Journaled υ)) α}
      (journals : Journals restores act act') : Journals restores act.attempt act'.attempt
  | ensure {α : Type} {act : Act (World υ) α} {act' : Act (World (Journaled υ)) α}
      {f : Store → Store} (journals : Journals restores act act')
      (leaves : ∀ s, (f s).cells = s.cells) :
      Journals restores (World.ensure act f) (World.ensure act' f)
  | set {foreign : Foreign υ} {foreign' : Foreign (Journaled υ)}
      (calls : ∀ callback owner args,
        Journals restores (foreign.call callback owner args) (foreign'.call callback owner args))
      (rules : ∀ rule context subject v,
        Journals restores (foreign.validate rule context subject v)
        (foreign'.validate rule context subject v))
      (id : CellId) (a : Assignment) (source : Side) :
      Journals restores (Cell.set foreign id a source) (Journal.set foreign' id a source)
  | delete {foreign : Foreign υ} {foreign' : Foreign (Journaled υ)}
      (calls : ∀ callback owner args,
        Journals restores (foreign.call callback owner args) (foreign'.call callback owner args))
      (id : CellId) :
      Journals restores (Cell.delete foreign id)
        (Journal.entering id (.done id · .delete) (Cell.delete foreign' id))
  | get {foreign : Foreign υ} {foreign' : Foreign (Journaled υ)}
      (calls : ∀ callback owner args,
        Journals restores (foreign.call callback owner args) (foreign'.call callback owner args))
      (id : CellId) (default : Option Value) (target : Side) :
      Journals restores (Cell.get foreign id default target)
        (Journal.entering id (.done id · .look) (Cell.get foreign' id default target))
  | look (id : CellId) :
      Journals restores (Cell.find id) (Journal.entering id (.done id · .look) (Cell.find id))
  | checkpoint (id : CellId) :
      Journals restores (Cell.setCheckpoint id)
        (Journal.entering id (.done id · .checkpoint) (Cell.setCheckpoint id))
  | restore (allowed : restores) (id : CellId) (state : CellState) :
      Journals restores (Cell.changeState id fun _ => state)
        (Journal.entering id (.done id · (.restore state)) (Cell.changeState id fun _ => state))
  | build (kind : Kind) (allowNull : Bool) (column : Option Column) (bus : Option BusId)
      (validator : Option Validator) (first : Option (Assignment × Side)) :
      Journals restores (Cell.build kind allowNull column bus validator first)
        (Journal.build kind allowNull column bus validator first)
  | copy (id : CellId) :
      Journals restores (Cell.copy id) (Journal.entering id (.copied id ·) (Cell.copy id))

/-- Whatever leaves the cells alone is related to itself, so all that the library does beside cells
is a program with a companion. -/
theorem Journals.congruence (restores : Prop) :
    Congruence (υ := υ) (Journals restores) where
  lift _ := .aside fun _ => rfl
  read _ := .aside fun _ => rfl
  beside leaves := .aside fun w => leaves w.store
  bind := .bind
  attempt := .attempt
  ensure := .ensure

theorem Journals.pure {restores : Prop} (a : α) :
    Journals (υ := υ) restores (Pure.pure a) (Pure.pure a) :=
  (congruence restores).pure a

/-! ## A companion accounts for its program -/

/-- The companion does what the program does, and what it enters leads from the cells before to the
cells behind. -/
def Accounts (restores : Prop) (act : Act (World υ) α) (companion : Act (World (Journaled υ)) α) :
    Prop :=
  ∀ (w : World υ) (journal : Journal),
    ∃ during, companion (w.beside journal) = ((act w).1, (act w).2.beside (during ++ journal)) ∧
      Leads restores w.store.cells during (act w).2.store.cells

namespace Accounts

variable {restores : Prop}

theorem aside {act : Act (World υ) α} (leaves : LeavesCells act) :
    Accounts restores act (Journal.aside act) := by
  intro w journal
  refine ⟨[], rfl, ?_⟩
  rw [leaves w]
  exact .start

theorem bind {first : Act (World υ) α} {first' : Act (World (Journaled υ)) α}
    {next : α → Act (World υ) β} {next' : α → Act (World (Journaled υ)) β}
    (head : Accounts restores first first') (tail : ∀ a, Accounts restores (next a) (next' a)) :
    Accounts restores (first >>= next) (first' >>= next') := by
  intro w journal
  obtain ⟨during, ran, leads⟩ := head w journal
  cases done : first w with
  | mk outcome after =>
    rw [done] at ran leads
    cases outcome with
    | error e =>
      rw [Act.bind_of_error _ _ _ _ _ done]
      exact ⟨during, Act.bind_of_error _ _ _ _ _ ran, leads⟩
    | ok a =>
      obtain ⟨later, ran', leads'⟩ := tail a after (during ++ journal)
      rw [Act.bind_of_ok _ _ _ _ _ done, Act.bind_of_ok _ _ _ _ _ ran]
      exact ⟨later ++ during, by rw [ran', List.append_assoc], leads.trans leads'⟩

theorem attempt {act : Act (World υ) α} {act' : Act (World (Journaled υ)) α}
    (accounts : Accounts restores act act') : Accounts restores act.attempt act'.attempt := by
  intro w journal
  obtain ⟨during, ran, leads⟩ := accounts w journal
  cases done : act w with
  | mk outcome after =>
    rw [done] at ran leads
    cases outcome with
    | error e =>
      simp only [Act.attempt, ran, done]
      split <;> exact ⟨during, rfl, leads⟩
    | ok a =>
      simp only [Act.attempt, ran, done]
      exact ⟨during, rfl, leads⟩

theorem ensure {act : Act (World υ) α} {act' : Act (World (Journaled υ)) α} {f : Store → Store}
    (accounts : Accounts restores act act') (leaves : ∀ s, (f s).cells = s.cells) :
    Accounts restores (World.ensure act f) (World.ensure act' f) := by
  intro w journal
  obtain ⟨during, ran, leads⟩ := accounts w journal
  refine ⟨during, ?_, ?_⟩
  · simp only [World.ensure, Act.ensure, ran]
    rfl
  · simp only [World.ensure, Act.ensure, leaves, leads]

theorem congruence (restores : Prop) : Congruence (υ := υ) (Accounts restores) where
  lift _ := aside fun _ => rfl
  read _ := aside fun _ => rfl
  beside leaves := aside fun w => leaves w.store
  bind := bind
  attempt := attempt
  ensure := ensure

/-- A deed and what follows it. -/
theorem deed {id : CellId} {deed : Deed} {act : Act (World υ) α}
    {act' : Act (World (Journaled υ)) α} {absent : α} {rest : Cell → Act (World υ) α}
    {rest' : Cell → Act (World (Journaled υ)) α} (begins : Begins id deed act absent rest)
    (begins' : Begins id deed act' absent rest') (allowed : deed.Restores → restores)
    (accounts : ∀ c, Accounts restores (rest c) (rest' c)) :
    Accounts restores act (Journal.entering id (.done id · deed) act') := by
  intro w journal
  cases there : w.store.cells[id]? with
  | none =>
    rw [begins.absent w there]
    refine ⟨[], ?_, .start⟩
    simp only [Journal.entering, World.beside, there, List.nil_append]
    exact begins'.absent _ there
  | some c =>
    obtain ⟨during, ran, leads⟩ :=
      accounts c (w.withCell id (deed.apply c)) (.done id c deed :: journal)
    rw [begins.present w c there]
    refine ⟨during ++ [.done id c deed], ?_, ?_⟩
    · rw [List.append_assoc, List.singleton_append, ← ran]
      simp only [Journal.entering, World.beside, there]
      exact begins'.present _ c there
    · exact (Leads.start.done there deed allowed).trans leads

section

variable {foreign : Foreign υ} {foreign' : Foreign (Journaled υ)}
  (calls : ∀ callback owner args,
    Accounts restores (foreign.call callback owner args) (foreign'.call callback owner args))

include calls

theorem report (id : CellId) (before : Cell) (payload : Arg) (source : Side) :
    Accounts restores (Cell.report foreign id before payload source)
      (Cell.report foreign' id before payload source) :=
  (congruence restores).branch
    ((congruence restores).bind ((congruence restores).lift _) fun _ =>
      (congruence restores).announce calls _ _ _)
    ((congruence restores).pure ())

theorem delete (id : CellId) :
    Accounts restores (Cell.delete foreign id)
      (Journal.entering id (.done id · .delete) (Cell.delete foreign' id)) :=
  deed (Cell.begins_delete foreign id) (Cell.begins_delete foreign' id)
    (fun restored => restored.elim) fun c =>
    (congruence restores).branch (report calls id c _ _) ((congruence restores).pure ())

theorem get (id : CellId) (default : Option Value) (target : Side) :
    Accounts restores (Cell.get foreign id default target)
      (Journal.entering id (.done id · .look) (Cell.get foreign' id default target)) := by
  refine deed (Cell.begins_get foreign id default target)
    (Cell.begins_get foreign' id default target)
    (fun restored => restored.elim) fun c => ?_
  have content := (congruence restores).content (υ := υ) id default target
  cases c.state.lazy with
  | none => exact content
  | some l => exact bind ((congruence restores).announce calls c.bus _ _) fun _ => content

theorem waitFor (id : CellId) (l : Lazy) (source : Side) :
    Accounts restores (Cell.set foreign id (.lazy l) source)
      (Journal.entering id (.done id · (.waitFor l)) (Cell.set foreign' id (.lazy l) source)) :=
  deed (Cell.begins_waitFor foreign id l source) (Cell.begins_waitFor foreign' id l source)
    (fun restored => restored.elim) fun c => report calls id c _ source

theorem placeNow (id : CellId) (v : Option Value) (source : Side) :
    Accounts restores (Cell.placeNow foreign id v source)
      (Journal.entering id (.done id · (.place v source))
        (Cell.placeNow foreign' id v source)) := by
  refine deed (Cell.begins_place foreign id v source) (Cell.begins_place foreign' id v source)
    (fun restored => restored.elim) fun c => ?_
  cases c.take v source with
  | error e => exact (congruence restores).lift (.error e)
  | ok taken =>
    exact (congruence restores).branch (report calls id c _ source) ((congruence restores).pure ())

theorem judge
    (rules : ∀ rule context subject v,
      Accounts restores (foreign.validate rule context subject v)
      (foreign'.validate rule context subject v))
    (c : Cell) (v : Option Value) (source : Side) :
    Accounts restores (Cell.judge foreign c v source) (Cell.judge foreign' c v source) := by
  obtain ⟨kind, allowNull, column, bus, validator, state, baseline⟩ := c
  cases source with
  | database => exact (congruence restores).pure v
  | program =>
    cases validator with
    | none => exact (congruence restores).pure v
    | some validator => exact (congruence restores).validate calls rules validator v

theorem assign
    (rules : ∀ rule context subject v,
      Accounts restores (foreign.validate rule context subject v)
      (foreign'.validate rule context subject v))
    (id : CellId) (v : Option Value) (source : Side) :
    Accounts restores (Cell.assign foreign id v source) (Journal.assign foreign' id v source) := by
  intro w journal
  cases there : w.store.cells[id]? with
  | none =>
    have found : Cell.find id (w.beside journal) = (.ok none, w.beside journal) :=
      Cell.find_of_absent there
    have nothing : Cell.assign foreign id v source w = (.ok (), w) :=
      Act.bind_of_ok _ _ _ _ _ (Cell.find_of_absent there)
    rw [nothing]
    exact ⟨[], Act.bind_of_ok _ _ _ _ _ found, .start⟩
  | some c =>
    -- The cell may have changed meanwhile, but it is still alike, so what is put into it is judged
    -- by the same rules.
    obtain ⟨during, ran, leads⟩ := judge calls rules c v source w journal
    have found : Cell.find id (w.beside journal) = (.ok (some c), w.beside journal) :=
      Cell.find_of_there there
    have companion : Journal.assign foreign' id v source (w.beside journal) =
        (Cell.judge foreign' c v source >>= fun v =>
          Journal.entering id (.done id · (.place v source)) (Cell.place foreign' id c v source))
            (w.beside journal) :=
      Act.bind_of_ok _ _ _ _ _ found
    rw [companion, Cell.assign_of_there foreign id there]
    cases judged : Cell.judge foreign c v source w with
    | mk outcome after =>
      rw [judged] at ran leads
      cases outcome with
      | error e =>
        rw [Act.bind_of_error _ _ _ _ _ judged, Act.bind_of_error _ _ _ _ _ ran]
        exact ⟨during, rfl, leads⟩
      | ok v =>
        obtain ⟨now, still, alike⟩ := leads.kept there
        obtain ⟨later, ran', leads'⟩ := placeNow calls id v source after (during ++ journal)
        rw [Act.bind_of_ok _ _ _ _ _ judged, Act.bind_of_ok _ _ _ _ _ ran]
        rw [Cell.place_of_alike foreign id still alike]
        refine ⟨later ++ during, ?_, leads.trans leads'⟩
        rw [List.append_assoc, ← ran']
        simp only [Journal.entering, World.beside, still]
        exact Cell.place_of_alike foreign' id still alike v source

theorem set
    (rules : ∀ rule context subject v,
      Accounts restores (foreign.validate rule context subject v)
      (foreign'.validate rule context subject v))
    (id : CellId) (a : Assignment) (source : Side) :
    Accounts restores (Cell.set foreign id a source) (Journal.set foreign' id a source) := by
  cases a with
  | lazy l => exact waitFor calls id l source
  | null => exact assign calls rules id none source
  | value v => exact assign calls rules id (some v) source

end

theorem build (kind : Kind) (allowNull : Bool) (column : Option Column) (bus : Option BusId)
    (validator : Option Validator) (first : Option (Assignment × Side)) :
    Accounts (υ := υ) restores (Cell.build kind allowNull column bus validator first)
      (Journal.build kind allowNull column bus validator first) := by
  have adds : ∀ state : CellState, state = .initial ∨
        (∃ source a, CellState.ofAssignment kind allowNull column source a = .ok state) →
      ∀ w : World υ, Leads restores w.store.cells
        [.made ⟨kind, allowNull, column, bus, validator, state, none⟩]
          (w.store.addCell ⟨kind, allowNull, column, bus, validator, state, none⟩).2.cells := by
    intro state first w
    exact Leads.start.made ⟨rfl, first⟩
  intro w journal
  cases first with
  | none => exact ⟨[.made _], rfl, adds .initial (.inl rfl) w⟩
  | some given =>
    obtain ⟨a, source⟩ := given
    cases made : CellState.ofAssignment kind allowNull column source a with
    | error e =>
      simp only [Cell.build, Journal.build, made]
      exact ⟨[], rfl, .start⟩
    | ok state =>
      simp only [Cell.build, Journal.build, made]
      exact ⟨[.made _], rfl, adds state (.inr ⟨source, a, made⟩) w⟩

theorem copy (id : CellId) :
    Accounts (υ := υ) restores (Cell.copy id)
      (Journal.entering id (.copied id ·) (Cell.copy id)) := by
  intro w journal
  cases there : w.store.cells[id]? with
  | none =>
    simp only [Cell.copy, World.update, Journal.entering, World.beside, there]
    exact ⟨[], rfl, .start⟩
  | some c =>
    simp only [Cell.copy, World.update, Journal.entering, World.beside, there]
    exact ⟨[.copied id c], rfl, Leads.start.copied there⟩

end Accounts

/-- The companion of a program accounts for it. -/
theorem Journals.accounts {restores : Prop} {act : Act (World υ) α}
    {companion : Act (World (Journaled υ)) α} (journals : Journals restores act companion) :
    Accounts restores act companion := by
  induction journals with
  | aside leaves => exact .aside leaves
  | bind _ _ head tail => exact .bind head tail
  | attempt _ accounts => exact accounts.attempt
  | ensure _ leaves accounts => exact accounts.ensure leaves
  | set _ _ id a source calls rules => exact .set calls rules id a source
  | delete _ id calls => exact .delete calls id
  | get _ id default target calls => exact .get calls id default target
  | look id =>
    exact .deed (Cell.begins_look id) (Cell.begins_look id) (fun restored => restored.elim) fun c =>
      (Accounts.congruence restores).pure _
  | checkpoint id =>
    exact .deed (Cell.begins_checkpoint id) (Cell.begins_checkpoint id)
      (fun restored => restored.elim) fun c =>
      (Accounts.congruence restores).pure ()
  | restore allowed id state =>
    exact .deed (Cell.begins_restore id state) (Cell.begins_restore id state)
      (fun _ => allowed) fun c =>
      (Accounts.congruence restores).pure ()
  | build kind allowNull column bus validator first =>
    exact .build kind allowNull column bus validator first
  | copy id => exact .copy id

end RowMapper
