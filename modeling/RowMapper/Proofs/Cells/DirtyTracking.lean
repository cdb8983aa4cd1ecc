import RowMapper.Cell.Operations
import RowMapper.Proofs.Bus.Snapshot
/-!
Dirty tracking. A diary of what a program asks of its cells, in callbacks and rules too, tells at
every moment whether a cell has changed: it is unchanged exactly if a checkpoint was set after the
last lazy value was assigned, no lazy value waited then or waits now, and the content is equal to
the one of then. The diary is kept by a companion of the program, which otherwise does the same as
the program.
-/

set_option autoImplicit false

namespace RowMapper

/-! ## Diaries -/

/-- What a program asks of a cell. A checkpoint comes with the state that is remembered, the
question whether the cell has changed with the state of the cell and the answer. -/
inductive Request where
  | assign (a : Assignment) (source : Side)
  | delete
  | get (default : Option Value) (target : Side)
  | checkpoint (seen : CellState)
  | hasChanged (seen : CellState) (answer : Bool)

/-- What was asked of cells, the latest first. -/
abbrev Diary := List (CellId × Request)

namespace Diary

/-- What the last checkpoint of a cell saw, if one was set after the last lazy value was
assigned. -/
def lastCheckpoint (id : CellId) : Diary → Option CellState
  | [] => none
  | (cell, .checkpoint seen) :: earlier =>
    if cell = id then some seen else lastCheckpoint id earlier
  | (cell, .assign (.lazy _) _) :: earlier => if cell = id then none else lastCheckpoint id earlier
  | _ :: earlier => lastCheckpoint id earlier

/-- A checkpoint of the cell was set after the last lazy value was assigned, no lazy value waited
then or waits now, and the content is equal to the one of then. -/
def Unchanged (diary : Diary) (id : CellId) (now : CellState) : Prop :=
  ∃ seen, diary.lastCheckpoint id = some seen ∧ seen.lazy = none ∧ now.lazy = none ∧
    seen.slot.same now.slot

/-- Every answer of the cell agrees with what was asked before. -/
def Truthful (id : CellId) : Diary → Prop
  | [] => True
  | (cell, .hasChanged seen answer) :: earlier =>
    (cell = id → (answer = false ↔ Unchanged earlier id seen)) ∧ Truthful id earlier
  | _ :: earlier => Truthful id earlier

end Diary

/-- What a cell answers by: the checkpoint that it remembers and its state. -/
theorem Cell.hasChanged_eq_false_iff (c : Cell) :
    c.hasChanged = false ↔
      ∃ seen, c.baseline = some seen ∧ seen.lazy = none ∧ c.state.lazy = none ∧
        seen.slot.same c.state.slot := by
  unfold hasChanged
  cases waits : c.state.lazy with
  | some l => simp
  | none =>
    cases c.baseline with
    | none => simp
    | some seen =>
      cases waited : seen.lazy <;> simp [CellState.same, waits, waited]

/-! ## Programs and their companions -/

/-- What a program keeps, beside a diary. -/
structure Logged (υ : Type) where
  user : υ
  diary : Diary

variable {υ α β : Type}

def World.logged (w : World υ) (diary : Diary) : World (Logged υ) := ⟨w.store, ⟨w.user, diary⟩⟩

/-- Notes what is asked of a cell before it is done. -/
def noting (id : CellId) (request : Cell → Request) (act : Act (World (Logged υ)) α) :
    Act (World (Logged υ)) α := fun w =>
  match w.store.cells[id]? with
  | some c => act ⟨w.store, ⟨w.user.user, (id, request c) :: w.user.diary⟩⟩
  | none => act w

def aside (act : Act (World υ) α) : Act (World (Logged υ)) α := fun w =>
  let done := act ⟨w.store, w.user.user⟩
  (done.1, done.2.logged w.user.diary)

/-- All cells stay, with the checkpoints that they remember. -/
def KeepsCheckpoints (act : Act (World υ) α) : Prop :=
  ∀ (w : World υ) (id : CellId) (c : Cell), w.store.cells[id]? = some c →
    ∃ after, (act w).2.store.cells[id]? = some after ∧ after.baseline = c.baseline

def Cell.askChanged (id : CellId) : Act (World υ) (Option Bool) :=
  World.read fun s => (s.cells[id]?).map hasChanged

/-- A program and its companion, which notes what the program asks of cells. The callbacks and the
rules of the companion are companions themselves. What a program does beside keeps all checkpoints:
only what is noted sets and drops them. -/
inductive Records : {α : Type} → Act (World υ) α → Act (World (Logged υ)) α → Prop
  | pure {α : Type} (a : α) : Records (pure a) (pure a)
  | bind {α β : Type} {first : Act (World υ) α} {first' : Act (World (Logged υ)) α}
      {next : α → Act (World υ) β} {next' : α → Act (World (Logged υ)) β}
      (head : Records first first') (tail : ∀ a, Records (next a) (next' a)) :
      Records (first >>= next) (first' >>= next')
  | attempt {α : Type} {act : Act (World υ) α} {act' : Act (World (Logged υ)) α}
      (records : Records act act') :
      Records act.attempt act'.attempt
  | aside {α : Type} {act : Act (World υ) α} (keeps : KeepsCheckpoints act) :
      Records act (aside act)
  | emit {foreign : Foreign υ} {foreign' : Foreign (Logged υ)}
      (calls : ∀ callback owner args,
        Records (foreign.call callback owner args) (foreign'.call callback owner args))
      (bus : BusId) (name : String) (args : List Arg) :
      Records (Bus.emit foreign bus name args) (Bus.emit foreign' bus name args)
  | set {foreign : Foreign υ} {foreign' : Foreign (Logged υ)}
      (calls : ∀ callback owner args,
        Records (foreign.call callback owner args) (foreign'.call callback owner args))
      (rules : ∀ rule context subject v,
        Records (foreign.validate rule context subject v)
        (foreign'.validate rule context subject v))
      (id : CellId) (a : Assignment) (source : Side) :
      Records (Cell.set foreign id a source)
        (noting id (fun _ => .assign a source) (Cell.set foreign' id a source))
  | delete {foreign : Foreign υ} {foreign' : Foreign (Logged υ)}
      (calls : ∀ callback owner args,
        Records (foreign.call callback owner args) (foreign'.call callback owner args))
      (id : CellId) :
      Records (Cell.delete foreign id) (noting id (fun _ => .delete) (Cell.delete foreign' id))
  | get {foreign : Foreign υ} {foreign' : Foreign (Logged υ)}
      (calls : ∀ callback owner args,
        Records (foreign.call callback owner args) (foreign'.call callback owner args))
      (id : CellId) (default : Option Value) (target : Side) :
      Records (Cell.get foreign id default target)
        (noting id (fun _ => .get default target) (Cell.get foreign' id default target))
  | checkpoint (id : CellId) :
      Records (Cell.setCheckpoint id)
        (noting id (fun c => .checkpoint c.state) (Cell.setCheckpoint id))
  | askChanged (id : CellId) :
      Records (Cell.askChanged id)
        (noting id (fun c => .hasChanged c.state c.hasChanged) (Cell.askChanged id))

/-! ## A companion follows its program -/

/-- The cell is there and remembers what the diary has as its last checkpoint, and all its answers
were right. -/
structure Tracked (id : CellId) (s : Store) (diary : Diary) : Prop where
  remembers : ∃ c, s.cells[id]? = some c ∧ c.baseline = diary.lastCheckpoint id
  truthful : diary.Truthful id

/-- Where the diary tracks a cell, a companion does what its program does, and the diary goes on
tracking it. -/
def Follows (id : CellId) (act : Act (World υ) α) (companion : Act (World (Logged υ)) α) : Prop :=
  ∀ (w : World υ) (diary : Diary), Tracked id w.store diary →
    ∃ later, companion (w.logged diary) = ((act w).1, (act w).2.logged later) ∧
      Tracked id (act w).2.store later

namespace Follows

variable {id : CellId}

theorem pure (a : α) : Follows id (υ := υ) (Pure.pure a) (Pure.pure a) :=
  fun _ diary tracked => ⟨diary, rfl, tracked⟩

theorem bind {first : Act (World υ) α} {first' : Act (World (Logged υ)) α}
    {next : α → Act (World υ) β} {next' : α → Act (World (Logged υ)) β}
    (head : Follows id first first') (tail : ∀ a, Follows id (next a) (next' a)) :
    Follows id (first >>= next) (first' >>= next') := by
  intro w diary tracked
  obtain ⟨later, ran, kept⟩ := head w diary tracked
  cases done : first w with
  | mk outcome after =>
    rw [done] at ran kept
    cases outcome with
    | error e =>
      rw [Act.bind_of_error _ _ _ _ _ done]
      exact ⟨later, Act.bind_of_error _ _ _ _ _ ran, kept⟩
    | ok a =>
      rw [Act.bind_of_ok _ _ _ _ _ done, Act.bind_of_ok _ _ _ _ _ ran]
      exact tail a after later kept

theorem attempt {act : Act (World υ) α} {act' : Act (World (Logged υ)) α}
    (follows : Follows id act act') :
    Follows id act.attempt act'.attempt := by
  intro w diary tracked
  obtain ⟨later, ran, kept⟩ := follows w diary tracked
  cases done : act w with
  | mk outcome after =>
    rw [done] at ran kept
    cases outcome with
    | error e =>
      simp only [Act.attempt, ran, done]
      split <;> exact ⟨later, rfl, kept⟩
    | ok a =>
      simp only [Act.attempt, ran, done]
      exact ⟨later, rfl, kept⟩

theorem lift (result : Except Error α) : Follows id (υ := υ) (Act.lift result) (Act.lift result) :=
  fun _ diary tracked => ⟨diary, rfl, tracked⟩

theorem fail (e : Error) : Follows (α := α) id (υ := υ) (Act.fail e) (Act.fail e) :=
  fun _ diary tracked => ⟨diary, rfl, tracked⟩

theorem read (f : Store → α) : Follows id (υ := υ) (World.read f) (World.read f) :=
  fun _ diary tracked => ⟨diary, rfl, tracked⟩

theorem ite {p : Prop} [Decidable p] {first second : Act (World υ) α}
    {first' second' : Act (World (Logged υ)) α} (whenTrue : Follows id first first')
    (whenFalse : Follows id second second') :
    Follows id (if p then first else second) (if p then first' else second') := by
  split
  · exact whenTrue
  · exact whenFalse

/-- What a change of the store makes of the cells when it leaves their checkpoints alone. -/
theorem change {f : Store → Store}
    (keeps : ∀ s c, s.cells[id]? = some c →
      ∃ after, (f s).cells[id]? = some after ∧ after.baseline = c.baseline) :
    Follows id (υ := υ) (World.change f) (World.change f) := by
  intro w diary tracked
  obtain ⟨c, there, baseline⟩ := tracked.remembers
  obtain ⟨after, still, same⟩ := keeps w.store c there
  exact ⟨diary, rfl, ⟨after, still, same.trans baseline⟩, tracked.truthful⟩

/-- A change beside the cells. -/
theorem beside {f : Store → Store} (same : ∀ s, (f s).cells = s.cells) :
    Follows id (υ := υ) (World.change f) (World.change f) :=
  change fun s c there => ⟨c, by rw [same, there], rfl⟩

/-- A change of a cell that leaves its checkpoint alone. -/
theorem adjustCell (cell : CellId) {f : Cell → Cell} (same : ∀ c, (f c).baseline = c.baseline) :
    Follows id (υ := υ) (World.change (·.adjustCell cell f))
      (World.change (·.adjustCell cell f)) := by
  apply change
  intro s c there
  have adjusted : (s.adjustCell cell f).cells[id]? = some (if cell = id then f c else c) := by
    rw [Store.adjustCell, List.getElem?_modify, there]
    rfl
  refine ⟨_, adjusted, ?_⟩
  split
  · exact same c
  · rfl

theorem ensure {act : Act (World υ) α} {act' : Act (World (Logged υ)) α}
    (follows : Follows id act act') {f : Store → Store} (same : ∀ s, (f s).cells = s.cells) :
    Follows id (World.ensure act f) (World.ensure act' f) := by
  intro w diary tracked
  obtain ⟨later, ran, kept⟩ := follows w diary tracked
  obtain ⟨c, there, baseline⟩ := kept.remembers
  refine ⟨later, ?_, ⟨c, ?_, baseline⟩, kept.truthful⟩
  · simp only [World.ensure, Act.ensure, ran]
    rfl
  · simp only [World.ensure, Act.ensure, same, there]

/-! ### What is done with buses, objects and cells -/

theorem content (cell : CellId) (default : Option Value) (target : Side) :
    Follows id (υ := υ) (Cell.content cell default target) (Cell.content cell default target) := by
  refine bind (read _) fun found => ?_
  cases found with
  | none => exact pure default
  | some c =>
    cases slot : c.state.slot with
    | undefined => simpa only [slot] using pure default
    | null => simpa only [slot] using pure none
    | value v => simpa only [slot] using lift _

section

variable {foreign : Foreign υ} {foreign' : Foreign (Logged υ)}
  (calls : ∀ callback owner args,
    Follows id (foreign.call callback owner args) (foreign'.call callback owner args))

include calls

theorem callAll (bus : BusId) (name : String) (owner : Owner) (args : List Arg)
    (hooks : List Hook) :
    Follows id (Bus.callAll foreign bus name owner args hooks)
      (Bus.callAll foreign' bus name owner args hooks) := by
  induction hooks with
  | nil => exact pure ()
  | cons hook rest ih =>
    exact bind (calls _ _ _) fun flow => ite (bind (beside fun _ => rfl) fun _ => ih) ih

theorem emit (bus : BusId) (name : String) (args : List Arg) :
    Follows id (Bus.emit foreign bus name args) (Bus.emit foreign' bus name args) := by
  refine bind (read _) fun found => ?_
  cases found with
  | none => exact pure ()
  | some b =>
    refine bind (read _) fun alive => ite ?_ (pure ())
    cases b.hooks.get? name with
    | none => exact pure ()
    | some hooks =>
      have retains : ∀ s : Store, (s.retainOwner b.owner).cells = s.cells := by
        intro s
        cases b.owner <;> rfl
      have releases : ∀ s : Store, (s.releaseOwner b.owner).cells = s.cells := by
        intro s
        cases b.owner <;> rfl
      exact bind (beside retains) fun _ =>
        ensure (callAll calls bus name b.owner args hooks) releases

theorem announce (bus : Option BusId) (name : String) (args : List Arg) :
    Follows id (Cell.announce foreign bus name args) (Cell.announce foreign' bus name args) := by
  cases bus with
  | none => exact pure ()
  | some bus => exact emit calls bus name args

theorem notify (info : InfoId) :
    Follows id (Obj.notify foreign info) (Obj.notify foreign' info) := by
  refine bind (read _) fun found => ?_
  cases found with
  | none => exact pure ()
  | some i =>
    refine bind (read _) fun alive => ite ?_ (pure ())
    refine bind (beside fun _ => rfl) fun _ => bind (read _) fun found => ?_
    cases found with
    | none => exact pure ()
    | some i => exact emit calls i.bus Obj.deletedEvent []

theorem notifyAll (infos : List InfoId) :
    Follows id (Obj.notifyAll foreign infos) (Obj.notifyAll foreign' infos) := by
  induction infos with
  | nil => exact pure ()
  | cons info rest ih =>
    exact bind (attempt (notify calls info)) fun _ => bind (beside fun _ => rfl) fun _ => ih

theorem release (object : ObjectId) :
    Follows id (Obj.release foreign object) (Obj.release foreign' object) := by
  refine bind (beside fun _ => rfl) fun _ => bind (read _) fun found => ?_
  cases found with
  | none => exact pure ()
  | some o =>
    exact ite (bind (beside fun _ => rfl) fun _ => notifyAll calls _) (pure ())

theorem validate
    (rules : ∀ rule context subject v,
      Follows id (foreign.validate rule context subject v)
      (foreign'.validate rule context subject v))
    (validator : Validator) (v : Option Value) :
    Follows id (Cell.validate foreign validator v) (Cell.validate foreign' validator v) := by
  refine bind (read _) fun context => ?_
  cases context with
  | none => exact rules _ _ _ _
  | some context =>
    cases context with
    | actor owner =>
      exact bind (beside fun _ => rfl) fun _ => ensure (rules _ _ _ _) fun _ => rfl
    | object owner =>
      exact bind (beside fun _ => rfl) fun _ => bind (attempt (rules _ _ _ _)) fun result =>
        bind (release calls owner) fun _ => lift result

theorem commit (cell : CellId) (new : Slot) (payload : Arg) (cleared : Bool) (source : Side) :
    Follows id (Cell.commit foreign cell new payload cleared source)
      (Cell.commit foreign' cell new payload cleared source) := by
  refine bind (read _) fun found => ?_
  cases found with
  | none => exact pure ()
  | some c =>
    exact bind (adjustCell cell fun _ => rfl) fun _ =>
      ite (bind (lift _) fun shown => announce calls c.bus _ _) (pure ())

theorem delete (cell : CellId) :
    Follows id (Cell.delete foreign cell) (Cell.delete foreign' cell) := by
  refine bind (read _) fun found => ?_
  cases found with
  | none => exact pure ()
  | some c =>
    exact bind (adjustCell cell fun _ => rfl) fun _ =>
      ite (bind (lift _) fun shown => announce calls c.bus _ _) (pure ())

theorem get (cell : CellId) (default : Option Value) (target : Side) :
    Follows id (Cell.get foreign cell default target) (Cell.get foreign' cell default target) := by
  refine bind (read _) fun found => ?_
  cases found with
  | none => exact pure default
  | some c =>
    cases waits : c.state.lazy with
    | none => simpa only [waits] using content cell default target
    | some l =>
      simpa only [waits] using bind (announce calls c.bus _ _) fun _ => content cell default target

theorem place (cell : CellId) (c : Cell) (v : Option Value) (source : Side) :
    Follows id (Cell.place foreign cell c v source) (Cell.place foreign' cell c v source) := by
  refine bind (bind (read _) fun found => ?_) fun cleared => ?_
  · cases found with
    | none => exact pure false
    | some c => exact bind (adjustCell cell fun _ => rfl) fun _ => pure _
  · cases v with
    | none =>
      exact ite (commit calls cell _ _ cleared source) (fail _)
    | some v =>
      refine bind (lift _) fun kept => ?_
      cases source with
      | database => exact bind (lift _) fun shown => commit calls cell _ _ cleared _
      | program => exact commit calls cell _ _ cleared _

theorem assign
    (rules : ∀ rule context subject v,
      Follows id (foreign.validate rule context subject v)
      (foreign'.validate rule context subject v))
    (cell : CellId) (v : Option Value) (source : Side) :
    Follows id (Cell.assign foreign cell v source) (Cell.assign foreign' cell v source) := by
  refine bind (read _) fun found => ?_
  cases found with
  | none => exact pure ()
  | some c =>
    have placed := fun v => place calls cell c v source
    obtain ⟨kind, allowNull, column, bus, validator, state, baseline⟩ := c
    cases source with
    | database => exact bind (pure v) placed
    | program =>
      cases validator with
      | none => exact bind (pure v) placed
      | some validator => exact bind (validate calls rules validator v) placed

end

/-! ### What is noted -/

/-- A note of what bears on no checkpoint and gives no answer. -/
theorem noting {cell : CellId} {request : Cell → Request} {act : Act (World υ) α}
    {act' : Act (World (Logged υ)) α} (follows : Follows id act act')
    (last : ∀ c (diary : Diary), Diary.lastCheckpoint id ((cell, request c) :: diary) =
      diary.lastCheckpoint id)
    (truthful : ∀ (s : Store) c (diary : Diary), s.cells[cell]? = some c → Tracked id s diary →
      Diary.Truthful id ((cell, request c) :: diary)) :
    Follows id act (RowMapper.noting cell request act') := by
  intro w diary tracked
  cases there : w.store.cells[cell]? with
  | none =>
    obtain ⟨later, ran, kept⟩ := follows w diary tracked
    refine ⟨later, ?_, kept⟩
    rw [← ran]
    simp only [RowMapper.noting, World.logged, there]
  | some c =>
    have noted : Tracked id w.store ((cell, request c) :: diary) := by
      refine ⟨?_, truthful w.store c diary there tracked⟩
      rw [last]
      exact tracked.remembers
    obtain ⟨later, ran, kept⟩ := follows w _ noted
    refine ⟨later, ?_, kept⟩
    rw [← ran]
    simp only [RowMapper.noting, World.logged, there]

theorem askChanged (cell : CellId) :
    Follows id (υ := υ) (Cell.askChanged cell)
      (RowMapper.noting cell (fun c => .hasChanged c.state c.hasChanged)
        (Cell.askChanged cell)) := by
  refine noting (read _) (fun _ _ => rfl) fun s c diary there tracked => ⟨?_, tracked.truthful⟩
  rintro rfl
  obtain ⟨c', there', baseline⟩ := tracked.remembers
  obtain rfl : c = c' := Option.some.inj (there.symm.trans there')
  rw [c.hasChanged_eq_false_iff, baseline]
  rfl

/-- A note of what a change of its cell makes of the checkpoint. -/
theorem noting_adjustCell {cell : CellId} {request : Cell → Request} {f : Cell → Cell}
    (last : ∀ c (diary : Diary), Diary.lastCheckpoint id ((cell, request c) :: diary) =
      if cell = id then (f c).baseline else diary.lastCheckpoint id)
    (silent : ∀ c (diary : Diary), diary.Truthful id →
      Diary.Truthful id ((cell, request c) :: diary))
    {next : Act (World υ) α} {next' : Act (World (Logged υ)) α} (follows : Follows id next next') :
    Follows id (World.change (·.adjustCell cell f) >>= fun _ => next)
      (RowMapper.noting cell request (World.change (·.adjustCell cell f) >>= fun _ => next')) := by
  intro w diary tracked
  obtain ⟨c, there, baseline⟩ := tracked.remembers
  have adjusted : (w.store.adjustCell cell f).cells[id]? = some (if cell = id then f c else c) := by
    rw [Store.adjustCell, List.getElem?_modify, there]
    rfl
  cases noted : w.store.cells[cell]? with
  | none =>
    have other : cell ≠ id := by
      rintro rfl
      rw [there] at noted
      cases noted
    rw [if_neg other] at adjusted
    obtain ⟨later, ran, kept⟩ := follows ⟨w.store.adjustCell cell f, w.user⟩ diary
      ⟨⟨c, adjusted, baseline⟩, tracked.truthful⟩
    refine ⟨later, ?_, kept⟩
    simp only [RowMapper.noting, World.logged, noted]
    exact ran
  | some c' =>
    have remembers : (if cell = id then f c else c).baseline =
        Diary.lastCheckpoint id ((cell, request c') :: diary) := by
      rw [last]
      by_cases same : cell = id
      · subst same
        obtain rfl : c = c' := Option.some.inj (there.symm.trans noted)
        rw [if_pos rfl, if_pos rfl]
      · rw [if_neg same, if_neg same, baseline]
    obtain ⟨later, ran, kept⟩ :=
      follows ⟨w.store.adjustCell cell f, w.user⟩ ((cell, request c') :: diary)
      ⟨⟨_, adjusted, remembers⟩, silent c' diary tracked.truthful⟩
    refine ⟨later, ?_, kept⟩
    simp only [RowMapper.noting, World.logged, noted]
    exact ran

/-- A checkpoint is the last one of its cell. -/
theorem checkpoint (cell : CellId) :
    Follows id (υ := υ) (Cell.setCheckpoint cell)
      (RowMapper.noting cell (fun c => .checkpoint c.state) (Cell.setCheckpoint cell)) :=
  noting_adjustCell (fun _ _ => rfl) (fun _ _ truthful => by exact truthful) (pure ())

/-- A lazy value takes the checkpoint of its cell away. -/
theorem setLazy {foreign : Foreign υ} {foreign' : Foreign (Logged υ)}
    (calls : ∀ callback owner args,
      Follows id (foreign.call callback owner args) (foreign'.call callback owner args))
    (cell : CellId) (l : Lazy) (source : Side) :
    Follows id (Cell.set foreign cell (.lazy l) source)
      (RowMapper.noting cell (fun _ => .assign (.lazy l) source)
        (Cell.set foreign' cell (.lazy l) source)) :=
  noting_adjustCell (fun _ _ => rfl) (fun _ _ truthful => by exact truthful)
    (commit calls cell _ _ false source)

theorem set {foreign : Foreign υ} {foreign' : Foreign (Logged υ)}
    (calls : ∀ callback owner args,
      Follows id (foreign.call callback owner args) (foreign'.call callback owner args))
    (rules : ∀ rule context subject v,
      Follows id (foreign.validate rule context subject v)
      (foreign'.validate rule context subject v))
    (cell : CellId) (a : Assignment) (source : Side) :
    Follows id (Cell.set foreign cell a source)
      (RowMapper.noting cell (fun _ => .assign a source) (Cell.set foreign' cell a source)) := by
  cases a with
  | lazy l => exact setLazy calls cell l source
  | null =>
    exact noting (assign calls rules cell none source) (fun _ _ => rfl) fun _ _ _ _ tracked =>
      tracked.truthful
  | value v =>
    exact noting (assign calls rules cell (some v) source) (fun _ _ => rfl) fun _ _ _ _ tracked =>
      tracked.truthful

end Follows

/-- A companion follows its program, whatever cell is watched. -/
theorem Records.follows {act : Act (World υ) α} {companion : Act (World (Logged υ)) α}
    (records : Records act companion) (id : CellId) : Follows id act companion := by
  induction records with
  | pure a => exact .pure a
  | bind _ _ head tail => exact .bind head tail
  | attempt _ follows => exact follows.attempt
  | aside keeps =>
    intro w diary tracked
    obtain ⟨c, there, baseline⟩ := tracked.remembers
    obtain ⟨after, still, same⟩ := keeps w id c there
    exact ⟨diary, rfl, ⟨after, still, same.trans baseline⟩, tracked.truthful⟩
  | emit _ bus name args calls => exact .emit calls bus name args
  | set _ _ cell a source calls rules => exact .set calls rules cell a source
  | delete _ cell calls =>
    exact .noting (.delete calls cell) (fun _ _ => rfl) fun _ _ _ _ tracked => tracked.truthful
  | get _ cell default target calls =>
    exact .noting (.get calls cell default target) (fun _ _ => rfl) fun _ _ _ _ tracked =>
      tracked.truthful
  | checkpoint cell => exact .checkpoint cell
  | askChanged cell => exact .askChanged cell

/-- From the time on when a cell is new and remembers no checkpoint, whatever a program does, its
companion does the same and keeps a diary. The cell is still there, it has not changed exactly where
the diary says so, and every answer that it gave on the way, callbacks and rules included, was by
the diary as it was then. -/
theorem hasChanged_tells_diary {act : Act (World υ) α} {companion : Act (World (Logged υ)) α}
    (records : Records act companion) {w : World υ} {id : CellId} {made : Cell}
    (there : w.store.cells[id]? = some made) (new : made.baseline = none) :
    ∃ (diary : Diary) (c : Cell),
      companion (w.logged []) = ((act w).1, (act w).2.logged diary) ∧
      (act w).2.store.cells[id]? = some c ∧ (c.hasChanged = false ↔ diary.Unchanged id c.state) ∧
      diary.Truthful id := by
  obtain ⟨diary, ran, tracked⟩ := records.follows id w [] ⟨⟨made, there, new⟩, trivial⟩
  obtain ⟨c, still, baseline⟩ := tracked.remembers
  refine ⟨diary, c, ran, still, ?_, tracked.truthful⟩
  rw [c.hasChanged_eq_false_iff, baseline]
  rfl

/-- Assigns a lazy value to the first cell and reads the cell, where the callback that finds the
value sets a checkpoint before the cell is read, and asks whether it has changed. -/
def lazyRead : Act (World Unit) (Option Value) := do
  let silent : Foreign Unit := .ofCall fun _ _ _ => pure .keep
  let finding : Foreign Unit := .ofCall fun _ _ _ => do
    Cell.set silent 0 (.value (.int 7)) .database
    let _ ← Cell.askChanged 0
    Cell.setCheckpoint 0
    return .keep
  Cell.set silent 0 (.lazy .reload) .program
  Cell.get finding 0 none .program

def lazyReadLogged : Act (World (Logged Unit)) (Option Value) := do
  let silent : Foreign (Logged Unit) := .ofCall fun _ _ _ => pure .keep
  let finding : Foreign (Logged Unit) := .ofCall fun _ _ _ => do
    noting 0 (fun _ => .assign (.value (.int 7)) .database)
      (Cell.set silent 0 (.value (.int 7)) .database)
    let _ ← noting 0 (fun c => .hasChanged c.state c.hasChanged) (Cell.askChanged 0)
    noting 0 (fun c => .checkpoint c.state) (Cell.setCheckpoint 0)
    return .keep
  noting 0 (fun _ => .assign (.lazy .reload) .program) (Cell.set silent 0 (.lazy .reload) .program)
  noting 0 (fun _ => .get none .program) (Cell.get finding 0 none .program)

/-- A new cell on a bus with one callback for reads of lazy values, and an actor that owns the
bus. -/
def lazyReader : World Unit where
  store := { Store.empty with
    cells := [⟨.any, true, none, some 0, none, .initial, none⟩]
    buses := [(Bus.ofOwner (.actor 0)).hook Cell.resolveEvent ⟨0, []⟩]
    actors := [1] }
  user := ()

/-- In the end the cell has not changed, as the checkpoint in the callback was set after the lazy
value was assigned. -/
theorem lazyRead_tells_diary :
    Records lazyRead lazyReadLogged ∧
    ∃ (diary : Diary) (c : Cell), lazyReadLogged (lazyReader.logged []) =
        (.ok (some (.int 7)), (lazyRead lazyReader).2.logged diary) ∧
      (lazyRead lazyReader).2.store.cells[0]? = some c ∧ diary.Unchanged 0 c.state ∧
      diary.Truthful 0 := by
  have silent : ∀ (callback : CallbackId) (owner : Owner) (args : List Arg),
      Records (υ := Unit) (pure Flow.keep) (pure Flow.keep) := fun _ _ _ => .pure _
  have rules : ∀ (rule : RuleId) (context : Option ContextRef) (subject : String)
      (v : Option Value), Records (υ := Unit) (pure v) (pure v) := fun _ _ _ v => .pure v
  have records : Records lazyRead lazyReadLogged :=
    .bind (.set silent rules 0 (.lazy .reload) .program) fun _ => .get (fun _ _ _ =>
      .bind (.set silent rules 0 (.value (.int 7)) .database) fun _ =>
        .bind (.askChanged 0) fun _ => .bind (.checkpoint 0) fun _ => .pure _) 0 none .program
  have made : lazyReader.store.cells[0]? = some ⟨.any, true, none, some 0, none, .initial, none⟩ :=
    rfl
  obtain ⟨diary, c, ran, there, tells, truthful⟩ := hasChanged_tells_diary records made rfl
  have read : (lazyRead lazyReader).1 = .ok (some (.int 7)) := rfl
  have unchanged : c.hasChanged = false := by
    have last : ((lazyRead lazyReader).2.store.cells[0]?).map Cell.hasChanged = some false := rfl
    rw [there] at last
    exact Option.some.inj last
  exact ⟨records, diary, c, by rw [ran, read], there, tells.mp unchanged, truthful⟩

end RowMapper
