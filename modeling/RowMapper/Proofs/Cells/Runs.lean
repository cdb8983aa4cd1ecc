import RowMapper.Proofs.Cells.Journal
/-!
Runs. The moments of a run are the ends of its journal: each one says which cells there were, and
how they were. A property that new cells have, and that deeds keep, holds of all cells at all
moments, wherever foreign code looks at them.
-/

set_option autoImplicit false

namespace RowMapper

variable {υ α : Type} {restores : Prop} {start middle cells : List Cell}
    {journal earlier later : Journal}

/-! ## Moments -/

/-- The cells that a journal leads to. -/
def Journal.replay (start : List Cell) : Journal → List Cell
  | [] => start
  | .done id before deed :: earlier => (replay start earlier).set id (deed.apply before)
  | .made c :: earlier => replay start earlier ++ [c]
  | .copied _ original :: earlier => replay start earlier ++ [original.detached]

/-- Each state that replaces another is the one of a cell of the same kind at an earlier moment. -/
def Journal.RestoresFrom (start : List Cell) : Journal → Prop
  | [] => True
  | .done _ before (.restore state) :: earlier =>
    (∃ (moment : Journal) (c : Cell), moment <:+ earlier ∧ c ∈ replay start moment ∧
      c.kind = before.kind ∧ c.state = state) ∧ RestoresFrom start earlier
  | _ :: earlier => RestoresFrom start earlier

namespace Leads

theorem replay_eq (leads : Leads restores start journal cells) :
    Journal.replay start journal = cells := by
  induction leads with
  | start => rfl
  | done _ _ _ _ ih | made _ _ ih | copied _ _ ih => simp only [Journal.replay, ih]

/-- A moment of a run is the end of the run until then. -/
theorem moment (leads : Leads restores start journal cells) (isMoment : earlier <:+ journal) :
    Leads restores start earlier (Journal.replay start earlier) := by
  induction leads with
  | start =>
    obtain rfl := List.suffix_nil.mp isMoment
    exact .start
  | done before there deed allowed ih =>
    rcases List.suffix_cons_iff.mp isMoment with rfl | sooner
    · simpa only [Journal.replay, before.replay_eq] using before.done there deed allowed
    · exact ih sooner
  | made before made ih =>
    rcases List.suffix_cons_iff.mp isMoment with rfl | sooner
    · simpa only [Journal.replay, before.replay_eq] using before.made made
    · exact ih sooner
  | copied before there ih =>
    rcases List.suffix_cons_iff.mp isMoment with rfl | sooner
    · simpa only [Journal.replay, before.replay_eq] using before.copied there
    · exact ih sooner

/-- Where no state may be replaced, none is. -/
theorem restoresFrom (leads : Leads False start journal cells) (known : List Cell) :
    journal.RestoresFrom known := by
  induction leads with
  | start => trivial
  | done _ _ deed allowed ih =>
    cases deed with
    | restore state => exact (allowed trivial).elim
    | waitFor | place | delete | look | checkpoint => exact ih
  | made _ _ ih | copied _ _ ih => exact ih

end Leads

/-! ## Invariants -/

/-- What a property of cells needs so that it holds at all moments. -/
structure Cell.Invariant (restores : Prop) (P : Cell → Prop) : Prop where
  detached : ∀ c, P c → P c.detached
  done : ∀ (c : Cell) (deed : Deed), ¬deed.Restores → P c → P (deed.apply c)
  restored : restores → ∀ c d, P c → P d → d.kind = c.kind → P { c with state := d.state }

/-- A property holds of all cells at all moments. -/
def Journal.Always (start : List Cell) (P : Cell → Prop) (journal : Journal) : Prop :=
  ∀ moment, moment <:+ journal → ∀ c ∈ replay start moment, P c

section

variable {P : Cell → Prop}

theorem Journal.Always.nil (begins : ∀ c ∈ start, P c) : Journal.Always start P [] := by
  intro moment isMoment
  obtain rfl := List.suffix_nil.mp isMoment
  exact begins

theorem Journal.Always.cons {entry : Entry} (sooner : Journal.Always start P journal)
    (now : ∀ c ∈ replay start (entry :: journal), P c) :
    Journal.Always start P (entry :: journal) := by
  intro moment isMoment
  rcases List.suffix_cons_iff.mp isMoment with rfl | isSooner
  · exact now
  · exact sooner moment isSooner

theorem Journal.Always.now (always : Journal.Always start P journal) :
    ∀ c ∈ replay start journal, P c :=
  always journal List.suffix_rfl

theorem Leads.always (leads : Leads restores start journal cells)
    (invariant : Cell.Invariant restores P) (made : ∀ c, c.Made → P c) (begins : ∀ c ∈ start, P c)
    (fair : journal.RestoresFrom start) :
    journal.Always start P := by
  induction leads with
  | start => exact .nil begins
  | @done journal cells id before led there deed allowed ih =>
    have sooner : Journal.RestoresFrom start journal := by
      cases deed with
      | restore state => exact fair.2
      | waitFor | place | delete | look | checkpoint => exact fair
    have always := ih sooner
    have was : P before := always.now before (led.replay_eq ▸ List.mem_of_getElem? there)
    refine always.cons fun c isCell => ?_
    rcases List.mem_or_eq_of_mem_set isCell with other | rfl
    · exact always.now c other
    · cases deed with
      | restore state =>
        obtain ⟨⟨taken, source, isTaken, wasThere, same, rfl⟩, _⟩ := fair
        exact invariant.restored (allowed trivial) before source was
          (always taken isTaken source wasThere) same
      | waitFor | place | delete | look | checkpoint =>
        exact invariant.done before _ (fun restored => restored.elim) was
  | made _ new ih =>
    have always := ih fair
    refine always.cons fun c isCell => ?_
    rcases List.mem_append.mp isCell with other | last
    · exact always.now c other
    · obtain rfl := List.mem_singleton.mp last
      exact made c new
  | @copied journal cells id original led there ih =>
    have always := ih fair
    refine always.cons fun c isCell => ?_
    rcases List.mem_append.mp isCell with other | last
    · exact always.now c other
    · obtain rfl := List.mem_singleton.mp last
      exact invariant.detached original
        (always.now original (led.replay_eq ▸ List.mem_of_getElem? there))

end

/-- A program that may replace no state replaces none. -/
theorem Accounts.restoresFrom {act : Act (World υ) α} {companion : Act (World (Journaled υ)) α}
    (accounts : Accounts False act companion) {w : World υ}
    (leads : Leads False start journal w.store.cells) :
    (companion (w.beside journal)).2.user.journal.RestoresFrom start := by
  obtain ⟨during, ran, led⟩ := accounts w journal
  rw [ran]
  exact (leads.trans led).restoresFrom start

/-! ## Worlds in a run -/

/-- A world within a run of a program. The run began where all cells were new. Its journal so far,
which the companion of the program keeps while it does the same, leads to the cells of the world. -/
inductive World.Within (restores : Prop) (start : List Cell) (journal : Journal)
    (w : World υ) : Prop
  | intro {α : Type} {act : Act (World υ) α} {companion : Act (World (Journaled υ)) α}
      {first : World υ} {whole : Journal} (journals : Journals restores act companion)
      (starts : first.store.cells = start) (new : ∀ c ∈ start, c.Made)
      (ran : companion (first.beside []) = ((act first).1, (act first).2.beside whole))
      (isMoment : journal <:+ whole) (fair : journal.RestoresFrom start)
      (now : w.store.cells = Journal.replay start journal) : Within restores start journal w

namespace World.Within

variable {w : World υ}

theorem leads (within : w.Within restores start journal) :
    Leads restores start journal w.store.cells := by
  obtain ⟨journals, rfl, _, ran, isMoment, _, now⟩ := within
  obtain ⟨during, ran', led⟩ := journals.accounts _ []
  rw [ran, List.append_nil] at ran'
  obtain rfl := congrArg (fun done => done.2.user.journal) ran'
  rw [now]
  exact led.moment isMoment

theorem new (within : w.Within restores start journal) : ∀ c ∈ start, c.Made := by
  obtain ⟨_, _, new, _⟩ := within
  exact new

theorem fair (within : w.Within restores start journal) : journal.RestoresFrom start := by
  obtain ⟨_, _, _, _, _, fair, _⟩ := within
  exact fair

theorem holds {P : Cell → Prop} (within : w.Within restores start journal)
    (invariant : Cell.Invariant restores P) (made : ∀ c, c.Made → P c) :
    ∀ c ∈ w.store.cells, P c := by
  have now :=
    (within.leads.always invariant made (fun c isCell => made c (within.new c isCell))
      within.fair).now
  rwa [within.leads.replay_eq] at now

/-- What a program goes on to do keeps an invariant too. -/
theorem holds_after {P : Cell → Prop} {act : Act (World υ) α}
    {companion : Act (World (Journaled υ)) α} (within : w.Within restores start journal)
    (accounts : Accounts restores act companion) (invariant : Cell.Invariant restores P)
    (made : ∀ c, c.Made → P c)
    (fair : (companion (w.beside journal)).2.user.journal.RestoresFrom start) :
    ∀ c ∈ (act w).2.store.cells, P c := by
  obtain ⟨during, ran, leads⟩ := accounts w journal
  rw [ran] at fair
  have led := within.leads.trans leads
  have now := (led.always invariant made (fun c isCell => made c (within.new c isCell)) fair).now
  rwa [led.replay_eq] at now

/-- The end of a run lies within it. -/
theorem ofRun {act : Act (World υ) α} {companion : Act (World (Journaled υ)) α}
    (journals : Journals restores act companion) (new : ∀ c ∈ w.store.cells, c.Made)
    (fair : (companion (w.beside [])).2.user.journal.RestoresFrom w.store.cells) :
    (act w).2.Within restores w.store.cells (companion (w.beside [])).2.user.journal := by
  obtain ⟨whole, ran, leads⟩ := journals.accounts w []
  rw [List.append_nil] at ran
  rw [ran] at fair ⊢
  exact .intro journals rfl new ran List.suffix_rfl fair leads.replay_eq.symm

end World.Within

end RowMapper
