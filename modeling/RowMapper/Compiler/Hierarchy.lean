import RowMapper.Compiler.Tables
/-!
A hierarchy of compilers. Every compiler has tables of its own and keeps the effective tables merged
from those of its path, the root first and its own last. A change of the own tables renews the
effective ones of the compiler and of all below it. Compilers live in numbered slots; a compiler
leaves its slot when no handle on it is left and no child, and the slot freed last is used again
first.
-/

set_option autoImplicit false

namespace RowMapper

/-- A compiler in its slot. -/
structure CompilerNode (H : Type) where
  /-- The slots of the compilers above, the root first. -/
  parents : List Nat
  children : List Nat
  /-- How many handles on the compiler there are. -/
  handles : Nat
  own : Tables H
  effective : Tables H

/-- The slots, and the free ones among them, the one freed last in front. -/
structure Hierarchy (H : Type) where
  slots : List (Option (CompilerNode H))
  free : List Nat

namespace Hierarchy

variable {H : Type}

/-- A compiler without entries and with one handle on it. -/
def freshNode (parents : List Nat) : CompilerNode H := ⟨parents, [], 1, .empty, .empty⟩

/-- A root compiler alone. -/
def root : Hierarchy H := ⟨[some (freshNode [])], []⟩

def node? (h : Hierarchy H) (id : Nat) : Option (CompilerNode H) := (h.slots[id]?).join

def adjust (h : Hierarchy H) (id : Nat) (f : CompilerNode H → CompilerNode H) : Hierarchy H :=
  { h with slots := h.slots.modify id (Option.map f) }

/-- The effective tables of a compiler; none if the slot is empty. -/
def effective (h : Hierarchy H) (id : Nat) : Tables H :=
  match h.node? id with
  | some node => node.effective
  | none => .empty

def ownTables (h : Hierarchy H) (id : Nat) : Tables H :=
  match h.node? id with
  | some node => node.own
  | none => .empty

def mergedTables (h : Hierarchy H) (id : Nat) (node : CompilerNode H) : Tables H :=
  .merge ((node.parents ++ [id]).map h.ownTables)

/-- The children of a compiler; none if the slot is empty. -/
def childrenOf (h : Hierarchy H) (id : Nat) : List Nat :=
  match h.node? id with
  | some node => node.children
  | none => []

def renew (h : Hierarchy H) (id : Nat) : Hierarchy H :=
  h.adjust id fun node => { node with effective := h.mergedTables id node }

/-- Renews the effective tables of a compiler and then those of the compilers below it, child after
child, at most so deep. -/
def refreshTo : Nat → Nat → Hierarchy H → Hierarchy H
  | 0, _, h => h
  | depth + 1, id, h =>
    let renewed := h.renew id
    (renewed.childrenOf id).foldl (fun h child => refreshTo depth child h) renewed

/-- Renews the effective tables of a compiler and of all below it. No path is longer than there are
slots. -/
def refresh (h : Hierarchy H) (id : Nat) : Hierarchy H := refreshTo h.slots.length id h

def edit (h : Hierarchy H) (id : Nat) (f : Tables H → Tables H) : Hierarchy H :=
  (h.adjust id fun node => { node with own := f node.own }).refresh id

/-- Puts a compiler into the slot freed last, or into a new one. -/
def insert (h : Hierarchy H) (node : CompilerNode H) : Nat × Hierarchy H :=
  match h.free with
  | id :: free => (id, ⟨h.slots.set id (some node), free⟩)
  | [] => (h.slots.length, ⟨h.slots ++ [some node], []⟩)

/-- Adds a child, with one handle on it. -/
def createChild (h : Hierarchy H) (parent : Nat) : Nat × Hierarchy H :=
  let parents := match h.node? parent with
    | some node => node.parents ++ [parent]
    | none => [parent]
  let (id, h) := h.insert (freshNode parents)
  (id, (h.adjust parent fun node => { node with children := node.children ++ [id] }).refresh id)

def addHandle (h : Hierarchy H) (id : Nat) : Hierarchy H :=
  h.adjust id fun node => { node with handles := node.handles + 1 }

/-- Registers a handler for tags; yields the handlers that it puts out. -/
def register (h : Hierarchy H) (id : Nat) (tags : List Tag) (handler : H) : List H × Hierarchy H :=
  (Tables.replaced (h.ownTables id).handlers handler tags,
    h.edit id fun own => own.register tags handler)

def setPrecedence (h : Hierarchy H) (id : Nat) (precedence : Int) (tags : List Tag) : Hierarchy H :=
  h.edit id fun own => own.setPrecedence precedence tags

def markWords (h : Hierarchy H) (id : Nat) (reserved : Bool) (words : List String) : Hierarchy H :=
  h.edit id fun own => own.markWords reserved words

def size (h : Hierarchy H) : Nat := h.slots.countP Option.isSome

def entriesIn : Option (CompilerNode H) → List H
  | some node => node.own.handlers.values
  | none => []

def entries (h : Hierarchy H) : List H := h.slots.flatMap entriesIn

/-- Takes a compiler out of its slot and out of the children of the one above it. -/
def remove (h : Hierarchy H) (id : Nat) (node : CompilerNode H) : Hierarchy H :=
  let emptied : Hierarchy H := ⟨h.slots.set id none, id :: h.free⟩
  match node.parents.getLast? with
  | some parent => emptied.adjust parent fun above =>
      { above with children := above.children.filter (· ≠ id) }
  | none => emptied

@[simp] theorem size_adjust (h : Hierarchy H) (id : Nat) (f : CompilerNode H → CompilerNode H) :
    (h.adjust id f).size = h.size := by
  simp only [size, adjust]
  generalize h.slots = slots
  induction slots generalizing id with
  | nil => simp
  | cons occupant rest ih =>
    cases id with
    | zero => cases occupant <;> simp
    | succ id => simp [List.countP_cons, ih]

/-- A compiler that leaves makes the hierarchy smaller by one. -/
theorem size_remove (h : Hierarchy H) (id : Nat) (node : CompilerNode H)
    (found : h.node? id = some node) :
    (h.remove id node).size + 1 = h.size := by
  have occupied : h.slots[id]? = some (some node) := by
    simpa only [node?, Option.join_eq_some_iff] using found
  obtain ⟨inside, there⟩ := List.getElem?_eq_some_iff.mp occupied
  have emptied : (⟨h.slots.set id none, id :: h.free⟩ : Hierarchy H).size + 1 = h.size := by
    have positive : 0 < h.slots.countP Option.isSome :=
      List.countP_pos_iff.mpr ⟨some node, there ▸ List.getElem_mem inside, rfl⟩
    simp only [size, List.countP_set inside, there, Option.isSome_some, ↓reduceIte,
      Option.isSome_none, Bool.false_eq_true, Nat.add_zero]
    omega
  unfold remove
  split
  · rw [size_adjust, emptied]
  · exact emptied

/-- Takes a compiler out of its slot if no handle and no child of it is left, and then goes on with
the one above it; yields those that left. -/
def vacate (h : Hierarchy H) (id : Nat) : List (CompilerNode H) × Hierarchy H :=
  match _ : h.node? id with
  | none => ([], h)
  | some node =>
    if node.handles = 0 && node.children.isEmpty then
      match node.parents.getLast? with
      | none => ([node], h.remove id node)
      | some parent =>
        let (left, h) := vacate (h.remove id node) parent
        (node :: left, h)
    else ([], h)
termination_by h.size
decreasing_by
  have smaller := size_remove h id node ‹h.node? id = some node›
  omega

/-- Drops a handle on a compiler; yields the compilers that leave the hierarchy with it. -/
def release (h : Hierarchy H) (id : Nat) : List (CompilerNode H) × Hierarchy H :=
  (h.adjust id fun node => { node with handles := node.handles - 1 }).vacate id

/-! ## What becomes of the entries -/

theorem entries_adjust (h : Hierarchy H) (id : Nat) (f : CompilerNode H → CompilerNode H)
    (own : ∀ node, (f node).own = node.own) : (h.adjust id f).entries = h.entries := by
  have each : ∀ occupant, entriesIn (Option.map f occupant) = entriesIn occupant := by
    intro occupant
    cases occupant with
    | none => rfl
    | some node => simp only [Option.map_some, entriesIn, own]
  simp only [entries, adjust]
  generalize h.slots = slots
  induction slots generalizing id with
  | nil => simp
  | cons occupant rest ih =>
    cases id with
    | zero => simp [each]
    | succ id => simp [ih]

/-- A place in a list set to something else: what comes from it takes the place of what came from
it. -/
theorem flatMap_set_perm {α β : Type} (g : α → List β) {l : List α} {i : Nat} {a : α}
    (there : l[i]? = some a) (b : α) :
    (g a ++ (l.set i b).flatMap g).Perm (g b ++ l.flatMap g) := by
  induction l generalizing i with
  | nil => cases there
  | cons first rest ih =>
    cases i with
    | zero =>
      cases there
      simp only [List.set_cons_zero, List.flatMap_cons, ← List.append_assoc]
      exact List.perm_append_comm.append_right _
    | succ i =>
      simp only [List.set_cons_succ, List.flatMap_cons]
      refine (List.perm_append_comm_assoc ..).trans ?_
      refine ((ih there).append_left _).trans ?_
      exact List.perm_append_comm_assoc ..

theorem entries_remove (h : Hierarchy H) (id : Nat) (node : CompilerNode H)
    (found : h.node? id = some node) :
    (node.own.handlers.values ++ (h.remove id node).entries).Perm h.entries := by
  have occupied : h.slots[id]? = some (some node) := by
    simpa only [node?, Option.join_eq_some_iff] using found
  have emptied : (node.own.handlers.values ++
      (⟨h.slots.set id none, id :: h.free⟩ : Hierarchy H).entries).Perm h.entries :=
    flatMap_set_perm entriesIn occupied none
  unfold remove
  split
  · simpa only [entries_adjust, implies_true] using emptied
  · exact emptied

/-- The entries that are left, with those of the compilers that left, are those that were there. -/
theorem entries_vacate (h : Hierarchy H) (id : Nat) :
    ((h.vacate id).1.flatMap (fun node => node.own.handlers.values) ++ (h.vacate id).2.entries).Perm
      h.entries := by
  fun_induction vacate h id with
  | case1 => exact .refl _
  | case2 h id node found idle highest => simpa using entries_remove h id node found
  | case3 h id node found idle parent last left after above ih =>
    simp only [above] at ih
    simp only [List.flatMap_cons, List.append_assoc]
    exact (ih.append_left _).trans (entries_remove h id node found)
  | case4 => exact .refl _

theorem entries_release (h : Hierarchy H) (id : Nat) :
    ((h.release id).1.flatMap (fun node => node.own.handlers.values) ++
      (h.release id).2.entries).Perm h.entries := by
  have dropped :=
    entries_vacate (h.adjust id fun node => { node with handles := node.handles - 1 }) id
  simpa only [release, entries_adjust, implies_true] using dropped

def childCount (h : Hierarchy H) (id : Nat) : Nat := (h.childrenOf id).length

def slotsText (slots : List Nat) : String := Text.listed (slots.map toString)

def diagnostic (h : Hierarchy H) (id : Nat) : String :=
  match h.node? id with
  | some node =>
    Text.record "Compile"
      [("id", toString id), ("parents", slotsText node.parents),
        ("children", slotsText node.children), ("handlers", toString node.effective.handlers.size)]
  | none => ""

end Hierarchy

end RowMapper
