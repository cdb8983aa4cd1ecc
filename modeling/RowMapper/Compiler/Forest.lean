import RowMapper.Compiler.Default
/-!
A forest: the hierarchies of a program, with the handlers that the program brings. Such a handler
may own handles on compilers, of its own hierarchy or of others. It lives as long as a table of a
compiler or a compilation refers to it, and the handles that it owns are dropped with it, which may
let compilers and further handlers go.
-/

set_option autoImplicit false

namespace RowMapper

abbrev HandlerId := Nat

/-- A handler as it stands in tables. -/
inductive Handler where
  | builtin (b : Builtin)
  | custom (id : HandlerId)
  deriving DecidableEq, Repr

/-- A handle on a compiler. -/
structure Handle where
  hierarchy : Nat
  slot : Nat
  deriving DecidableEq, Repr

/-- A handler of the program. -/
structure CustomHandler (P : Type) where
  program : P
  owned : List Handle
  references : Nat

/-- The hierarchies of a program and the handlers that it brings. -/
structure Forest (P : Type) where
  hierarchies : List (Hierarchy Handler)
  handlers : List (CustomHandler P)

/-- What refers to a handler or to a compiler and can be dropped. -/
inductive Reference where
  | handler (id : HandlerId)
  | handle (h : Handle)
  deriving DecidableEq, Repr

/-- What the entry of a table refers to. -/
def Handler.reference? : Handler → Option Reference
  | .builtin _ => none
  | .custom id => some (.handler id)

namespace Forest

variable {P : Type}

def empty : Forest P := ⟨[], []⟩

instance : Inhabited (Forest P) := ⟨empty⟩

def hierarchy (f : Forest P) (id : Nat) : Hierarchy Handler := (f.hierarchies[id]?).getD ⟨[], []⟩

def setHierarchy (f : Forest P) (id : Nat) (h : Hierarchy Handler) : Forest P :=
  { f with hierarchies := f.hierarchies.set id h }

/-- Adds a hierarchy with one handle on its root. -/
def create (f : Forest P) (h : Hierarchy Handler) : Handle × Forest P :=
  (⟨f.hierarchies.length, 0⟩, { f with hierarchies := f.hierarchies ++ [h] })

/-- Adds a child, with one handle on it. -/
def createChild (f : Forest P) (parent : Handle) : Handle × Forest P :=
  let (slot, h) := (f.hierarchy parent.hierarchy).createChild parent.slot
  (⟨parent.hierarchy, slot⟩, f.setHierarchy parent.hierarchy h)

def addHandle (f : Forest P) (h : Handle) : Forest P :=
  f.setHierarchy h.hierarchy ((f.hierarchy h.hierarchy).addHandle h.slot)

def effective (f : Forest P) (h : Handle) : Tables Handler :=
  (f.hierarchy h.hierarchy).effective h.slot

/-- Drops one reference; yields the references that are dropped with it. -/
def dropOne (f : Forest P) : Reference → List Reference × Forest P
  | .handler id =>
    match f.handlers[id]? with
    | none => ([], f)
    | some handler =>
      if handler.references ≤ 1 then
        (handler.owned.map .handle,
          { f with handlers := f.handlers.set id { handler with owned := [], references := 0 } })
      else
        ([], { f with
          handlers := f.handlers.set id { handler with references := handler.references - 1 } })
  | .handle h =>
    let (left, hierarchy) := (f.hierarchy h.hierarchy).release h.slot
    (left.flatMap fun node => node.own.handlers.values.filterMap Handler.reference?,
      f.setHierarchy h.hierarchy hierarchy)

/-- The handles that the handlers own. -/
def owned (f : Forest P) : List Handle := f.handlers.flatMap CustomHandler.owned

def entries (f : Forest P) : List Handler := f.hierarchies.flatMap Hierarchy.entries

/-- How much there is to drop at most: what goes with something else was owned by a handler or stood
in a table. -/
def burden (f : Forest P) (references : List Reference) : Nat :=
  references.length + f.owned.length + f.entries.length

theorem owned_setHandler (f : Forest P) {id : Nat} {handler : CustomHandler P}
    (there : f.handlers[id]? = some handler) (after : CustomHandler P) :
    (handler.owned ++ ({ f with handlers := f.handlers.set id after } : Forest P).owned).Perm
      (after.owned ++ f.owned) :=
  Hierarchy.flatMap_set_perm CustomHandler.owned there after

theorem entries_setHierarchy (f : Forest P) {id : Nat} {h : Hierarchy Handler}
    (there : f.hierarchies[id]? = some h) (after : Hierarchy Handler) :
    (h.entries ++ (f.setHierarchy id after).entries).Perm (after.entries ++ f.entries) :=
  Hierarchy.flatMap_set_perm Hierarchy.entries there after

theorem hierarchy_eq {f : Forest P} {id : Nat} {h : Hierarchy Handler}
    (there : f.hierarchies[id]? = some h) : f.hierarchy id = h := by
  simp only [hierarchy, there, Option.getD_some]

/-- What comes into the tables of a hierarchy and goes out of them comes into those of the forest
and goes out. -/
theorem entries_exchanged (f : Forest P) {id : Nat} {h after : Hierarchy Handler}
    (there : f.hierarchies[id]? = some h) {gone come : List Handler}
    (exchanged : (gone ++ after.entries).Perm (come ++ h.entries)) :
    (gone ++ (f.setHierarchy id after).entries).Perm (come ++ f.entries) := by
  have replaced := f.entries_setHierarchy there after
  refine List.perm_append_left_iff h.entries |>.mp ?_
  refine (List.perm_append_comm_assoc ..).trans ?_
  refine (replaced.append_left _).trans ?_
  rw [← List.append_assoc]
  refine (exchanged.append_right _).trans ?_
  rw [List.append_assoc]
  exact List.perm_append_comm_assoc ..

theorem entries_kept (f : Forest P) {id : Nat} {h after : Hierarchy Handler}
    (there : f.hierarchies[id]? = some h) (same : after.entries.Perm h.entries) :
    (f.setHierarchy id after).entries.Perm f.entries := by
  rw [← List.nil_append after.entries, ← List.nil_append h.entries] at same
  exact f.entries_exchanged there same

/-- With what a handle lets go, the entries are those that were there. -/
theorem entries_release (f : Forest P) {h : Handle} {hierarchy : Hierarchy Handler}
    (there : f.hierarchies[h.hierarchy]? = some hierarchy) :
    ((hierarchy.release h.slot).1.flatMap (fun node => node.own.handlers.values) ++
      (f.setHierarchy h.hierarchy (hierarchy.release h.slot).2).entries).Perm f.entries := by
  have kept := Hierarchy.entries_release hierarchy h.slot
  rw [← List.nil_append hierarchy.entries] at kept
  exact f.entries_exchanged there kept

/-- Every reference that goes with the one dropped was owned by a handler or stood in a table
before. -/
theorem burden_dropOne (f : Forest P) (reference : Reference) (rest : List Reference) :
    (f.dropOne reference).2.burden ((f.dropOne reference).1 ++ rest) <
      f.burden (reference :: rest) := by
  cases reference with
  | handler id =>
    simp only [dropOne]
    cases there : f.handlers[id]? with
    | none => simp [burden]
    | some handler =>
      dsimp only
      split
      · have moved :=
          (f.owned_setHandler there { handler with owned := [], references := 0 }).length_eq
        simp only [burden, List.length_append, List.length_map, List.length_cons, List.length_nil,
          entries] at moved ⊢
        omega
      · have kept := (f.owned_setHandler there
          { handler with references := handler.references - 1 }).length_eq
        simp only [burden, List.length_append, List.length_cons, List.nil_append, entries] at kept ⊢
        omega
  | handle h =>
    simp only [dropOne]
    cases there : f.hierarchies[h.hierarchy]? with
    | none =>
      have outside : f.hierarchies.length ≤ h.hierarchy := List.getElem?_eq_none_iff.mp there
      have nothing : f.hierarchy h.hierarchy = ⟨[], []⟩ := by
        simp only [hierarchy, there, Option.getD_none]
      rw [nothing]
      simp [burden, Hierarchy.release, Hierarchy.vacate, Hierarchy.adjust, Hierarchy.node?,
        setHierarchy, List.set_eq_of_length_le outside, owned, entries]
    | some hierarchy =>
      have kept := (f.entries_release there).length_eq
      rw [hierarchy_eq there]
      have fewer := List.length_filterMap_le Handler.reference?
        ((hierarchy.release h.slot).1.flatMap fun node => node.own.handlers.values)
      rw [List.filterMap_flatMap] at fewer
      simp only [burden, List.length_append, List.length_cons, setHierarchy, owned] at kept ⊢
      omega

/-- Drops references, and all that goes with each before the next. -/
def drop (f : Forest P) : List Reference → Forest P
  | [] => f
  | reference :: rest => drop (f.dropOne reference).2 ((f.dropOne reference).1 ++ rest)
termination_by references => f.burden references
decreasing_by exact burden_dropOne f reference rest

def release (f : Forest P) (h : Handle) : Forest P := f.drop [.handle h]

/-- Adds a handler that owns further handles on compilers, with one reference to it. -/
def addHandler (f : Forest P) (program : P) (owned : List Handle) : HandlerId × Forest P :=
  let f := owned.foldl addHandle f
  (f.handlers.length, { f with handlers := f.handlers ++ [⟨program, owned, 1⟩] })

def retainHandler (f : Forest P) (id : HandlerId) (count : Nat) : Forest P :=
  { f with
    handlers := f.handlers.modify id fun h => { h with references := h.references + count } }

/-- Registers a handler of the program for tags. Those that it puts out are dropped in the order of
the tags. -/
def register (f : Forest P) (h : Handle) (tags : List Tag) (program : P) (owned : List Handle) :
    Forest P :=
  let (id, f) := f.addHandler program owned
  let f := f.retainHandler id tags.length
  let (replaced, hierarchy) := (f.hierarchy h.hierarchy).register h.slot tags (.custom id)
  (f.setHierarchy h.hierarchy hierarchy).drop
    (replaced.filterMap Handler.reference? ++ [.handler id])

def setPrecedence (f : Forest P) (h : Handle) (precedence : Int) (tags : List Tag) : Forest P :=
  f.setHierarchy h.hierarchy ((f.hierarchy h.hierarchy).setPrecedence h.slot precedence tags)

def markWords (f : Forest P) (h : Handle) (reserved : Bool) (words : List String) : Forest P :=
  f.setHierarchy h.hierarchy ((f.hierarchy h.hierarchy).markWords h.slot reserved words)

def diagnostic (f : Forest P) (h : Handle) : String := (f.hierarchy h.hierarchy).diagnostic h.slot

end Forest

end RowMapper
