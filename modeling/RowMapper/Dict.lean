/-!
Finite maps as lists of entries with distinct keys, in the order in which the keys came. One lemma
says what each operation does to a lookup.
-/

set_option autoImplicit false

namespace RowMapper

/-- A finite map. -/
structure Dict (κ ν : Type) where
  entries : List (κ × ν)
  distinct : (entries.map Prod.fst).Nodup
  deriving DecidableEq, Repr

namespace Dict

variable {κ ν : Type} [DecidableEq κ]

def empty : Dict κ ν := ⟨[], List.nodup_nil⟩

instance : Inhabited (Dict κ ν) := ⟨empty⟩

/-- The value of a key in a list of entries. -/
def lookup : List (κ × ν) → κ → Option ν
  | [], _ => none
  | (k, v) :: rest, key => if k = key then some v else lookup rest key

/-- Replaces the value of a key, or appends an entry. -/
def put : List (κ × ν) → κ → ν → List (κ × ν)
  | [], key, value => [(key, value)]
  | (k, v) :: rest, key, value =>
    if k = key then (key, value) :: rest else (k, v) :: put rest key value

theorem mem_keys_put (entries : List (κ × ν)) (key other : κ) (value : ν) :
    other ∈ (put entries key value).map Prod.fst ↔ other = key ∨ other ∈ entries.map Prod.fst := by
  induction entries with
  | nil => simp [put]
  | cons entry rest ih =>
    obtain ⟨k, v⟩ := entry
    by_cases found : k = key
    · subst found
      simp [put]
    · simp only [put, found, ↓reduceIte, List.map_cons, List.mem_cons, ih]
      exact or_left_comm

theorem nodup_keys_put (entries : List (κ × ν)) (key : κ) (value : ν)
    (distinct : (entries.map Prod.fst).Nodup) : ((put entries key value).map Prod.fst).Nodup := by
  induction entries with
  | nil => simp [put]
  | cons entry rest ih =>
    obtain ⟨k, v⟩ := entry
    simp only [List.map_cons, List.nodup_cons] at distinct
    by_cases found : k = key
    · subst found
      simpa [put] using distinct
    · simp only [put, found, ↓reduceIte, List.map_cons, List.nodup_cons, mem_keys_put, false_or]
      exact ⟨distinct.1, ih distinct.2⟩

def get? (d : Dict κ ν) (key : κ) : Option ν := lookup d.entries key

def insert (d : Dict κ ν) (key : κ) (value : ν) : Dict κ ν :=
  ⟨put d.entries key value, nodup_keys_put d.entries key value d.distinct⟩

def erase (d : Dict κ ν) (key : κ) : Dict κ ν where
  entries := d.entries.filter fun entry => entry.1 ≠ key
  distinct := d.distinct.sublist (List.filter_sublist.map Prod.fst)

/-- The map with entries of another set over its own. -/
def extend (d other : Dict κ ν) : Dict κ ν :=
  other.entries.foldl (fun d entry => d.insert entry.1 entry.2) d

/-- The keys, in the order in which they came. -/
def keys (d : Dict κ ν) : List κ := d.entries.map Prod.fst

/-- The values, in the order of their keys. -/
def values (d : Dict κ ν) : List ν := d.entries.map Prod.snd

def size (d : Dict κ ν) : Nat := d.entries.length

@[simp] theorem get?_empty (key : κ) : (empty : Dict κ ν).get? key = none := rfl

theorem lookup_put (entries : List (κ × ν)) (key other : κ) (value : ν) :
    lookup (put entries key value) other =
      if key = other then some value else lookup entries other := by
  induction entries with
  | nil => rfl
  | cons entry rest ih =>
    obtain ⟨k, v⟩ := entry
    by_cases found : k = key
    · subst found
      simp only [put, ↓reduceIte, lookup]
      split <;> rfl
    · simp only [put, found, ↓reduceIte, lookup, ih]
      by_cases here : k = other
      · have apart : key ≠ other := fun same => found (here.trans same.symm)
        simp [here, apart]
      · simp [here]

@[simp] theorem get?_insert (d : Dict κ ν) (key other : κ) (value : ν) :
    (d.insert key value).get? other = if key = other then some value else d.get? other :=
  lookup_put d.entries key other value

theorem lookup_eq_none {entries : List (κ × ν)} {key : κ} (absent : key ∉ entries.map Prod.fst) :
    lookup entries key = none := by
  induction entries with
  | nil => rfl
  | cons entry rest ih =>
    obtain ⟨k, v⟩ := entry
    simp only [List.map_cons, List.mem_cons, not_or] at absent
    simp only [lookup, Ne.symm absent.1, ↓reduceIte, ih absent.2]

@[simp] theorem get?_extend (d other : Dict κ ν) (key : κ) :
    (d.extend other).get? key = (other.get? key).or (d.get? key) := by
  obtain ⟨entries, distinct⟩ := other
  simp only [extend, get?]
  induction entries generalizing d with
  | nil => rfl
  | cons entry rest ih =>
    obtain ⟨k, v⟩ := entry
    simp only [List.map_cons, List.nodup_cons] at distinct
    rw [List.foldl_cons, ih _ distinct.2]
    by_cases found : k = key
    · subst found
      simp [lookup, insert, lookup_put, lookup_eq_none distinct.1]
    · simp [lookup, insert, lookup_put, found]

theorem lookup_filter (entries : List (κ × ν)) (key other : κ) :
    lookup (entries.filter fun entry => entry.1 ≠ key) other =
      if key = other then none else lookup entries other := by
  induction entries with
  | nil => simp [lookup]
  | cons entry rest ih =>
    obtain ⟨k, v⟩ := entry
    by_cases found : k = key
    · subst found
      by_cases here : k = other
      · simpa [here, lookup] using ih
      · simpa [here, lookup] using ih
    · by_cases here : k = other
      · subst here
        simp [found, Ne.symm found, lookup]
      · simpa [found, here, lookup] using ih

@[simp] theorem get?_erase (d : Dict κ ν) (key other : κ) :
    (d.erase key).get? other = if key = other then none else d.get? other :=
  lookup_filter d.entries key other

theorem values_put_perm (entries : List (κ × ν)) (key : κ) (value : ν) :
    ((lookup entries key).toList ++ (put entries key value).map Prod.snd).Perm
      (value :: entries.map Prod.snd) := by
  induction entries with
  | nil => exact .refl _
  | cons entry rest ih =>
    obtain ⟨k, v⟩ := entry
    by_cases found : k = key
    · simp only [lookup, put, found, ↓reduceIte, Option.toList_some, List.map_cons,
        List.singleton_append]
      exact .swap ..
    · simp only [lookup, put, found, ↓reduceIte, List.map_cons]
      refine List.perm_middle.trans ?_
      exact (ih.cons v).trans (.swap ..)

/-- The value that a new one puts out and the values afterwards are the new one and the values
before. -/
theorem values_insert_perm (d : Dict κ ν) (key : κ) (value : ν) :
    ((d.get? key).toList ++ (d.insert key value).values).Perm (value :: d.values) :=
  values_put_perm d.entries key value

/-- Setting many keys to one value. -/
theorem get?_foldl_insert {α : Type} (keys : List α) (keyOf : α → κ) (value : ν)
    (d : Dict κ ν) (key : κ) :
    (keys.foldl (fun d a => d.insert (keyOf a) value) d).get? key =
      if key ∈ keys.map keyOf then some value else d.get? key := by
  induction keys generalizing d with
  | nil => simp
  | cons a rest ih =>
    rw [List.foldl_cons, ih, get?_insert]
    by_cases here : keyOf a = key
    · simp [here]
    · simp [here, Ne.symm here]

end Dict

end RowMapper
