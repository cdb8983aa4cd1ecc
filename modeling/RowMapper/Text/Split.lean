/-!
Cutting text at a separator: at its first occurrence, or at every one.
-/

set_option autoImplicit false

namespace RowMapper.Text

/-- What stands before and after the first separator. -/
def cut (separator : Char) : List Char → Option (List Char × List Char)
  | [] => none
  | c :: rest =>
    if c = separator then some ([], rest)
    else (cut separator rest).map fun (before, after) => (c :: before, after)

/-- The parts between separators: one more than there are separators. -/
def fields (separator : Char) : List Char → List (List Char)
  | [] => [[]]
  | c :: rest =>
    if c = separator then [] :: fields separator rest
    else match fields separator rest with
      | [] => [[c]]
      | first :: others => (c :: first) :: others

section

variable {separator : Char} {text before after : List Char}

theorem cut_eq_none_iff : cut separator text = none ↔ separator ∉ text := by
  induction text with
  | nil => simp [cut]
  | cons c rest ih =>
    by_cases found : c = separator
    · simp [cut, found]
    · simp [cut, found, ih, Ne.symm found]

theorem cut_eq_some_iff :
    cut separator text = some (before, after) ↔
      text = before ++ separator :: after ∧ separator ∉ before := by
  induction text generalizing before with
  | nil => simp [cut]
  | cons c rest ih =>
    by_cases found : c = separator
    · cases before with
      | nil => simp [cut, found]
      | cons d others =>
        simp only [cut, found, if_true, Option.some.injEq, Prod.mk.injEq, List.cons_append,
          List.cons.injEq, List.mem_cons, not_or]
        exact ⟨fun ⟨empty, _⟩ => (List.cons_ne_nil d others empty.symm).elim,
          fun ⟨⟨same, _⟩, differs, _⟩ => (differs same).elim⟩
    · cases before with
      | nil => simp [cut, found]
      | cons d others =>
        simp only [cut, found, if_false, Option.map_eq_some_iff, Prod.exists, Prod.mk.injEq,
          List.cons.injEq, List.cons_append, List.mem_cons, not_or]
        constructor
        · rintro ⟨_, _, cuts, ⟨rfl, rfl⟩, rfl⟩
          obtain ⟨rfl, plain⟩ := ih.mp cuts
          exact ⟨⟨rfl, rfl⟩, Ne.symm found, plain⟩
        · rintro ⟨⟨rfl, rfl⟩, _, plain⟩
          exact ⟨_, _, ih.mpr ⟨rfl, plain⟩, ⟨rfl, rfl⟩, rfl⟩

/-- The fields are the text, or what stands before its first separator and the fields of what stands
after. -/
theorem fields_eq_cut :
    fields separator text = match cut separator text with
      | none => [text]
      | some (before, after) => before :: fields separator after := by
  induction text with
  | nil => rfl
  | cons c rest ih =>
    by_cases found : c = separator
    · simp [fields, cut, found]
    · rw [fields, if_neg found, ih, cut, if_neg found]
      cases cut separator rest <;> rfl

theorem fields_eq_cons_iff {first : List Char} {others : List (List Char)} :
    fields separator text = first :: others ↔ separator ∉ first ∧
      (text = first ∧ others = [] ∨ ∃ rest, text = first ++ separator :: rest ∧
        fields separator rest = others) := by
  constructor
  · intro found
    rw [fields_eq_cut] at found
    cases cuts : cut separator text with
    | none =>
      rw [cuts] at found
      obtain ⟨rfl, rfl⟩ := List.cons.inj found
      exact ⟨cut_eq_none_iff.mp cuts, .inl ⟨rfl, rfl⟩⟩
    | some parts =>
      rw [cuts] at found
      obtain ⟨rfl, rfl⟩ := List.cons.inj found
      obtain ⟨text_eq, plain⟩ := cut_eq_some_iff.mp cuts
      exact ⟨plain, .inr ⟨_, text_eq, rfl⟩⟩
  · rintro ⟨plain, ⟨rfl, rfl⟩ | ⟨rest, rfl, rfl⟩⟩
    · rw [fields_eq_cut, cut_eq_none_iff.mpr plain]
    · rw [fields_eq_cut, cut_eq_some_iff.mpr ⟨rfl, plain⟩]

theorem fields_ne_nil : fields separator text ≠ [] := by
  rw [fields_eq_cut]
  cases cut separator text <;> exact List.cons_ne_nil _ _

theorem fields_eq_singleton_iff {field : List Char} :
    fields separator text = [field] ↔ text = field ∧ separator ∉ field := by
  simp [fields_eq_cons_iff, fields_ne_nil, and_comm]

end

end RowMapper.Text
