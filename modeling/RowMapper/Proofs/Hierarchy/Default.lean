import RowMapper.Compiler.Default
import RowMapper.Proofs.Hierarchy.Inheritance
/-!
The default compiler. Its tables are made by changes one after the other, on a root alone; they
answer for every node of the library which handler it goes to and how tightly it binds, and for
every word whether it is reserved.
-/

set_option autoImplicit false

namespace RowMapper

variable {H α : Type}

/-- A root alone, with tables of its own. -/
def Hierarchy.lone (own : Tables H) : Hierarchy H := ⟨[some ⟨[], [], 1, own, .merge [own]⟩], []⟩

theorem Hierarchy.edit_lone (own : Tables H) (f : Tables H → Tables H) :
    (Hierarchy.lone own).edit 0 f = .lone (f own) := rfl

/-- Tables made by changes one after the other. -/
def Edit.tables (edits : List (Edit H)) : Tables H := edits.foldl (fun t e => e.apply t) .empty

/-- Changes of a root alone. -/
theorem Usage.reachable_lone (edits : List (Edit H)) :
    (⟨.lone (Edit.tables edits), [0], edits.reverse.map (.edited 0)⟩ : Usage H).Reachable := by
  induction edits using List.reverseRecOn with
  | nil => exact .root
  | append_singleton edits e ih =>
    have called := Reachable.call (.edit e) ih List.mem_cons_self
    rw [Usage.call, e.perform_eq, Hierarchy.edit_lone] at called
    rwa [Edit.tables, List.foldl_append, List.reverse_append]

theorem births_edited (id : Nat) (edits : List (Edit H)) :
    births (edits.map (Event.edited id)) = [] := by
  induction edits with
  | nil => rfl
  | cons e rest ih => exact ih

def Edit.standard (builtin : Builtin → H) : List (Edit H) :=
  Builtin.registrations.map (fun (tags, b) => .register tags (builtin b)) ++
    Builtin.precedences.map (fun (precedence, tags) => .setPrecedence precedence tags) ++
    [.markWords true reservedWords]

theorem Edit.tables_standard (builtin : Builtin → H) :
    Edit.tables (Edit.standard builtin) = Tables.standard builtin := by
  simp only [tables, standard, List.foldl_append, List.foldl_map, List.foldl_cons, List.foldl_nil]
  rfl

theorem Hierarchy.standard_eq_lone (builtin : Builtin → H) :
    Hierarchy.standard builtin = .lone (.standard builtin) := rfl

/-- Tables answer as the last change that made them and that says anything. -/
theorem Query.find_tables (q : Query H α) (edits : List (Edit H)) :
    q.find (Edit.tables edits) = edits.reverse.findSome? q.set := by
  induction edits using List.reverseRecOn with
  | nil => exact q.find_empty
  | append_singleton edits e ih =>
    rw [Edit.tables] at ih ⊢
    rw [List.foldl_append, List.foldl_cons, List.foldl_nil, q.find_apply, ih, List.reverse_append,
      List.reverse_singleton, List.singleton_append, List.findSome?_cons]
    cases q.set e <;> rfl

/-! ## What the tables of a default compiler answer -/

def Builtin.ofTag (tag : Tag) : Option Builtin :=
  Builtin.registrations.reverse.findSome? fun (tags, b) => if tag ∈ tags then some b else none

def Builtin.precedenceOf (tag : Tag) : Option Int :=
  Builtin.precedences.reverse.findSome? fun (precedence, tags) =>
    if tag ∈ tags then some precedence else none

theorem Query.find_handler (tag : Tag) (t : Tables H) :
    (Query.handler tag).find t = t.handlers.get? tag := rfl

theorem Query.find_precedence (tag : Tag) (t : Tables H) :
    (Query.precedence tag).find t = t.precedences.get? tag := rfl

theorem Query.find_mark (word : String) (t : Tables H) :
    (Query.mark word).find t = t.reserved.get? word := rfl

theorem Tables.get?_handlers_standard (builtin : Builtin → H) (tag : Tag) :
    (Tables.standard builtin).handlers.get? tag = (Builtin.ofTag tag).map builtin := by
  have answer := (Query.handler tag).find_tables (Edit.standard builtin)
  rw [Edit.tables_standard, Query.find_handler] at answer
  have ranked : (Builtin.precedences.map fun (precedence, tags) =>
      (.setPrecedence precedence tags : Edit H)).reverse.findSome? (Edit.handlerFor tag) =
        none := by
    rw [List.findSome?_eq_none_iff]
    intro e member
    obtain ⟨entry, -, rfl⟩ := List.mem_map.mp (List.mem_reverse.mp member)
    rfl
  have words : Edit.handlerFor tag (.markWords true reservedWords : Edit H) = none := rfl
  rw [answer, Edit.standard, List.reverse_append, List.reverse_append, List.findSome?_append,
    List.findSome?_append, Query.handler]
  dsimp only
  rw [ranked, List.reverse_singleton, List.findSome?_singleton, Option.none_or, ← List.map_reverse,
    List.findSome?_map, Builtin.ofTag, List.map_findSome?, words, Option.none_or]
  refine congrArg (fun find => Builtin.registrations.reverse.findSome? find)
    (funext fun entry => ?_)
  obtain ⟨tags, b⟩ := entry
  simp only [Function.comp_apply, Edit.handlerFor]
  split <;> rfl

theorem Tables.get?_precedences_standard (builtin : Builtin → H) (tag : Tag) :
    (Tables.standard builtin).precedences.get? tag = Builtin.precedenceOf tag := by
  have answer := (Query.precedence tag).find_tables (Edit.standard builtin)
  rw [Edit.tables_standard, Query.find_precedence] at answer
  have handled : (Builtin.registrations.map fun (tags, b) =>
      (.register tags (builtin b) : Edit H)).reverse.findSome? (Edit.precedenceFor tag) = none := by
    rw [List.findSome?_eq_none_iff]
    intro e member
    obtain ⟨entry, -, rfl⟩ := List.mem_map.mp (List.mem_reverse.mp member)
    rfl
  have words : Edit.precedenceFor tag (.markWords true reservedWords : Edit H) = none := rfl
  rw [answer, Edit.standard, List.reverse_append, List.reverse_append, List.findSome?_append,
    List.findSome?_append, Query.precedence]
  dsimp only
  rw [handled, List.reverse_singleton, List.findSome?_singleton, Option.or_none, ← List.map_reverse,
    List.findSome?_map, Builtin.precedenceOf, words, Option.none_or]
  rfl

/-- The characters are of the first 128 and no capitals. -/
def Text.isSmall (letters : List Char) : Bool :=
  letters.all fun c => c.toNat < 128 && c.toLower == c

theorem Text.lowerList_of_isSmall {letters : List Char} (small : isSmall letters)
    (before : List Char) :
    lowerList before letters = letters := by
  induction letters generalizing before with
  | nil => rfl
  | cons c rest ih =>
    rw [isSmall, List.all_cons, Bool.and_eq_true, Bool.and_eq_true, decide_eq_true_eq,
      beq_iff_eq] at small
    obtain ⟨⟨low, same⟩, others⟩ := small
    simp only [lowerList, low, ↓reduceIte, same, ih others, List.singleton_append]

/-- As lists of characters, for the kernel takes a text apart slowly and a list of characters at
once. -/
theorem reservedWords_isSmall : ∀ word ∈ reservedWords, ∃ letters, word = String.ofList letters ∧
    Text.isSmall letters := by
  repeat first
    | exact List.forall_mem_nil _
    | refine List.forall_mem_cons.mpr ⟨⟨_, rfl, rfl⟩, ?_⟩

theorem toLowerCase_reservedWords : reservedWords.map Text.toLowerCase = reservedWords := by
  refine (List.map_congr_left fun word member => ?_).trans (List.map_id reservedWords)
  obtain ⟨letters, rfl, small⟩ := reservedWords_isSmall word member
  rw [Text.toLowerCase, String.toList_ofList, Text.lowerList_of_isSmall small, id]

theorem Tables.isReserved_standard (builtin : Builtin → H) (word : String) :
    (Tables.standard builtin).isReserved word = decide (Text.toLowerCase word ∈ reservedWords) := by
  have answer := (Query.mark (Text.toLowerCase word)).find_tables (Edit.standard builtin)
  rw [Edit.tables_standard, Query.find_mark] at answer
  have silent :
      (Builtin.registrations.map (fun (tags, b) => (.register tags (builtin b) : Edit H)) ++
        Builtin.precedences.map fun (precedence, tags) =>
        (.setPrecedence precedence tags : Edit H)).reverse.findSome?
          (Edit.markFor (Text.toLowerCase word)) = none := by
    rw [List.findSome?_eq_none_iff]
    intro e member
    rcases List.mem_append.mp (List.mem_reverse.mp member) with handled | ranked
    · obtain ⟨entry, -, rfl⟩ := List.mem_map.mp handled
      rfl
    · obtain ⟨entry, -, rfl⟩ := List.mem_map.mp ranked
      rfl
  rw [Tables.isReserved, answer, Edit.standard, List.reverse_append,
    List.findSome?_append, Query.mark]
  dsimp only
  rw [silent, List.reverse_singleton, List.findSome?_singleton, Option.or_none, Edit.markFor,
    toLowerCase_reservedWords]
  by_cases marked : Text.toLowerCase word ∈ reservedWords <;>
    simp only [marked, ↓reduceIte, decide_true, decide_false, Option.getD_some, Option.getD_none]

end RowMapper
