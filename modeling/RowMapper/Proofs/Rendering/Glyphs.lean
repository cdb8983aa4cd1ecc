import RowMapper.Proofs.Rendering.Compile
/-!
What a default compiler prints, with its quoted names apart. The text of an expression is made of
single characters and of names in double quotes, so what it has outside those names can be said of
any text, also where raw texts bring quotes of their own.
-/

set_option autoImplicit false

namespace RowMapper

/-! ## Texts with their quoted names apart -/

/-- What a text is made of: characters, and names in double quotes. -/
inductive Glyph where
  | char (c : Char)
  | quoted (name : String)

namespace Glyph

def letters : Glyph → List Char
  | .char c => [c]
  | .quoted name => (Builtin.quotedName name).toList

def spell (glyphs : List Glyph) : String := String.ofList (glyphs.flatMap letters)

/-- A text without names in quotes. -/
def bare (text : String) : List Glyph := text.toList.map .char

/-- A name, in quotes unless it is a plain word that is not reserved. -/
def ofName (name : String) : List Glyph :=
  if Builtin.isPlainWord name && !isReservedWord name then bare name else [.quoted name]

/-- In parentheses if what is around binds more tightly. -/
def enclose (rank outer : Int) (glyphs : List Glyph) : List Glyph :=
  if rank < outer then bare "(" ++ glyphs ++ bare ")" else glyphs

variable (glyphs more : List Glyph)

@[simp] theorem spell_append : spell (glyphs ++ more) = spell glyphs ++ spell more := by
  rw [spell, List.flatMap_append, String.ofList_append]
  rfl

theorem letters_bare (text : String) : (bare text).flatMap letters = text.toList := by
  rw [bare, List.flatMap_map]
  exact List.flatMap_singleton' _

@[simp] theorem spell_bare (text : String) : spell (bare text) = text := by
  rw [spell, letters_bare, String.ofList_toList]

@[simp] theorem spell_ofName (name : String) : spell (ofName name) = printName name := by
  unfold ofName printName
  split
  · exact spell_bare name
  · rw [spell, List.flatMap_singleton]
    exact String.ofList_toList

@[simp] theorem spell_enclose (rank outer : Int) :
    spell (enclose rank outer glyphs) = enclosed rank outer (spell glyphs) := by
  unfold enclose enclosed
  split <;> simp only [spell_append, spell_bare]

end Glyph

/-! ## Printing glyphs -/

open Glyph (bare spell)

mutual

def Expr.glyphs (outer : Int) (context : Option Context) (options : Options) : Expr → List Glyph
  | .node mark node =>
    match (Expr.node mark node).passthrough options.raw with
    | some text => bare text
    | none => Glyph.enclose node.rank outer (node.glyphs context)
  | .seq items => (bare options.join).intercalate (Expr.allGlyphs outer context options items)

def Expr.allGlyphs (outer : Int) (context : Option Context) (options : Options) :
    List Expr → List (List Glyph)
  | [] => []
  | e :: rest => e.glyphs outer context options :: Expr.allGlyphs outer context options rest

def Node.glyphs (context : Option Context) : Node → List Glyph
  | .value _ | .variable _ => bare "?"
  | .null => bare "NULL"
  | .table t => Glyph.ofName t.name
  | .column c =>
    match c.table with
    | none => Glyph.ofName c.name
    | some t =>
      if context = some .columnName then Glyph.ofName c.name
      else Glyph.ofName t.name ++ bare "." ++ Glyph.ofName c.name
  | .aliased e name => e.glyphs 1000 context {} ++ bare " AS " ++ Glyph.ofName name
  | .binary op left right =>
    left.glyphs op.rank context {} ++
      match op with
      | .eq =>
        if right.isNull then bare " IS NULL" else bare op.symbol ++ right.glyphs op.rank context {}
      | .ne =>
        if right.isNull then bare " IS NOT NULL"
        else bare op.symbol ++ right.glyphs op.rank context {}
      | .isIn => bare " IN (" ++ right.glyphs 0 context {} ++ bare ")"
      | .sub | .div | .mod => bare op.symbol ++ right.glyphs (op.rank + 1) context {}
      | _ => bare op.symbol ++ right.glyphs op.rank context {}
  | .compound op operands => operands.glyphs op.rank context { join := op.symbol }
  | .call name args => bare name ++ bare "(" ++ args.glyphs 0 (some .expr) {} ++ bare ")"
  | .countAll => bare "COUNT(*)"
  | .count e distinct =>
    bare (if distinct then "COUNT(DISTINCT " else "COUNT(") ++ e.glyphs 1000 (some .expr) {} ++
      bare ")"
  | .prefixed op e => bare op.symbol ++ bare " " ++ e.glyphs 1000 context {}
  | .suffixed op e => e.glyphs 1000 context { raw := true } ++ bare " " ++ bare op.symbol
  | .token name => Glyph.ofName name
  | .raw sql => bare sql
  | .custom .. => []

end

mutual

/-- The glyphs are the printed text. -/
theorem Expr.spell_glyphs (e : Expr) (outer : Int) (context : Option Context) {options : Options}
    (unnamed : options.token = false) :
    spell (e.glyphs outer context options) = e.print outer context options := by
  cases e with
  | node mark node =>
    rw [Expr.glyphs, Expr.print]
    cases (Expr.node mark node).passthrough options.raw with
    | some text => exact Glyph.spell_bare text
    | none =>
      simp only [Glyph.spell_enclose, node.spell_glyphs context, unnamed, Expr.name?,
        Bool.false_eq_true, ↓reduceIte]
  | seq items => rw [Expr.glyphs, Expr.print, Expr.spell_allGlyphs items outer context unnamed]

theorem Expr.spell_allGlyphs (items : List Expr) (outer : Int) (context : Option Context)
    {options : Options} (unnamed : options.token = false) :
    spell ((bare options.join).intercalate (Expr.allGlyphs outer context options items)) =
      String.intercalate options.join (Expr.printAll outer context options items) := by
  cases items with
  | nil => rfl
  | cons e rest =>
    have first := e.spell_glyphs outer context unnamed
    cases rest with
    | nil =>
      simp only [Expr.allGlyphs, Expr.printAll, List.intercalate_singleton,
        String.intercalate_singleton, first]
    | cons second others =>
      have later := Expr.spell_allGlyphs (second :: others) outer context unnamed
      simp only [Expr.allGlyphs, Expr.printAll, List.intercalate_cons_cons,
        String.intercalate_cons_cons, Glyph.spell_append, Glyph.spell_bare, first] at later ⊢
      rw [later]

theorem Node.spell_glyphs (node : Node) (context : Option Context) :
    spell (node.glyphs context) = node.print context := by
  cases node
  case column c =>
    rw [Node.glyphs, Node.print]
    cases c.table with
    | none => exact Glyph.spell_ofName c.name
    | some t => by_cases short : context = some .columnName <;> simp [short, String.append_assoc]
  case binary op left right =>
    have first := fun outer => left.spell_glyphs outer context (rfl : ({} : Options).token = false)
    have second :=
      fun outer => right.spell_glyphs outer context (rfl : ({} : Options).token = false)
    cases op
    case eq | ne => cases null : right.isNull <;>
      simp [Node.glyphs, Node.print, null, first, second]
    all_goals simp [Node.glyphs, Node.print, first, second, String.append_assoc]
  case compound op operands => simp [Node.glyphs, Node.print, operands.spell_glyphs]
  case aliased e _ | call _ e | count e _ | prefixed _ e | suffixed _ e =>
    simp [Node.glyphs, Node.print, e.spell_glyphs, String.append_assoc]
  all_goals simp [Node.glyphs, Node.print]
  all_goals rfl

end

end RowMapper
