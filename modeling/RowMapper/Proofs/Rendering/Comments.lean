import Mathlib.Data.List.Chain
import RowMapper.Proofs.Reading.Lexing
import RowMapper.Proofs.Rendering.Glyphs
import RowMapper.Proofs.Rendering.Names
/-!
Two minuses in a row open a comment. Outside the names in double quotes a printed expression has
them only where a difference puts its sign before an operand whose text begins with a minus, or
behind one whose text ends with one: the sign of a negation has a blank behind it, and every other
symbol keeps minuses apart. Which texts begin or end with a minus is read off the tree.
-/

set_option autoImplicit false

namespace RowMapper

/-! ## Comments in texts -/

/-- Two minuses in a row stand outside double quotes in the rest of a text, given whether a quote is
open. -/
def opensComment (quoted : Bool) : List Char → Bool
  | [] => false
  | c :: rest =>
    if c = '"' then opensComment (!quoted) rest
    else !quoted && c = '-' && rest.head? = some '-' || opensComment quoted rest

/-- Every double quote that the text opens it closes. -/
def closesQuotes (text : String) : Bool := text.toList.count '"' % 2 = 0

/-- A text that is not empty, has no minus and closes its quotes. -/
def separates (text : String) : Bool := text ≠ "" && !text.toList.contains '-' && closesQuotes text

/-- Letters without a minus only open and close quotes. -/
theorem opensComment_dashless {letters : List Char} (dashless : '-' ∉ letters) (quoted : Bool)
    (rest : List Char) :
    opensComment quoted (letters ++ rest) =
      opensComment (quoted ^^ letters.count '"' % 2 = 1) rest := by
  induction letters generalizing quoted with
  | nil => simp
  | cons c letters ih =>
    obtain ⟨first, later⟩ := List.ne_and_not_mem_of_not_mem_cons dashless
    rw [List.cons_append, opensComment]
    by_cases quote : c = '"'
    · rw [if_pos quote, ih later, quote, List.count_cons_self]
      congr 1
      rcases Nat.mod_two_eq_zero_or_one (letters.count '"') with even | odd
      · have next : (letters.count '"' + 1) % 2 = 1 := by omega
        simp [even, next]
      · have next : (letters.count '"' + 1) % 2 = 0 := by omega
        simp [odd, next]
    · rw [if_neg quote, ih later, List.count_cons_of_ne quote]
      simp [Ne.symm first]

/-- Inside a quote a doubled quote closes it and opens it again, and minuses open no comment. -/
theorem opensComment_doubled (letters rest : List Char) :
    opensComment true (doubled letters ++ rest) = opensComment true rest := by
  induction letters with
  | nil => rfl
  | cons c letters ih =>
    rw [doubled, List.flatMap_cons, List.append_assoc]
    by_cases quote : c = '"'
    · rw [if_pos quote, List.cons_append, List.cons_append, List.nil_append, opensComment,
        if_pos rfl, opensComment, if_pos rfl]
      exact ih
    · rw [if_neg quote, List.cons_append, List.nil_append, opensComment, if_neg quote,
        Bool.not_true, Bool.false_and, Bool.false_and, Bool.false_or]
      exact ih

theorem opensComment_quotedName (name : String) (rest : List Char) :
    opensComment false ((Builtin.quotedName name).toList ++ rest) = opensComment false rest := by
  rw [Builtin.quotedName, String.toList_ofList, List.cons_append, List.cons_append,
    opensComment, if_pos rfl, Bool.not_false, List.append_assoc]
  refine (opensComment_doubled _ _).trans ?_
  rw [List.singleton_append, opensComment, if_pos rfl, Bool.not_true]

theorem separates_of_isPlainWord {word : String} (plain : Builtin.isPlainWord word) :
    separates word := by
  obtain ⟨c, rest, letters, -, words⟩ := Reading.isPlainWord_cases plain
  have absent : ∀ d, Reading.isWordChar d = false → d ∉ word.toList := by
    intro d apart isLetter
    rw [letters] at isLetter
    simp [words d isLetter] at apart
  have present : word ≠ "" := by
    rintro rfl
    cases letters
  have dashless : '-' ∉ word.toList := absent '-' (by decide)
  have quoteless : word.toList.count '"' = 0 := List.count_eq_zero.mpr (absent '"' (by decide))
  simp [separates, closesQuotes, present, dashless, quoteless]

/-! ## Where minuses meet -/

open Glyph (bare spell)

/-- What a glyph is to its neighbours. -/
inductive Edge where
  | minus
  | other
  deriving DecidableEq

def Glyph.edge : Glyph → Edge
  | .char c => if c = '-' then .minus else .other
  | .quoted _ => .other

/-- No two minuses are neighbours. -/
def Glyph.Apart (glyphs : List Glyph) : Prop :=
  glyphs.IsChain fun a b => ¬(a.edge = .minus ∧ b.edge = .minus)

/-- Both ends of a text that has no minus. -/
def Edge.ofText (text : String) : Option Edge := if text = "" then none else some .other

@[simp] theorem Edge.ofText_ne_minus (text : String) : Edge.ofText text ≠ some .minus := by
  unfold Edge.ofText
  split <;> simp

@[simp] theorem Edge.getD_ofText (text : String) : (Edge.ofText text).getD .other = .other := by
  unfold Edge.ofText
  split <;> rfl

def BinaryOp.rightAround (op : BinaryOp) : Int :=
  match op with
  | .isIn => 0
  | .sub | .div | .mod => op.rank + 1
  | _ => op.rank

mutual

/-- How the text of an expression begins where a precedence is in effect, unless it is empty, given
whether it is the operand of a suffix operator, directly or in sequences: there literal texts are
taken over as they stand. -/
def Expr.front (outer : Int) (taken : Bool) : Expr → Option Edge
  | .node mark node =>
    match (Expr.node mark node).passthrough taken with
    | some text => Edge.ofText text
    | none => if node.rank < outer then some .other else node.front
  | .seq items => Expr.frontOf outer taken items

def Expr.frontOf (outer : Int) (taken : Bool) : List Expr → Option Edge
  | [] => none
  | e :: rest => (e.front outer taken).or (if rest.isEmpty then none else some .other)

def Node.front : Node → Option Edge
  | .binary op left _ => (left.front op.rank false).or (some (if op = .sub then .minus else .other))
  | .compound op operands => operands.front op.rank false
  | .aliased e _ => (e.front 1000 false).or (some .other)
  | .prefixed op _ => some (if op = .neg then .minus else .other)
  | .suffixed _ e => (e.front 1000 true).or (some .other)
  | _ => some .other

end

mutual

/-- How the text of an expression ends. -/
def Expr.back (outer : Int) (taken : Bool) : Expr → Option Edge
  | .node mark node =>
    match (Expr.node mark node).passthrough taken with
    | some text => Edge.ofText text
    | none => if node.rank < outer then some .other else node.back
  | .seq items => Expr.backOf outer taken items

def Expr.backOf (outer : Int) (taken : Bool) : List Expr → Option Edge
  | [] => none
  | [e] => e.back outer taken
  | _ :: rest => (Expr.backOf outer taken rest).or (some .other)

def Node.back : Node → Option Edge
  | .binary op _ right =>
    if op = .isIn then some .other
    else (right.back op.rightAround false).or (some (if op = .sub then .minus else .other))
  | .compound op operands => operands.back op.rank false
  | .prefixed _ e => (e.back 1000 false).or (some .other)
  | _ => some .other

end

mutual

/-- Somewhere in an expression the sign of a difference stands before an operand that begins with a
minus, or behind one that ends with one. -/
def Expr.minusesMeet (taken : Bool) : Expr → Bool
  | .node mark node => ((Expr.node mark node).passthrough taken).isNone && node.minusesMeet
  | .seq items => Expr.minusesMeetIn taken items

/-- The same somewhere in some expressions. -/
def Expr.minusesMeetIn (taken : Bool) : List Expr → Bool
  | [] => false
  | e :: rest => e.minusesMeet taken || Expr.minusesMeetIn taken rest

def Node.minusesMeet : Node → Bool
  | .binary op left right =>
    left.minusesMeet false || right.minusesMeet false || op = .sub &&
      (left.back op.rank false = some .minus || right.front op.rightAround false = some .minus)
  | .aliased e _ | .compound _ e | .call _ e | .count e _ | .prefixed _ e => e.minusesMeet false
  | .suffixed _ e => e.minusesMeet true
  | _ => false

end

mutual

/-- The texts that an expression shows as they stand: those of raw nodes, the names of functions,
and the texts that suffix operators take over. -/
def Expr.ownTexts (taken : Bool) : Expr → List String
  | .node mark node =>
    match (Expr.node mark node).passthrough taken with
    | some text => [text]
    | none => node.ownTexts
  | .seq items => Expr.allOwnTexts taken items

/-- The texts that some expressions show as they stand. -/
def Expr.allOwnTexts (taken : Bool) : List Expr → List String
  | [] => []
  | e :: rest => e.ownTexts taken ++ Expr.allOwnTexts taken rest

/-- The texts that a node shows as they stand. -/
def Node.ownTexts : Node → List String
  | .binary _ left right => left.ownTexts false ++ right.ownTexts false
  | .call name args => name :: args.ownTexts false
  | .aliased e _ | .compound _ e | .count e _ | .prefixed _ e => e.ownTexts false
  | .suffixed _ e => e.ownTexts true
  | _ => []

end

/-- Glyphs begin and end in a way, and minuses meet in them or not. If texts are read, with their
quotes, the text of the glyphs opens a comment exactly where minuses meet, be it with what
follows. -/
structure Shows (read : Prop) (glyphs : List Glyph) (first last : Option Edge) (meet : Bool) :
    Prop where
  front : glyphs.head?.map Glyph.edge = first
  back : glyphs.getLast?.map Glyph.edge = last
  apart : Glyph.Apart glyphs ↔ meet = false
  opens : read → ∀ rest, opensComment false (glyphs.flatMap Glyph.letters ++ rest) =
    (meet || last = some .minus && rest.head? = some '-' || opensComment false rest)

theorem Glyph.head_letters (g : Glyph) (rest : List Char) :
    (g.letters ++ rest).head? = some '-' ↔ g.edge = .minus := by
  cases g with
  | char c => simp [letters, edge]
  | quoted name => simp [letters, edge, Builtin.quotedName]

namespace Shows

variable {read : Prop} {glyphs more : List Glyph} {front back front' back' : Option Edge}
    {meet meet' : Bool}

theorem nil : Shows read [] none none false := ⟨rfl, rfl, by simp [Glyph.Apart], fun _ _ => by simp⟩

theorem append (first : Shows read glyphs front back meet)
    (second : Shows read more front' back' meet') :
    Shows read (glyphs ++ more) (front.or front') (back'.or back)
      (meet || meet' || back = some .minus && front' = some .minus) where
  front := by rw [List.head?_append, Option.map_or, first.front, second.front]
  back := by rw [List.getLast?_append, Option.map_or, first.back, second.back]
  apart := by
    have between : (∀ a ∈ glyphs.getLast?, ∀ b ∈ more.head?, ¬(a.edge = .minus ∧ b.edge = .minus)) ↔
        (decide (back = some .minus) && decide (front' = some .minus)) = false := by
      rw [← first.back, ← second.front]
      cases glyphs.getLast? <;> cases more.head? <;> simp
    rw [Glyph.Apart, List.isChain_append, between, ← Glyph.Apart, ← Glyph.Apart, first.apart,
      second.apart]
    simp only [Bool.or_eq_false_iff, and_assoc]
  opens := by
    intro reads rest
    rw [List.flatMap_append, List.append_assoc, first.opens reads, second.opens reads]
    cases more with
    | nil =>
      -- A minus at the end of the first glyphs meets what follows.
      have none : front' = none ∧ back' = none ∧ meet' = false :=
        ⟨second.front.symm, second.back.symm, second.apart.mp List.isChain_nil⟩
      simp [none]
    | cons g gs =>
      -- It meets the second glyphs, and only their own end meets what follows.
      have begins : decide (((g :: gs).flatMap Glyph.letters ++ rest).head? = some '-') =
          decide (front' = some .minus) := by
        rw [decide_eq_decide, List.flatMap_cons, List.append_assoc, Glyph.head_letters,
          ← second.front]
        simp
      have ends : ∃ edge, back' = some edge := by
        rw [← second.back, List.getLast?_cons]
        exact ⟨_, rfl⟩
      obtain ⟨edge, rfl⟩ := ends
      rw [begins, Option.some_or]
      simp only [Bool.or_assoc, Bool.or_left_comm]

theorem of_other (present : glyphs ≠ []) (other : ∀ g ∈ glyphs, g.edge = .other)
    (inert : read → ∀ rest, opensComment false (glyphs.flatMap Glyph.letters ++ rest) =
      opensComment false rest) :
    Shows read glyphs (some .other) (some .other) false where
  front := by rw [List.head?_eq_some_head present, Option.map_some, other _ (List.head_mem present)]
  back := by
    rw [List.getLast?_eq_some_getLast present, Option.map_some, other _ (List.getLast_mem present)]
  apart := by
    have chain : Glyph.Apart glyphs :=
      (List.pairwise_of_forall_mem_list
        fun a isGlyph _ _ minuses => by simp [other a isGlyph] at minuses).isChain
    simp only [chain]
  opens := by
    intro reads rest
    simp [inert reads rest]

theorem of_bare {text : String} (dashless : '-' ∉ text.toList) (closes : read → closesQuotes text) :
    Shows read (bare text) (Edge.ofText text) (Edge.ofText text) false := by
  unfold Edge.ofText
  by_cases empty : text = ""
  · rw [if_pos empty, empty]
    exact .nil
  · rw [if_neg empty]
    refine .of_other (by simpa [bare] using empty) ?_ ?_
    · intro g isGlyph
      obtain ⟨c, isLetter, rfl⟩ := List.mem_map.mp isGlyph
      exact if_neg fun same : c = '-' => dashless (same ▸ isLetter)
    · intro reads rest
      have even : text.toList.count '"' % 2 = 0 := by simpa [closesQuotes] using closes reads
      rw [Glyph.letters_bare, opensComment_dashless dashless, even]
      rfl

theorem of_separates {text : String} (apart : separates text) :
    Shows read (bare text) (some .other) (some .other) false := by
  simp only [separates, Bool.and_eq_true, decide_eq_true_eq, Bool.not_eq_true',
    List.contains_eq_mem, decide_eq_false_iff_not] at apart
  obtain ⟨⟨present, dashless⟩, closes⟩ := apart
  simpa [Edge.ofText, present] using of_bare dashless fun _ : read => closes

theorem before (shows : Shows read glyphs front back meet) {text : String}
    (apart : separates text) :
    Shows read (glyphs ++ bare text) (front.or (some .other)) (some .other) meet := by
  simpa using shows.append (of_separates apart)

theorem behind (shows : Shows read glyphs front back meet) {text : String}
    (apart : separates text) :
    Shows read (bare text ++ glyphs) (some .other) (back.or (some .other)) meet := by
  simpa using (of_separates apart).append shows

theorem between (shows : Shows read glyphs front back meet) {first last : String}
    (opens : separates first) (closes : separates last) :
    Shows read (bare first ++ glyphs ++ bare last) (some .other) (some .other) meet := by
  simpa using (shows.behind opens).before closes

theorem enclose (shows : Shows read glyphs front back meet) (rank outer : Int) :
    Shows read (Glyph.enclose rank outer glyphs) (if rank < outer then some .other else front)
      (if rank < outer then some .other else back) meet := by
  unfold Glyph.enclose
  split
  · exact shows.between (by decide) (by decide)
  · exact shows

/-- The sign of an operator that is a minus. -/
theorem sign : Shows read (bare "-") (some .minus) (some .minus) false where
  front := rfl
  back := rfl
  apart := by simp [Glyph.Apart, bare]
  opens := by
    intro _ rest
    change opensComment false ('-' :: rest) = _
    simp [opensComment]

theorem ofName (name : String) :
    Shows read (Glyph.ofName name) (some .other) (some .other) false := by
  unfold Glyph.ofName
  split
  · rename_i plain
    rw [Bool.and_eq_true] at plain
    exact of_separates (separates_of_isPlainWord plain.1)
  · refine .of_other (by simp) (by simp [Glyph.edge]) fun _ rest => ?_
    rw [List.flatMap_singleton]
    exact opensComment_quotedName name rest

end Shows

theorem BinaryOp.shows_symbol {read : Prop} (op : BinaryOp) :
    Shows read (bare op.symbol) (some (if op = .sub then .minus else .other))
      (some (if op = .sub then .minus else .other)) false := by
  cases op
  case sub => exact .sign
  all_goals exact .of_separates (by decide)

theorem CompoundOp.separates_symbol (op : CompoundOp) :
    separates op.symbol := by cases op <;> decide

theorem PrefixOp.shows_symbol {read : Prop} (op : PrefixOp) :
    Shows read (bare op.symbol) (some (if op = .neg then .minus else .other))
      (some (if op = .neg then .minus else .other)) false := by
  cases op
  case neg => exact .sign
  all_goals exact .of_separates (by decide)

theorem SuffixOp.separates_symbol (op : SuffixOp) : separates op.symbol := by cases op <;> decide

/-- The operands of an operator, with its symbol between. -/
theorem Shows.binary {read : Prop} {op : BinaryOp} {left right : Expr} {context : Option Context}
    (first : Shows read (left.glyphs op.rank context {}) (left.front op.rank false)
      (left.back op.rank false) (left.minusesMeet false))
    (second : ∀ outer, Shows read (right.glyphs outer context {}) (right.front outer false)
      (right.back outer false) (right.minusesMeet false)) :
    Shows read ((Node.binary op left right).glyphs context) (Node.binary op left right).front
      (Node.binary op left right).back (Node.binary op left right).minusesMeet := by
  have both := first.append (op.shows_symbol.append (second op.rightAround))
  -- A comparison to null shows the left operand alone, and membership has parentheses of its own.
  -- All others have their symbol between the operands, and of the symbols only the sign of a
  -- difference is a minus.
  cases op
  case eq =>
    cases null : right.isNull with
    | true =>
      obtain ⟨mark, rfl⟩ := eq_null_of_isNull null
      have apart : separates " IS NULL" := by decide
      simpa [Node.glyphs, Expr.isNull, Node.front, Node.back, Expr.back, Node.minusesMeet,
        Expr.minusesMeet, Expr.passthrough] using first.before apart
    | false =>
      simpa [Node.glyphs, null, Node.front, Node.back, Node.minusesMeet, BinaryOp.rightAround]
        using both
  case ne =>
    cases null : right.isNull with
    | true =>
      obtain ⟨mark, rfl⟩ := eq_null_of_isNull null
      have apart : separates " IS NOT NULL" := by decide
      simpa [Node.glyphs, Expr.isNull, Node.front, Node.back, Expr.back, Node.minusesMeet,
        Expr.minusesMeet, Expr.passthrough] using first.before apart
    | false =>
      simpa [Node.glyphs, null, Node.front, Node.back, Node.minusesMeet, BinaryOp.rightAround]
        using both
  case isIn =>
    have opens : separates " IN (" := by decide
    have closes : separates ")" := by decide
    simpa [Node.glyphs, Node.front, Node.back, Node.minusesMeet, BinaryOp.rightAround] using
      first.append ((second 0).between opens closes)
  case sub =>
    simpa [Node.glyphs, Node.front, Node.back, Node.minusesMeet, BinaryOp.rightAround,
      Bool.or_assoc, Bool.or_comm, Bool.or_left_comm] using both
  all_goals simpa [Node.glyphs, Node.front, Node.back, Node.minusesMeet, BinaryOp.rightAround]
    using both

section

variable {read : Prop}

mutual

/-- How the glyphs of an expression begin and end, and whether minuses meet in them, is read off the
tree. -/
theorem Expr.shows (e : Expr) (known : e.isKnown) {options : Options}
    (joined : separates options.join)
    (dashless : ∀ text ∈ e.ownTexts options.raw, '-' ∉ text.toList ∧ (read → closesQuotes text))
    (outer : Int) (context : Option Context) :
    Shows read (e.glyphs outer context options) (e.front outer options.raw)
      (e.back outer options.raw) (e.minusesMeet options.raw) := by
  cases e with
  | seq items => exact Expr.showsAll items known joined dashless outer context
  | node mark node =>
    rw [Expr.glyphs, Expr.front, Expr.back, Expr.minusesMeet]
    rw [Expr.ownTexts] at dashless
    cases processed : (Expr.node mark node).passthrough options.raw with
    | some text =>
      rw [processed] at dashless
      obtain ⟨apart, closes⟩ := dashless text List.mem_cons_self
      exact .of_bare apart closes
    | none =>
      rw [processed] at dashless
      exact (node.shows known processed dashless context).enclose node.rank outer

theorem Expr.showsAll (items : List Expr) (known : Expr.allKnown items) {options : Options}
    (joined : separates options.join)
    (dashless : ∀ text ∈ Expr.allOwnTexts options.raw items, '-' ∉ text.toList ∧
      (read → closesQuotes text))
    (outer : Int) (context : Option Context) :
    Shows read ((bare options.join).intercalate (Expr.allGlyphs outer context options items))
      (Expr.frontOf outer options.raw items) (Expr.backOf outer options.raw items)
      (Expr.minusesMeetIn options.raw items) := by
  cases items with
  | nil => exact .nil
  | cons e rest =>
    rw [Expr.allKnown, Bool.and_eq_true] at known
    rw [Expr.allOwnTexts, List.forall_mem_append] at dashless
    have first := e.shows known.1 joined dashless.1 outer context
    cases rest with
    | nil => simpa [Expr.allGlyphs, Expr.frontOf, Expr.backOf, Expr.minusesMeetIn] using first
    | cons second others =>
      have later := Expr.showsAll (second :: others) known.2 joined dashless.2 outer context
      have both := (first.before joined).append later
      simpa [Expr.allGlyphs, Expr.frontOf, Expr.backOf, Expr.minusesMeetIn,
        List.intercalate_cons_cons] using both

theorem Node.shows (node : Node) (known : node.isKnown) {mark : Nat} {taken : Bool}
    (processed : (Expr.node mark node).passthrough taken = none)
    (dashless : ∀ text ∈ node.ownTexts, '-' ∉ text.toList ∧ (read → closesQuotes text))
    (context : Option Context) :
    Shows read (node.glyphs context) node.front node.back node.minusesMeet := by
  have joined : separates ({} : Options).join := by decide
  cases node
  case raw sql => cases processed
  case custom => cases known
  case value | «variable» =>
    have apart : separates "?" := by decide
    exact .of_separates apart
  case null =>
    have apart : separates "NULL" := by decide
    exact .of_separates apart
  case countAll =>
    have apart : separates "COUNT(*)" := by decide
    exact .of_separates apart
  case token name => exact .ofName name
  case table t => exact .ofName t.name
  case column c =>
    rw [Node.glyphs]
    cases c.table with
    | none => exact .ofName c.name
    | some t =>
      by_cases short : context = some .columnName
      · simp only [short, ↓reduceIte]
        exact .ofName c.name
      · simp only [short, ↓reduceIte]
        have dot : separates "." := by decide
        exact ((Shows.ofName t.name).before dot).append (.ofName c.name)
  case aliased e name =>
    have part := e.shows known joined dashless 1000 context
    have as : separates " AS " := by decide
    simpa [Node.glyphs, Node.front, Node.back, Node.minusesMeet]
      using (part.before as).append (.ofName name)
  case binary op left right =>
    rw [Node.isKnown, Bool.and_eq_true] at known
    rw [Node.ownTexts, List.forall_mem_append] at dashless
    exact .binary (left.shows known.1 joined dashless.1 op.rank context)
      fun outer => right.shows known.2 joined dashless.2 outer context
  case compound op operands =>
    have options : separates ({ join := op.symbol } : Options).join := op.separates_symbol
    exact operands.shows known options dashless op.rank context
  case call name args =>
    rw [Node.ownTexts, List.forall_mem_cons] at dashless
    have part := args.shows known joined dashless.2 0 (some .expr)
    have opens : separates "(" := by decide
    have closes : separates ")" := by decide
    simpa [Node.glyphs, Node.front, Node.back, Node.minusesMeet] using
      (Shows.of_bare dashless.1.1 dashless.1.2).append (part.between opens closes)
  case count e distinct =>
    have part := e.shows known joined dashless 1000 (some .expr)
    have opens : separates (if distinct then "COUNT(DISTINCT " else "COUNT(") := by
      cases distinct <;> decide
    have closes : separates ")" := by decide
    exact part.between opens closes
  case prefixed op e =>
    have part := e.shows known joined dashless 1000 context
    have blank : separates " " := by decide
    simpa [Node.glyphs, Node.front, Node.back, Node.minusesMeet]
      using op.shows_symbol.append (part.behind blank)
  case suffixed op e =>
    have raw : separates ({ raw := true } : Options).join := joined
    have part := e.shows known raw dashless 1000 context
    have blank : separates " " := by decide
    simpa [Node.glyphs, Node.front, Node.back, Node.minusesMeet]
      using (part.before blank).before op.separates_symbol

end

end

/-! ## What a default compiler renders -/

/-- Compiled from any state, an expression whose own texts have no minus becomes a text that has two
minuses in a row outside its quoted names exactly if somewhere in the tree the sign of a difference
meets a minus of an operand. Where its own texts close the quotes that they open, the text read
character by character opens a comment exactly then. -/
theorem comment_opens_where_minuses_meet {e : Expr} (known : e.isKnown)
    (dashless : ∀ text ∈ e.ownTexts false, '-' ∉ text.toList) (pass : Pass) :
    let glyphs := e.glyphs pass.precedence pass.context {}
    (((Hierarchy.standard id).effective 0).compile {} e pass).1 = .ok (spell glyphs) ∧
      (Glyph.Apart glyphs ↔ e.minusesMeet false = false) ∧
      ((∀ text ∈ e.ownTexts false, closesQuotes text) →
        opensComment false (spell glyphs).toList = e.minusesMeet false) := by
  have joined : separates ({} : Options).join := by decide
  have own : ∀ text ∈ e.ownTexts false,
      '-' ∉ text.toList ∧ ((∀ text ∈ e.ownTexts false, closesQuotes text) → closesQuotes text) :=
    fun text isOwn => ⟨dashless text isOwn, fun closed => closed text isOwn⟩
  have shows := e.shows known joined own pass.precedence pass.context
  refine ⟨?_, shows.apart, fun closed => ?_⟩
  · rw [standard_compile_eq_print known, e.spell_glyphs pass.precedence pass.context rfl]
  · have whole := shows.opens closed []
    rw [List.append_nil] at whole
    rw [spell, String.toList_ofList, whole]
    simp [opensComment]

/-- Negations of a difference of a name with minuses and a difference with a text that is taken over
as it stands. -/
def negatedDifference : Expr :=
  .node 0 (.prefixed .neg (.node 1 (.prefixed .neg (.node 2 (.binary .sub (.node 3 (.token "x--y"))
    (.node 4 (.binary .sub (.node 5 (.token "c")) (.node 6 (.raw "\"d\"")))))))))

theorem negatedDifference_opens_no_comment :
    negatedDifference.isKnown ∧ (∀ text ∈ negatedDifference.ownTexts false, '-' ∉ text.toList) ∧
    ∃ text, (((Hierarchy.standard id).effective 0).compile {} negatedDifference {}).1 = .ok text ∧
      opensComment false text.toList = false := by
  have known : negatedDifference.isKnown := rfl
  have own : negatedDifference.ownTexts false = ["\"d\""] := rfl
  have dashless : ∀ text ∈ negatedDifference.ownTexts false, '-' ∉ text.toList := by
    rw [own]
    decide
  have closed : ∀ text ∈ negatedDifference.ownTexts false, closesQuotes text := by
    rw [own]
    decide
  obtain ⟨compiled, -, lexed⟩ := comment_opens_where_minuses_meet known dashless {}
  exact ⟨known, dashless, _, compiled, lexed closed⟩

def lessNegation : Expr :=
  .node 0 (.binary .sub (.node 1 (.token "a")) (.node 2 (.prefixed .neg (.node 3 (.token "b")))))

/-- A difference whose right operand shows nothing, less a name. -/
def lessNothing : Expr :=
  .node 0 (.binary .sub (.node 1 (.binary .sub (.node 2 (.token "a")) (.seq [])))
    (.node 3 (.token "b")))

/-- Neither has a text of its own, and both open comments. -/
theorem lessNegation_opens_comment :
    lessNegation.ownTexts false = [] ∧ lessNothing.ownTexts false = [] ∧
    (((Hierarchy.standard id).effective 0).compile {} lessNegation {}).1 = .ok "a-- b" ∧
    (((Hierarchy.standard id).effective 0).compile {} lessNothing {}).1 = .ok "a--b" ∧
    opensComment false "a-- b".toList = true ∧ opensComment false "a--b".toList = true := by
  have known : lessNegation.isKnown ∧ lessNothing.isKnown := ⟨rfl, rfl⟩
  have negation : lessNegation.print 0 none {} = "a-- b" := rfl
  have nothing : lessNothing.print 0 none {} = "a--b" := rfl
  refine ⟨rfl, rfl, ?_, ?_, by decide, by decide⟩
  · rw [standard_compile_eq_print known.1, negation]
  · rw [standard_compile_eq_print known.2, nothing]

end RowMapper
