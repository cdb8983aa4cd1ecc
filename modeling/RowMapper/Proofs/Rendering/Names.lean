import RowMapper.Proofs.Rendering.Depth
import RowMapper.Proofs.Rendering.Dialect
/-!
Names can be read back. Every compiler of a dialect writes a name as one identifier, a bare word
that it does not reserve or a quoted name, and whoever reads the identifier has the name again. So
columns that differ in their names or in those of their tables never make the same text.
-/

set_option autoImplicit false

namespace RowMapper

/-! ## Reading names -/

/-- Reads the rest of a quoted name up to the quote that closes it, where two quotes stand for one;
yields also what is behind. -/
def readQuoted : List Char → Option (List Char × List Char)
  | [] => none
  | '"' :: '"' :: rest => (readQuoted rest).map fun (letters, behind) => ('"' :: letters, behind)
  | '"' :: rest => some ([], rest)
  | c :: rest => (readQuoted rest).map fun (letters, behind) => (c :: letters, behind)

/-- The character can stand in a bare word. -/
def isNameChar (c : Char) : Bool := c.isAlphanum || c = '_'

/-- Reads the identifier at the front of a text, as long as it goes on: a quoted name or a bare
word; yields also what is behind. -/
def readName : List Char → Option (String × List Char)
  | [] => none
  | c :: rest =>
    if c = '"' then (readQuoted rest).map fun (letters, behind) => (String.ofList letters, behind)
    else if c.isAlpha then some (String.ofList (c :: rest.takeWhile isNameChar),
      rest.dropWhile isNameChar)
    else none

/-- Quotes come in pairs. -/
def quotesDoubled : List Char → Bool
  | [] => true
  | '"' :: '"' :: rest => quotesDoubled rest
  | c :: rest => c ≠ '"' && quotesDoubled rest

/-- The text is one identifier and stands for the name: it is a bare word that is not reserved, or
it stands in double quotes with every quote inside doubled, and reading it gives the name and leaves
nothing. -/
structure Identifies (reserved : String → Bool) (text name : String) : Prop where
  shape : Builtin.isPlainWord text ∧ reserved text = false ∨
    ∃ inner, text.toList = '"' :: (inner ++ ['"']) ∧ quotesDoubled inner
  read : readName text.toList = some (name, [])

/-- The letters of a name with every quote doubled. -/
abbrev doubled (letters : List Char) : List Char :=
  letters.flatMap fun c => if c = '"' then ['"', '"'] else [c]

theorem quotesDoubled_doubled (letters : List Char) : quotesDoubled (doubled letters) := by
  induction letters with
  | nil => rfl
  | cons c rest ih =>
    by_cases quote : c = '"'
    · subst quote
      exact ih
    · rw [doubled, List.flatMap_cons, if_neg quote]
      simp [quotesDoubled, quote, ih]

theorem readQuoted_doubled (letters : List Char) {rest : List Char} (ends : rest.head? ≠ some '"') :
    readQuoted (doubled letters ++ '"' :: rest) = some (letters, rest) := by
  induction letters with
  | nil =>
    cases rest with
    | nil => rfl
    | cons c rest =>
      have other : c ≠ '"' := by simpa using ends
      simp [readQuoted, other]
  | cons c letters ih =>
    by_cases quote : c = '"'
    · subst quote
      change readQuoted ('"' :: '"' :: (doubled letters ++ '"' :: rest)) = _
      rw [readQuoted, ih]
      rfl
    · rw [doubled, List.flatMap_cons, if_neg quote, List.append_assoc, List.singleton_append]
      simp [readQuoted, quote, ih]

variable {H : Type}

/-- A name as it is written where the reserved words are those of some tables. -/
def Tables.writeName (t : Tables H) (name : String) : String :=
  if Builtin.isPlainWord name && !t.isReserved name then name else Builtin.quotedName name

/-- A character that ends every identifier in front of it. -/
def endsName (c : Char) : Bool := !isNameChar c && c ≠ '"'

theorem readName_plainWord {name : String} (plain : Builtin.isPlainWord name) {rest : List Char}
    (ends : rest.head?.all endsName) : readName (name.toList ++ rest) = some (name, rest) := by
  unfold Builtin.isPlainWord at plain
  cases letters : name.toList with
  | nil => simp [letters] at plain
  | cons c word =>
    simp only [letters, Bool.and_eq_true] at plain
    obtain ⟨letter, wordly⟩ := plain
    have unquoted : c ≠ '"' := by
      rintro rfl
      cases letter
    have stops : rest.takeWhile isNameChar = [] ∧ rest.dropWhile isNameChar = rest := by
      cases rest with
      | nil => exact ⟨rfl, rfl⟩
      | cons d rest =>
        have other : isNameChar d = false := by
          simp only [List.head?_cons, Option.all_some, endsName, Bool.and_eq_true,
            Bool.not_eq_true'] at ends
          exact ends.1
        simp [other]
    have inWord : ∀ d ∈ word, isNameChar d := List.all_eq_true.mp wordly
    have taken : (word ++ rest).takeWhile isNameChar = word := by
      rw [List.takeWhile_append_of_pos inWord, stops.1, List.append_nil]
    have left : (word ++ rest).dropWhile isNameChar = rest := by
      rw [List.dropWhile_append_of_pos inWord, stops.2]
    have same : String.ofList (c :: word) = name := by rw [← letters, String.ofList_toList]
    simp only [List.cons_append, readName, unquoted, letter, taken, left, same, ↓reduceIte]

theorem readName_quotedName (name : String) {rest : List Char} (ends : rest.head?.all endsName) :
    readName ((Builtin.quotedName name).toList ++ rest) = some (name, rest) := by
  have apart : rest.head? ≠ some '"' := by
    intro quote
    rw [quote] at ends
    cases ends
  have inner := readQuoted_doubled name.toList apart
  rw [Builtin.quotedName, String.toList_ofList]
  change readName ('"' :: (doubled name.toList ++ ['"'] ++ rest)) = _
  rw [List.append_assoc, List.singleton_append, readName, if_pos rfl, inner]
  simp only [Option.map_some, String.ofList_toList]

/-- Reading what is written for a name gives the name, and leaves what is behind. -/
theorem readName_writeName (t : Tables H) (name : String) {rest : List Char}
    (ends : rest.head?.all endsName) :
    readName ((t.writeName name).toList ++ rest) = some (name, rest) := by
  unfold Tables.writeName
  split
  · rename_i bare
    rw [Bool.and_eq_true] at bare
    exact readName_plainWord bare.1 ends
  · exact readName_quotedName name ends

theorem Tables.identifies_writeName (t : Tables H) (name : String) :
    Identifies t.isReserved (t.writeName name) name := by
  constructor
  · unfold writeName
    split
    · rename_i bare
      rw [Bool.and_eq_true, Bool.not_eq_true'] at bare
      exact Or.inl bare
    · refine Or.inr ⟨doubled name.toList, ?_, quotesDoubled_doubled _⟩
      rw [Builtin.quotedName, String.toList_ofList]
      rfl
  · have nothing : ([] : List Char).head?.all endsName := rfl
    have read := readName_writeName t name nothing
    rwa [List.append_nil] at read

/-! ## Columns -/

/-- A column as it is written in a context: with the name of its table in front, except where the
name of the column alone is asked for. -/
def Tables.writeColumn (t : Tables H) (context : Option Context) (c : Column) : String :=
  match c.table with
  | some table =>
    if context = some .columnName then t.writeName c.name
    else t.writeName table.name ++ "." ++ t.writeName c.name
  | none => t.writeName c.name

def readColumn (text : List Char) : Option (Option String × String) :=
  match readName text with
  | some (name, []) => some (none, name)
  | some (table, '.' :: rest) =>
    match readName rest with
    | some (name, []) => some (some table, name)
    | _ => none
  | _ => none

/-- Where columns are written in full, both names are read back. -/
theorem Tables.readColumn_writeColumn (t : Tables H) {context : Option Context}
    (full : context ≠ some .columnName) (c : Column) :
    readColumn (t.writeColumn context c).toList = some (c.table.map (·.name), c.name) := by
  have name := (t.identifies_writeName c.name).read
  unfold writeColumn
  cases c.table with
  | none => simp only [readColumn, name, Option.map_none]
  | some table =>
    have front := readName_writeName t table.name
      (show ('.' :: (t.writeName c.name).toList).head?.all endsName from rfl)
    have text : (t.writeName table.name ++ "." ++ t.writeName c.name).toList =
        (t.writeName table.name).toList ++ '.' :: (t.writeName c.name).toList := by
      rw [String.toList_append, String.toList_append, List.append_assoc]
      rfl
    simp only [full, ↓reduceIte, text, readColumn, front, name, Option.map_some]

/-! ## What the compilers of a dialect write -/

/-- Nodes other than literals and raw texts are compiled as what they are, whatever the options
are. -/
theorem Node.processed {node : Node} {b : Builtin} (handled : node.handler? = some b)
    (other : b ≠ .literal) (mark : Nat) (options : Options) :
    (Expr.node mark node).passthrough options.raw = none ∧
      Compiler.asToken options.token mark node = node := by
  cases node
  case value => exact absurd (Option.some.inj handled).symm other
  case raw | custom => cases handled
  all_goals
    constructor
    · cases options.raw <;> rfl
    · cases options.token <;> rfl

/-- What comes out of a compilation leaves the precedence as it was. -/
theorem Compiler.precedence_compile {σ : Type} {c : Compiler σ H}
    {run : H → Recur σ → Node → Act (Compiling σ) String} {depth : Nat}
    {options : Options} {e : Expr} {s after : Compiling σ} {text : String}
    (compiled : c.compile run depth options e s = (.ok text, after)) :
    after.pass.precedence = s.pass.precedence := by
  cases depth with
  | zero => cases compiled
  | succ depth =>
    rw [Compiler.compile.eq_def] at compiled
    simp only at compiled
    cases e with
    | node mark node =>
      rw [Compiler.compileExpr] at compiled
      cases processed : (Expr.node mark node).passthrough options.raw with
      | some taken =>
        simp only [processed] at compiled
        cases compiled
        rfl
      | none =>
        simp only [processed, Act.bind_apply, Compiling.read, Compiling.change] at compiled
        split at compiled
        · cases compiled
          rfl
        · cases compiled
    | seq items =>
      simp only [Compiler.compileExpr, Act.bind_apply, Compiling.read, Compiling.change] at compiled
      split at compiled
      · cases compiled
        rfl
      · cases compiled

namespace Tables.IsDialect

variable {t : Tables Builtin}

/-- What the handlers under these tables compile the parts of their nodes with, at a depth. -/
abbrev recur (t : Tables Builtin) (depth : Nat) : Recur Unit :=
  t.compiler.compile (Builtin.run t.compiler) depth

/-- A node that binds the tightest runs through its handler with the precedence of all such nodes,
and is put in parentheses only where something yet tighter is around it. -/
theorem compile_tight (answers : t.IsDialect id) {depth mark : Nat} {options : Options}
    {node shown : Node} {b : Builtin}
    (processed : (Expr.node mark node).passthrough options.raw = none ∧
      Compiler.asToken options.token mark node = shown)
    (handled : shown.handler? = some b) (tight : shown.rank = 1000) {pass after : Pass}
    {text : String} (ran : b.run t.compiler (recur t depth) shown ⟨(), pass.withPrecedence 1000⟩ =
      (.ok text, ⟨(), after⟩)) :
    recur t (depth + 1) options (.node mark node) ⟨(), pass⟩ =
      (.ok (enclosed 1000 pass.precedence text), ⟨(), after.withPrecedence pass.precedence⟩) := by
  have dispatched := t.compiler.compileNode_of_handler
    (fun handler => Builtin.run t.compiler handler (recur t depth)) pass.precedence shown ⟨(), pass⟩
    (IsDialect.handler? answers handled)
  have rank : t.precedence shown.tag = 1000 := (IsDialect.precedence answers handled).trans tight
  change _ = (do
    let text ← b.run t.compiler (recur t depth) shown
    return if t.precedence shown.tag < pass.precedence then "(" ++ text ++ ")" else text :
      Act (Compiling Unit) String) ⟨(), pass.withPrecedence (t.precedence shown.tag)⟩ at dispatched
  rw [rank] at dispatched
  rw [recur, Compiler.compile.eq_def]
  simp only [Compiler.compileExpr, processed, Act.bind_apply, Compiling.read, dispatched, ran,
    Compiling.change, Act.pure_apply, enclosed]

/-- A name is written where something is compiled as a name. -/
theorem compile_name (answers : t.IsDialect id) (depth : Nat) {mark : Nat} {options : Options}
    {node : Node} {name : String}
    (processed : (Expr.node mark node).passthrough options.raw = none ∧
      Compiler.asToken options.token mark node = .token name) (pass : Pass) :
    recur t (depth + 1) options (.node mark node) ⟨(), pass⟩ =
      (.ok (enclosed 1000 pass.precedence (t.writeName name)), ⟨(), pass⟩) := by
  have ran : Builtin.token.run t.compiler (recur t depth) (.token name) ⟨(),
      pass.withPrecedence 1000⟩ = (.ok (t.writeName name), ⟨(), pass.withPrecedence 1000⟩) := rfl
  exact (answers.compile_tight processed rfl rfl ran).trans rfl

theorem compileName_writes (answers : t.IsDialect id) (depth : Nat) (name : String) (pass : Pass)
    (loose : pass.precedence ≤ 1000) :
    Builtin.compileName (recur t (depth + 1)) name ⟨(), pass⟩ =
      (.ok (t.writeName name), ⟨(), pass⟩) := by
  rw [Builtin.compileName, answers.compile_name depth ⟨rfl, rfl⟩, enclosed, if_neg (by omega)]

theorem run_column (answers : t.IsDialect id) (depth : Nat) (c : Column) (pass : Pass)
    (loose : pass.precedence ≤ 1000) :
    Builtin.column.run t.compiler (recur t (depth + 1)) (.column c) ⟨(), pass⟩ =
      (.ok (t.writeColumn pass.context c), ⟨(), pass⟩) := by
  have last := answers.compileName_writes depth c.name pass loose
  simp only [Builtin.run, Act.bind_apply, Compiling.read, writeColumn]
  cases c.table with
  | none => exact last
  | some table =>
    by_cases short : pass.context = some .columnName
    · simp only [short, ↓reduceIte]
      exact last
    · have front : Builtin.within .columnPrefix
          (Builtin.compileName (recur t (depth + 1)) table.name)
          ⟨(), pass⟩ = (.ok (t.writeName table.name), ⟨(), pass.binding []⟩) := by
        apply within_of_ok
        rw [Pass.binding_nil]
        exact answers.compileName_writes depth table.name _ loose
      simp only [short, ↓reduceIte, Act.bind_apply, front, Pass.binding_nil, last, Act.pure_apply]

theorem compile_eq {options : Options} {e : Expr} {pass after : Pass} {text : String}
    (compiled : recur t (e.height + 1) options e ⟨(), pass⟩ = (.ok text, ⟨(), after⟩)) :
    t.compile options e pass = (.ok text, after) := by
  simp only [Tables.compile, compiled]

variable (answers : t.IsDialect id) (mark : Nat) (options : Options)

include answers

theorem compile_token (name : String) (pass : Pass) :
    t.compile options (.node mark (.token name)) pass =
      (.ok (enclosed 1000 pass.precedence (t.writeName name)), pass) :=
  compile_eq (answers.compile_name 1 (Node.processed rfl (by decide) mark options) pass)

theorem compile_table (table : Table) (pass : Pass) :
    t.compile options (.node mark (.table table)) pass =
      (.ok (enclosed 1000 pass.precedence (t.writeName table.name)), pass) := by
  have ran : Builtin.table.run t.compiler (recur t 2) (.table table) ⟨(),
      pass.withPrecedence 1000⟩ = (.ok (t.writeName table.name), ⟨(), pass.withPrecedence 1000⟩) :=
    answers.compileName_writes 1 table.name _ (Int.le_refl _)
  exact compile_eq
    ((answers.compile_tight (Node.processed rfl (by decide) mark options) rfl rfl ran).trans rfl)

theorem compile_column (c : Column) (pass : Pass) :
    t.compile options (.node mark (.column c)) pass =
      (.ok (enclosed 1000 pass.precedence (t.writeColumn pass.context c)), pass) := by
  have ran := answers.run_column 1 c (pass.withPrecedence 1000) (Int.le_refl _)
  exact compile_eq
    ((answers.compile_tight (Node.processed rfl (by decide) mark options) rfl rfl ran).trans rfl)

/-- An alias is written behind what its expression comes out as. -/
theorem compile_aliased {e : Expr} (name : String) {pass after : Pass} {text : String}
    (compiled : t.compile {} e (pass.withPrecedence 1000) = (.ok text, after)) :
    t.compile options (.node mark (.aliased e name)) pass =
      (.ok (enclosed 1000 pass.precedence (text ++ " AS " ++ t.writeName name)),
        after.withPrecedence pass.precedence) := by
  let depth := max e.height 1
  -- What is less high than the name of the alias is compiled more deeply here than alone.
  have part : recur t (depth + 1) {} e ⟨(), pass.withPrecedence 1000⟩ =
      (.ok text, ⟨(), after⟩) := by
    rw [recur, Compiler.compile_depth (depth + 1) (e.height + 1) {} e (by omega) (by omega)]
    obtain ⟨outcome, left⟩ := Prod.mk.inj compiled
    exact Prod.ext outcome (congrArg (Compiling.mk ()) left)
  have kept : after.precedence = 1000 := Compiler.precedence_compile part
  have named := answers.compileName_writes depth name after (Int.le_of_eq kept)
  have ran : Builtin.aliased.run t.compiler (recur t (depth + 1)) (.aliased e name)
      ⟨(), pass.withPrecedence 1000⟩ = (.ok (text ++ " AS " ++ t.writeName name), ⟨(), after⟩) := by
    simp only [Builtin.run, Act.bind_apply, part, named, Act.pure_apply]
  exact compile_eq (answers.compile_tight (Node.processed rfl (by decide) mark options) rfl rfl ran)

end Tables.IsDialect

def readOperand : List Char → Option (Option String × String)
  | '(' :: rest => readColumn rest.dropLast
  | text => readColumn text

/-- Where columns are written in full, both names are read back, whatever binds around the
column. -/
theorem Tables.readOperand_enclosed (t : Tables H) {context : Option Context}
    (full : context ≠ some .columnName) (c : Column) (outer : Int) :
    readOperand (enclosed 1000 outer (t.writeColumn context c)).toList =
      some (c.table.map (·.name), c.name) := by
  have read := t.readColumn_writeColumn full c
  unfold enclosed
  split
  · have text : ("(" ++ t.writeColumn context c ++ ")").toList =
        '(' :: ((t.writeColumn context c).toList ++ [')']) := by
      rw [String.toList_append, String.toList_append]
      rfl
    rw [text, readOperand, List.dropLast_concat, read]
  · unfold readOperand
    split
    · rename_i rest open_
      rw [open_] at read
      cases read
    · exact read

/-- Every compiler of a dialect writes each name as one identifier, from which the name can be read
back. Names, tables, the two parts of a column and the names of aliases are written so where nothing
tighter than they are is around them. So columns that are written in full and differ in their names
or in those of their tables have different texts. -/
theorem names_are_read_back {u : Usage Builtin} (dialect : u.Dialect) {slot : Nat}
    (held : slot ∈ u.held) :
    let t := u.hierarchy.effective slot
    (∀ name, Identifies t.isReserved (t.writeName name) name) ∧
    (∀ (options : Options) (mark : Nat) (pass : Pass), pass.precedence ≤ 1000 →
      (∀ name, t.compile options (.node mark (.token name)) pass = (.ok (t.writeName name), pass)) ∧
      (∀ table : Table,
        t.compile options (.node mark (.table table)) pass = (.ok (t.writeName table.name), pass)) ∧
      (∀ c, t.compile options (.node mark (.column c)) pass =
        (.ok (t.writeColumn pass.context c), pass)) ∧
      ∀ (e : Expr) (name text : String) (after : Pass),
        t.compile {} e (pass.withPrecedence 1000) = (.ok text, after) →
          t.compile options (.node mark (.aliased e name)) pass =
            (.ok (text ++ " AS " ++ t.writeName name), after.withPrecedence pass.precedence)) ∧
    ∀ (options options' : Options) (mark mark' : Nat) (pass pass' : Pass) (c c' : Column),
      pass.context ≠ some .columnName → pass'.context ≠ some .columnName →
      (c.table.map (·.name), c.name) ≠ (c'.table.map (·.name), c'.name) →
      ∃ text text', t.compile options (.node mark (.column c)) pass = (.ok text, pass) ∧
        t.compile options' (.node mark' (.column c')) pass' = (.ok text', pass') ∧
        text ≠ text' := by
  intro t
  have answers : t.IsDialect id := dialect.isDialect held
  refine ⟨t.identifies_writeName, ?_, ?_⟩
  · intro options mark pass loose
    have bare : ∀ text, enclosed 1000 pass.precedence text = text := fun text => if_neg (by omega)
    refine ⟨fun name => ?_, fun table => ?_, fun c => ?_, fun e name text after part => ?_⟩
    · rw [Tables.IsDialect.compile_token answers, bare]
    · rw [Tables.IsDialect.compile_table answers, bare]
    · rw [Tables.IsDialect.compile_column answers, bare]
    · rw [Tables.IsDialect.compile_aliased answers mark options name part, bare]
  · intro options options' mark mark' pass pass' c c' full full' differ
    refine ⟨_, _, Tables.IsDialect.compile_column answers mark options c pass,
      Tables.IsDialect.compile_column answers mark' options' c' pass', ?_⟩
    intro same
    have read := t.readOperand_enclosed full c pass.precedence
    rw [same, t.readOperand_enclosed full' c' pass'.precedence] at read
    exact differ (Option.some.inj read).symm

/-- A child of a default compiler that takes a word out of the reserved words and reserves
another. -/
def looseChild : Usage Builtin :=
  ((Usage.standard.call 0 .createChild).call 1 (.edit (.markWords false ["Select"]))).call 1
    (.edit (.markWords true ["total"]))

/-- On the child, the one word is bare and the other is quoted, also as an alias, and a column of a
table is not taken for one with a dot in its name. -/
theorem looseChild_names_read_back :
    looseChild.Dialect ∧ 1 ∈ looseChild.held ∧
    let t := looseChild.hierarchy.effective 1
    Identifies t.isReserved "select" "select" ∧ Identifies t.isReserved "\"total\"" "total" ∧
    t.compile {} (.node 0 (.aliased (.node 1 (.token "select")) "total")) {} =
      (.ok "select AS \"total\"", {}) ∧
    ∃ text text', t.compile {} (.node 0 (.column ⟨0, "b", some ⟨"a"⟩, 0, {}⟩)) {} = (.ok text, {}) ∧
      t.compile {} (.node 0 (.column ⟨1, "a.b", none, 0, {}⟩)) {} = (.ok text', {}) ∧
      text ≠ text' := by
  have held : 1 ∈ (Usage.standard.call 0 .createChild).held := by decide +kernel
  have dialect : looseChild.Dialect :=
    .markWords true ["total"]
      (.markWords false ["Select"] (.createChild .standard (by decide)) held) held
  obtain ⟨identifies, written, differ⟩ := names_are_read_back dialect held
  have free : (looseChild.hierarchy.effective 1).isReserved "select" = false :=
    (dialect.reachable.isReserved_effective held "select").trans (by decide +kernel)
  have taken : (looseChild.hierarchy.effective 1).isReserved "total" = true :=
    (dialect.reachable.isReserved_effective held "total").trans (by decide +kernel)
  have bare : (looseChild.hierarchy.effective 1).writeName "select" = "select" := by
    rw [Tables.writeName, free]
    decide
  have quoted : (looseChild.hierarchy.effective 1).writeName "total" = "\"total\"" := by
    rw [Tables.writeName, taken, Bool.not_true, Bool.and_false]
    decide
  have select := identifies "select"
  have total := identifies "total"
  rw [bare] at select
  rw [quoted] at total
  refine ⟨dialect, held, select, total, ?_,
    differ {} {} 0 0 {} {} _ _ (by decide) (by decide) (by decide)⟩
  have part := (written {} 1 (Pass.withPrecedence {} 1000) (Int.le_refl _)).1 "select"
  have named := (written {} 0 {} (by decide)).2.2.2 _ "total" _ _ part
  rw [bare, quoted] at named
  exact named

end RowMapper
