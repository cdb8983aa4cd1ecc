import RowMapper.Proofs.Rendering.Compile
/-!
Placeholders and parameters agree. The question marks of a text that stand outside double quotes are
its placeholders; those of a printed expression stand one for one, and in order, where its literals
and variables do, and these are the parameters. Names may hold question marks, which their quotes
hide.
-/

set_option autoImplicit false

namespace RowMapper

/-! ## Placeholders in texts -/

/-- The number of question marks outside double quotes in the rest of a text, given whether a quote
is open. -/
def placeholdersFrom (quoted : Bool) : List Char → Nat
  | [] => 0
  | c :: rest =>
    if c = '"' then placeholdersFrom (!quoted) rest
    else if c = '?' ∧ quoted = false then placeholdersFrom quoted rest + 1
    else placeholdersFrom quoted rest

def placeholders (text : String) : Nat := placeholdersFrom false text.toList

/-- The rest of a text with other texts in the place of its placeholders, given whether a quote is
open; the next placeholder gets the text of the given number. -/
def fillFrom (texts : Nat → String) (number : Nat) (quoted : Bool) : List Char → List Char
  | [] => []
  | c :: rest =>
    if c = '"' then c :: fillFrom texts number (!quoted) rest
    else if c = '?' ∧ quoted = false then
      (texts number).toList ++ fillFrom texts (number + 1) quoted rest
    else c :: fillFrom texts number quoted rest

/-- A text with other texts in the place of its placeholders, one after the other. -/
def fillPlaceholders (texts : Nat → String) (text : String) : String :=
  String.ofList (fillFrom texts 0 false text.toList)

/-- The text has neither question marks nor double quotes. -/
def isInert (text : String) : Bool := text.toList.all fun c => c ≠ '?' && c ≠ '"'

/-- A text has so many placeholders and leaves no quote open, whatever follows it; filled from any
number on, it becomes the text given for that number. -/
structure Fills (texts : Nat → String) (text : String) (count : Nat) (filled : Nat → String) :
    Prop where
  counted : ∀ rest, placeholdersFrom false (text.toList ++ rest) =
    count + placeholdersFrom false rest
  replaced : ∀ number rest, fillFrom texts number false (text.toList ++ rest) =
    (filled number).toList ++ fillFrom texts (number + count) false rest

namespace Fills

variable {texts : Nat → String} {text other : String} {count more : Nat}
    {filled further : Nat → String}

theorem placeholders_eq (fills : Fills texts text count filled) : placeholders text = count := by
  have whole := fills.counted []
  rwa [List.append_nil] at whole

theorem fillPlaceholders_eq (fills : Fills texts text count filled) :
    fillPlaceholders texts text = filled 0 := by
  have whole := fills.replaced 0 []
  rw [List.append_nil, fillFrom, List.append_nil] at whole
  rw [fillPlaceholders, whole, String.ofList_toList]

theorem append (front : Fills texts text count filled) (back : Fills texts other more further) :
    Fills texts (text ++ other) (count + more) fun number =>
      filled number ++ further (number + count) := by
  constructor
  · intro rest
    rw [String.toList_append, List.append_assoc, front.counted, back.counted, Nat.add_assoc]
  · intro number rest
    rw [String.toList_append, String.toList_append, List.append_assoc, front.replaced,
      back.replaced, List.append_assoc, Nat.add_assoc]

/-- The placeholder itself. -/
theorem hole : Fills texts "?" 1 texts := by
  constructor
  · intro rest
    change placeholdersFrom false ('?' :: rest) = _
    rw [placeholdersFrom, if_neg (by decide), if_pos ⟨rfl, rfl⟩, Nat.add_comm]
  · intro number rest
    change fillFrom texts number false ('?' :: rest) = _
    rw [fillFrom, if_neg (by decide), if_pos ⟨rfl, rfl⟩]

theorem of_isInert (inert : isInert text) : Fills texts text 0 fun _ => text := by
  rw [isInert] at inert
  generalize letters : text.toList = cs at inert
  constructor
  · intro rest
    rw [letters, Nat.zero_add]
    clear letters
    induction cs with
    | nil => rfl
    | cons c cs ih =>
      rw [List.all_cons, Bool.and_eq_true] at inert
      obtain ⟨first, others⟩ := inert
      have apart : c ≠ '?' ∧ c ≠ '"' := by simpa using first
      rw [List.cons_append, placeholdersFrom, if_neg apart.2, if_neg (by simp [apart.1]), ih others]
  · intro number rest
    rw [letters, Nat.add_zero]
    clear letters
    induction cs with
    | nil => rfl
    | cons c cs ih =>
      rw [List.all_cons, Bool.and_eq_true] at inert
      obtain ⟨first, others⟩ := inert
      have apart : c ≠ '?' ∧ c ≠ '"' := by simpa using first
      rw [List.cons_append, fillFrom, if_neg apart.2, if_neg (by simp [apart.1]), ih others,
        List.cons_append]

theorem behind (fills : Fills texts text count filled) {front : String} (inert : isInert front) :
    Fills texts (front ++ text) count fun number => front ++ filled number := by
  have constant : Fills texts front 0 fun _ => front := of_isInert inert
  have whole := constant.append fills
  rw [Nat.zero_add] at whole
  exact whole

theorem before (fills : Fills texts text count filled) {back : String} (inert : isInert back) :
    Fills texts (text ++ back) count fun number => filled number ++ back :=
  fills.append (of_isInert inert)

theorem between (fills : Fills texts text count filled) {front back : String}
    (first : isInert front) (last : isInert back) :
    Fills texts (front ++ text ++ back) count fun number => front ++ filled number ++ back :=
  (fills.behind first).before last

theorem enclosed (fills : Fills texts text count filled) (rank outer : Int) :
    Fills texts (enclosed rank outer text) count fun number =>
      RowMapper.enclosed rank outer (filled number) := by
  unfold RowMapper.enclosed
  split
  · exact fills.between (by decide) (by decide)
  · exact fills

end Fills

/-- Inside a quote a doubled quote closes it and opens it again, and question marks are no
placeholders. -/
theorem placeholdersFrom_doubled (letters rest : List Char) :
    placeholdersFrom true (letters.flatMap (fun c => if c = '"' then ['"', '"'] else [c]) ++ rest) =
      placeholdersFrom true rest := by
  induction letters with
  | nil => rfl
  | cons c letters ih =>
    rw [List.flatMap_cons, List.append_assoc]
    by_cases quote : c = '"'
    · rw [if_pos quote, List.cons_append, List.cons_append, List.nil_append,
        placeholdersFrom, if_pos rfl, placeholdersFrom, if_pos rfl]
      exact ih
    · rw [if_neg quote, List.cons_append, List.nil_append, placeholdersFrom, if_neg quote,
        if_neg (by simp), ih]

theorem fillFrom_doubled (texts : Nat → String) (number : Nat) (letters rest : List Char) :
    fillFrom texts number true
      (letters.flatMap (fun c => if c = '"' then ['"', '"'] else [c]) ++ rest) = letters.flatMap
      (fun c => if c = '"' then ['"', '"'] else [c]) ++ fillFrom texts number true rest := by
  induction letters with
  | nil => rfl
  | cons c letters ih =>
    rw [List.flatMap_cons, List.append_assoc, List.append_assoc, ← ih]
    by_cases quote : c = '"'
    · rw [if_pos quote, List.cons_append, List.cons_append, List.nil_append, fillFrom,
        if_pos rfl, fillFrom, if_pos rfl]
      rfl
    · rw [if_neg quote, List.cons_append, List.nil_append, fillFrom, if_neg quote, if_neg (by simp)]
      rfl

theorem Fills.quotedName (texts : Nat → String) (name : String) :
    Fills texts (Builtin.quotedName name) 0 fun _ => Builtin.quotedName name := by
  constructor
  · intro rest
    rw [Builtin.quotedName, String.toList_ofList, List.cons_append, List.cons_append,
      placeholdersFrom, if_pos rfl, Bool.not_false, List.append_assoc, placeholdersFrom_doubled,
      List.singleton_append, placeholdersFrom, if_pos rfl, Bool.not_true, Nat.zero_add]
  · intro number rest
    rw [Builtin.quotedName, String.toList_ofList, List.cons_append, List.cons_append,
      fillFrom, if_pos rfl, Bool.not_false, List.append_assoc, fillFrom_doubled,
      List.singleton_append, fillFrom, if_pos rfl, Bool.not_true, Nat.add_zero, List.cons_append,
      List.append_assoc, List.singleton_append]

theorem isInert_of_isPlainWord {word : String} (plain : Builtin.isPlainWord word) :
    isInert word := by
  rw [Builtin.isPlainWord] at plain
  rw [isInert]
  cases letters : word.toList with
  | nil => rfl
  | cons c rest =>
    rw [letters] at plain
    simp only [Bool.and_eq_true, List.all_eq_true, Bool.or_eq_true, decide_eq_true_eq] at plain
    obtain ⟨letter, others⟩ := plain
    have first : c ≠ '?' ∧ c ≠ '"' := by
      constructor <;> rintro rfl <;> exact absurd letter (by decide)
    have later : ∀ d ∈ rest, d ≠ '?' ∧ d ≠ '"' := by
      intro d member
      constructor <;> rintro rfl <;> exact absurd (others _ member) (by decide)
    simpa [first] using later

theorem Fills.printName (texts : Nat → String) (name : String) :
    Fills texts (printName name) 0 fun _ => RowMapper.printName name := by
  unfold RowMapper.printName
  split
  · rename_i bare
    rw [Bool.and_eq_true] at bare
    exact .of_isInert (isInert_of_isPlainWord bare.1)
  · exact .quotedName texts name

/-! ## Literals and variables of expressions -/

/-- What a placeholder stands for. -/
inductive Leaf where
  | literal (v : Value)
  | cell (id : CellId)

/-- What is bound for a leaf: the cell itself, or for a literal a new cell of its kind that holds
it. -/
def Leaf.parameter : Leaf → Parameter
  | .literal v => .value (.ofValue v) v
  | .cell id => .cell id

mutual

/-- The literals and variables of an expression from left to right, given whether it is the operand
of a suffix operator, directly or in sequences: there literal texts are taken over as they stand. -/
def Expr.leaves (taken : Bool) : Expr → List Leaf
  | .node _ node => node.leaves taken
  | .seq items => Expr.allLeaves taken items

def Expr.allLeaves (taken : Bool) : List Expr → List Leaf
  | [] => []
  | e :: rest => e.leaves taken ++ Expr.allLeaves taken rest

/-- The literals and variables of a node. -/
def Node.leaves (taken : Bool) : Node → List Leaf
  | .value v => if taken && v.asText.isSome then [] else [.literal v]
  | .variable id => [.cell id]
  | .binary _ left right => left.leaves false ++ right.leaves false
  | .aliased e _ | .compound _ e | .call _ e | .count e _ | .prefixed _ e => e.leaves false
  | .suffixed _ e => e.leaves true
  | _ => []

end

mutual

/-- The texts that an expression shows as they stand, those of raw nodes, the names of functions and
the texts that suffix operators take over, are inert. -/
def Expr.isInert (taken : Bool) : Expr → Bool
  | .node _ node => node.isInert taken
  | .seq items => Expr.allInert taken items

/-- The texts that some expressions show as they stand are inert. -/
def Expr.allInert (taken : Bool) : List Expr → Bool
  | [] => true
  | e :: rest => e.isInert taken && Expr.allInert taken rest

def Node.isInert (taken : Bool) : Node → Bool
  | .value v => !taken || v.asText.all RowMapper.isInert
  | .raw sql => RowMapper.isInert sql
  | .call name args => RowMapper.isInert name && args.isInert false
  | .binary _ left right => left.isInert false && right.isInert false
  | .aliased e _ | .compound _ e | .count e _ | .prefixed _ e => e.isInert false
  | .suffixed _ e => e.isInert true
  | _ => true

end

mutual

/-- An expression with names in the place of its literals and variables, from left to right, the
first of them under the given number. -/
def Expr.withNames (names : Nat → String) (taken : Bool) (number : Nat) : Expr → Expr
  | .node mark node => .node mark (node.withNames names taken number)
  | .seq items => .seq (Expr.allWithNames names taken number items)

def Expr.allWithNames (names : Nat → String) (taken : Bool) (number : Nat) : List Expr → List Expr
  | [] => []
  | e :: rest => e.withNames names taken number ::
    Expr.allWithNames names taken (number + (e.leaves taken).length) rest

/-- A node with names in the place of its literals and variables. -/
def Node.withNames (names : Nat → String) (taken : Bool) (number : Nat) : Node → Node
  | .value v => if taken && v.asText.isSome then .value v else .token (names number)
  | .variable _ => .token (names number)
  | .aliased e name => .aliased (e.withNames names false number) name
  | .binary op left right => .binary op (left.withNames names false number)
    (right.withNames names false (number + (left.leaves false).length))
  | .compound op operands => .compound op (operands.withNames names false number)
  | .call name args => .call name (args.withNames names false number)
  | .count e distinct => .count (e.withNames names false number) distinct
  | .prefixed op e => .prefixed op (e.withNames names false number)
  | .suffixed op e => .suffixed op (e.withNames names true number)
  | node => node

end

/-! ## Leaves are what is bound -/

/-- A node whose text is taken over as it stands has no leaves. -/
theorem Node.leaves_of_passthrough {mark : Nat} {node : Node} {taken : Bool} {text : String}
    (passed : (Expr.node mark node).passthrough taken = some text) : node.leaves taken = [] := by
  cases node
  case value v =>
    cases taken with
    | false => cases passed
    | true =>
      have shown : v.asText = some text := passed
      simp [leaves, shown]
  all_goals first | rfl | cases taken <;> cases passed

mutual

theorem Expr.bound_eq_leaves (e : Expr) {options : Options} (unnamed : options.token = false) :
    e.bound options = (e.leaves options.raw).map Leaf.parameter := by
  cases e with
  | seq items => exact Expr.boundAll_eq_leaves items unnamed
  | node mark node =>
    rw [Expr.bound, Expr.leaves, unnamed]
    cases processed : (Expr.node mark node).passthrough options.raw with
    | some text => rw [node.leaves_of_passthrough processed]; rfl
    | none => exact node.bound_eq_leaves processed

theorem Expr.boundAll_eq_leaves (items : List Expr) {options : Options}
    (unnamed : options.token = false) :
    Expr.boundAll options items = (Expr.allLeaves options.raw items).map Leaf.parameter := by
  cases items with
  | nil => rfl
  | cons e rest =>
    rw [Expr.boundAll, Expr.allLeaves, e.bound_eq_leaves unnamed,
      Expr.boundAll_eq_leaves rest unnamed, List.map_append]

theorem Node.bound_eq_leaves (node : Node) {mark : Nat} {taken : Bool}
    (processed : (Expr.node mark node).passthrough taken = none) :
    node.bound = (node.leaves taken).map Leaf.parameter := by
  cases node
  case value v =>
    cases taken with
    | false => rfl
    | true =>
      have textless : v.asText = none := processed
      simp [Node.bound, Node.leaves, textless, Leaf.parameter]
  case binary op left right =>
    rw [Node.bound, Node.leaves, left.bound_eq_leaves rfl, right.bound_eq_leaves rfl,
      List.map_append]
  case aliased e _ | compound _ e | call _ e | count e _ | prefixed _ e | suffixed _ e =>
    rw [Node.bound, Node.leaves, e.bound_eq_leaves rfl]
  all_goals rfl

end

/-! ## Placeholders stand where leaves do -/

theorem isInert_append {front back : String} (first : isInert front) (last : isInert back) :
    isInert (front ++ back) := by
  rw [isInert, String.toList_append, List.all_append, Bool.and_eq_true]
  exact ⟨first, last⟩

theorem BinaryOp.isInert_symbol (op : BinaryOp) : isInert op.symbol := by cases op <;> decide

theorem CompoundOp.isInert_symbol (op : CompoundOp) : isInert op.symbol := by cases op <;> decide

theorem PrefixOp.isInert_symbol (op : PrefixOp) : isInert op.symbol := by cases op <;> decide

theorem SuffixOp.isInert_symbol (op : SuffixOp) : isInert op.symbol := by cases op <;> decide

section

variable (names : Nat → String) (taken : Bool) (number : Nat)

theorem Expr.isNull_withNames (e : Expr) : (e.withNames names taken number).isNull = e.isNull := by
  cases e with
  | seq items => rfl
  | node mark node =>
    cases node
    case value v =>
      simp only [Expr.withNames, Node.withNames]
      split <;> rfl
    all_goals rfl

theorem Node.rank_withNames (node : Node) :
    (node.withNames names taken number).rank = node.rank := by
  cases node
  case value v =>
    simp only [Node.withNames]
    split <;> rfl
  all_goals rfl

theorem Node.passthrough_withNames (mark : Nat) (node : Node) :
    (Expr.node mark (node.withNames names taken number)).passthrough taken =
      (Expr.node mark node).passthrough taken := by
  cases node
  case value v =>
    cases taken with
    | false => rfl
    | true =>
      cases shown : v.asText with
      | none => simp [Node.withNames, shown, Expr.passthrough, Expr.plainText]
      | some text => simp [Node.withNames, shown]
  all_goals rfl

theorem Node.isInert_of_passthrough {mark : Nat} {node : Node} {text : String}
    (passed : (Expr.node mark node).passthrough taken = some text) (inert : node.isInert taken) :
    RowMapper.isInert text := by
  cases node
  case value v =>
    cases taken with
    | false => cases passed
    | true =>
      have shown : v.asText = some text := passed
      simpa [Node.isInert, shown] using inert
  case raw sql =>
    cases passed
    exact inert
  all_goals cases taken <;> cases passed

end

section

variable (names : Nat → String)

mutual

/-- The placeholders of a printed expression stand where its leaves do: filled with names, it is the
expression with the names in their place, printed. -/
theorem Expr.fills (e : Expr) (options : Options) (unnamed : options.token = false)
    (joined : RowMapper.isInert options.join) (inert : e.isInert options.raw) (outer : Int)
    (context : Option Context) :
    Fills (fun number => printName (names number)) (e.print outer context options)
      (e.leaves options.raw).length
      fun number => (e.withNames names options.raw number).print outer context options := by
  cases e with
  | seq items => exact Expr.fillsAll items options unnamed joined inert outer context
  | node mark node =>
    simp only [Expr.withNames, Expr.print, Expr.leaves, Node.passthrough_withNames,
      Node.rank_withNames, unnamed, Expr.name?]
    cases processed : (Expr.node mark node).passthrough options.raw with
    | some text =>
      rw [node.leaves_of_passthrough processed]
      exact .of_isInert (Node.isInert_of_passthrough _ processed inert)
    | none => exact (node.fills processed inert context).enclosed node.rank outer

theorem Expr.fillsAll (items : List Expr) (options : Options) (unnamed : options.token = false)
    (joined : RowMapper.isInert options.join) (inert : Expr.allInert options.raw items)
    (outer : Int) (context : Option Context) :
    Fills (fun number => printName (names number))
      (String.intercalate options.join (Expr.printAll outer context options items))
      (Expr.allLeaves options.raw items).length
      fun number => String.intercalate options.join
        (Expr.printAll outer context options
          (Expr.allWithNames names options.raw number items)) := by
  cases items with
  | nil => exact .of_isInert rfl
  | cons e rest =>
    rw [Expr.allInert, Bool.and_eq_true] at inert
    have first := e.fills options unnamed joined inert.1 outer context
    cases rest with
    | nil =>
      simp only [Expr.printAll, Expr.allWithNames, Expr.allLeaves, String.intercalate_singleton,
        List.append_nil]
      exact first
    | cons second others =>
      have later := Expr.fillsAll (second :: others) options unnamed joined inert.2 outer context
      simp only [Expr.printAll, Expr.allWithNames, Expr.allLeaves, String.intercalate_cons_cons,
        List.length_append] at later ⊢
      exact (first.before joined).append later

theorem Node.fills (node : Node) {mark : Nat} {taken : Bool}
    (processed : (Expr.node mark node).passthrough taken = none) (inert : node.isInert taken)
    (context : Option Context) :
    Fills (fun number => printName (names number)) (node.print context) (node.leaves taken).length
      fun number => (node.withNames names taken number).print context := by
  cases node
  case value v =>
    have leaf : (taken && v.asText.isSome) = false := by
      cases taken with
      | false => rfl
      | true =>
        have textless : v.asText = none := processed
        rw [textless]
        rfl
    simp only [Node.withNames, Node.leaves, leaf]
    exact .hole
  case «variable» id => exact .hole
  case null =>
    change Fills _ "NULL" 0 fun _ => "NULL"
    exact .of_isInert (by decide)
  case countAll =>
    change Fills _ "COUNT(*)" 0 fun _ => "COUNT(*)"
    exact .of_isInert (by decide)
  case raw sql => cases processed
  case custom => exact .of_isInert rfl
  case token name => exact .printName _ name
  case table t => exact .printName _ t.name
  case column c =>
    simp only [Node.withNames, Node.leaves, Node.print, List.length_nil]
    cases c.table with
    | none => exact .printName _ c.name
    | some t =>
      by_cases short : context = some .columnName
      · simp only [short, ↓reduceIte]
        exact .printName _ c.name
      · simp only [short, ↓reduceIte]
        exact ((Fills.printName _ t.name).before (by decide)).append (.printName _ c.name)
  case aliased e name =>
    have part := e.fills {} rfl (by decide) inert 1000 context
    exact (part.before (by decide)).append (.printName _ name)
  case binary op left right =>
    rw [Node.isInert, Bool.and_eq_true] at inert
    have first := fun outer => left.fills {} rfl (by decide) inert.1 outer context
    have second := fun outer => right.fills {} rfl (by decide) inert.2 outer context
    have both := fun outer => (first op.rank).append ((second outer).behind op.isInert_symbol)
    rw [Node.leaves, List.length_append]
    cases op
    case eq | ne =>
      simp only [Node.withNames, Node.print, Expr.isNull_withNames]
      cases null : right.isNull with
      | true =>
        obtain ⟨mark, rfl⟩ := eq_null_of_isNull null
        simp only [↓reduceIte]
        exact (first 50).before (by decide)
      | false => exact both 50
    case isIn => exact (first 50).append ((second 0).between (by decide) (by decide))
    all_goals exact both _
  case compound op operands =>
    exact operands.fills { join := op.symbol } rfl op.isInert_symbol inert op.rank context
  case call name args =>
    rw [Node.isInert, Bool.and_eq_true] at inert
    have part := args.fills {} rfl (by decide) inert.2 0 (some .expr)
    exact part.between (isInert_append inert.1 (by decide)) (by decide)
  case count e distinct =>
    have part := e.fills {} rfl (by decide) inert 1000 (some .expr)
    exact part.between (by cases distinct <;> decide) (by decide)
  case prefixed op e =>
    have part := e.fills {} rfl (by decide) inert 1000 context
    exact part.behind (isInert_append op.isInert_symbol (by decide))
  case suffixed op e =>
    have part := e.fills { raw := true } rfl (by decide) inert 1000 context
    exact (part.before (by decide)).before op.isInert_symbol

end

end

/-! ## What a default compiler binds -/

mutual

theorem Expr.isKnown_withNames (names : Nat → String) (taken : Bool) (number : Nat) (e : Expr) :
    (e.withNames names taken number).isKnown = e.isKnown := by
  cases e with
  | node mark node => exact node.isKnown_withNames names taken number
  | seq items => exact Expr.allKnown_withNames names taken number items

theorem Expr.allKnown_withNames (names : Nat → String) (taken : Bool) (number : Nat)
    (items : List Expr) :
    Expr.allKnown (Expr.allWithNames names taken number items) = Expr.allKnown items := by
  cases items with
  | nil => rfl
  | cons e rest =>
    rw [Expr.allWithNames, Expr.allKnown, Expr.allKnown, e.isKnown_withNames,
      Expr.allKnown_withNames]

theorem Node.isKnown_withNames (names : Nat → String) (taken : Bool) (number : Nat) (node : Node) :
    (node.withNames names taken number).isKnown = node.isKnown := by
  cases node
  case value v =>
    simp only [Node.withNames]
    split <;> rfl
  case binary op left right =>
    rw [Node.withNames, Node.isKnown, Node.isKnown, left.isKnown_withNames, right.isKnown_withNames]
  case aliased e _ | compound _ e | call _ e | count e _ | prefixed _ e | suffixed _ e =>
    exact e.isKnown_withNames names _ number
  all_goals rfl

end

/-- Compiled from any state, an expression whose own texts are inert binds its literals and
variables behind the parameters that were there, in the order in which it holds them. Its text has
as many placeholders, and they stand in the places of those: written into them one after the other,
names make the text that the expression compiles to with these names instead. -/
theorem placeholders_are_leaves {e : Expr} (known : e.isKnown) (inert : e.isInert false)
    (pass : Pass) :
    ∃ text, ((Hierarchy.standard id).effective 0).compile {} e pass =
        (.ok text,
          { pass with parameters := pass.parameters ++ (e.leaves false).map Leaf.parameter }) ∧
      placeholders text = (e.leaves false).length ∧
      ∀ names : Nat → String,
        (((Hierarchy.standard id).effective 0).compile {} (e.withNames names false 0) pass).1 =
          .ok (fillPlaceholders (fun number => printName (names number)) text) := by
  have fills := fun names : Nat → String =>
    e.fills names {} rfl (by decide) inert pass.precedence pass.context
  refine ⟨e.print pass.precedence pass.context {}, ?_, (fills fun _ => "").placeholders_eq, ?_⟩
  · rw [standard_compile_eq_print known, e.bound_eq_leaves rfl]
  · intro names
    have known' : (e.withNames names false 0).isKnown :=
      (e.isKnown_withNames names false 0).trans known
    rw [standard_compile_eq_print known', (fills names).fillPlaceholders_eq]

/-- Names with question marks and quotes, a text that is taken over as it stands beside a variable,
a literal with a question mark as an argument, and a comparison to null. -/
def questionableNames : Expr :=
  .seq [
    .node 0 (.binary .eq (.node 1 (.column ⟨0, "wh\"y?", some ⟨"?"⟩, 0, {}⟩))
      (.node 2 (.value (.int 7)))),
    .node 3 (.suffixed .asc (.seq [.node 4 (.value (.text "rank")), .node 5 (.variable 2)])),
    .node 6 (.call "max" (.seq [.node 7 (.value (.text "a?")), .node 8 (.raw "1")])),
    .node 9 (.binary .ne (.node 10 (.variable 1)) (.node 11 .null))]

theorem questionableNames_placeholders :
    questionableNames.isKnown ∧ questionableNames.isInert false ∧
    ∃ text, ((Hierarchy.standard id).effective 0).compile {} questionableNames
      { parameters := [.cell 9] } =
        (.ok text, { parameters :=
          [.cell 9, .value .int (.int 7), .cell 2, .value .text (.text "a?"), .cell 1] }) ∧
      placeholders text = 4 ∧
      ∀ names : Nat → String,
        (((Hierarchy.standard id).effective 0).compile {}
          (questionableNames.withNames names false 0) { parameters := [.cell 9] }).1 =
          .ok (fillPlaceholders (fun number => printName (names number)) text) := by
  have known : questionableNames.isKnown := rfl
  have inert : questionableNames.isInert false := by decide +kernel
  exact ⟨known, inert, placeholders_are_leaves known inert { parameters := [.cell 9] }⟩

end RowMapper
