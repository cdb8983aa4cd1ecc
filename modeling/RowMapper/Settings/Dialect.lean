import RowMapper.Compiler.Default
import RowMapper.Settings.Basic
/-!
Dialects: a child of a compiler with the reserved words of the settings edited. A report says how
the dialect of a default compiler treats words.
-/

set_option autoImplicit false

namespace RowMapper.Settings

/-- What settings come to. -/
structure Report where
  settings : Settings
  /-- Which words the dialect reserves. -/
  reserved : List Bool
  /-- Which words the compiler above it reserves. -/
  reservedInRoot : List Bool
  /-- The words as tables, compiled by the dialect. -/
  sql : Except Error String

variable {H : Type}

/-- Makes the dialect of a compiler. A word in both lists is not reserved. -/
def dialect (s : Settings) (h : Hierarchy H) (parent : Nat) : Nat × Hierarchy H :=
  let (id, h) := h.createChild parent
  (id, (h.markWords id true s.compile.reserved).markWords id false s.compile.unreserved)

def report (s : Settings) (words : List String) : Report :=
  let root : Hierarchy Builtin := .standard id
  let (dialect, h) := s.dialect root 0
  let tables : Expr := .seq (words.map fun word => .node 0 (.table ⟨word⟩))
  { settings := s
    reserved := words.map (h.effective dialect).isReserved
    reservedInRoot := words.map (h.effective 0).isReserved
    sql := ((h.effective dialect).compile s.options tables {}).1 }

end RowMapper.Settings
