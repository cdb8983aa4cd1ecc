import RowMapper.Compiler.Builtin
import RowMapper.Compiler.Hierarchy
import RowMapper.Sql.Diagnostic
/-!
The default compiler: a root with the handlers of this library, the precedences of the operators and
the words that the standard of 1992 reserves.
-/

set_option autoImplicit false

namespace RowMapper

/-- The words that the standard reserves. -/
def reservedWords : List String := [
  "absolute", "action", "add", "all", "allocate", "alter", "and", "any", "are", "as", "asc",
  "assertion", "at", "authorization", "avg", "begin", "between", "bit", "bit_length", "both", "by",
  "cascade", "cascaded", "case", "cast", "catalog", "char", "character", "char_length",
  "character_length", "check", "close", "coalesce", "collate", "collation", "column", "commit",
  "connect", "connection", "constraint", "constraints", "continue", "convert", "corresponding",
  "count", "create", "cross", "current", "current_date", "current_time", "current_timestamp",
  "current_user", "cursor", "date", "day", "deallocate", "dec", "decimal", "declare", "default",
  "deferrable", "deferred", "delete", "desc", "describe", "descriptor", "diagnostics", "disconnect",
  "distinct", "domain", "double", "drop", "else", "end", "end-exec", "escape", "except",
  "exception", "exec", "execute", "exists", "external", "extract", "false", "fetch", "first",
  "float", "for", "foreign", "found", "from", "full", "get", "global", "go", "goto", "grant",
  "group", "having", "hour", "identity", "immediate", "in", "indicator", "initially", "inner",
  "input", "insensitive", "insert", "int", "integer", "intersect", "interval", "into", "is",
  "isolation", "join", "key", "language", "last", "leading", "left", "level", "like", "local",
  "lower", "match", "max", "min", "minute", "module", "month", "names", "national", "natural",
  "nchar", "next", "no", "not", "null", "nullif", "numeric", "octet_length", "of", "on", "only",
  "open", "option", "or", "order", "outer", "output", "overlaps", "pad", "partial", "position",
  "precision", "prepare", "preserve", "primary", "prior", "privileges", "procedure", "public",
  "read", "real", "references", "relative", "restrict", "revoke", "right", "rollback", "rows",
  "schema", "scroll", "second", "section", "select", "session", "session_user", "set", "size",
  "smallint", "some", "space", "sql", "sqlcode", "sqlerror", "sqlstate", "substring", "sum",
  "system_user", "table", "temporary", "then", "time", "timestamp", "timezone_hour",
  "timezone_minute", "to", "trailing", "transaction", "translate", "translation", "trim", "true",
  "union", "unique", "unknown", "update", "upper", "usage", "user", "using", "value", "values",
  "varchar", "varying", "view", "when", "whenever", "where", "with", "work", "write", "year",
  "zone"]

namespace Tables

variable {H : Type}

/-- The own tables of a default compiler, given how its handlers are written in H. -/
def standard (builtin : Builtin → H) : Tables H :=
  let handled := Builtin.registrations.foldl
    (fun t (tags, handler) => t.register tags (builtin handler)) (empty : Tables H)
  let ranked := Builtin.precedences.foldl
    (fun t (precedence, tags) => t.setPrecedence precedence tags) handled
  ranked.markWords true reservedWords

end Tables

/-- The compiler that tables of handlers of this library make alone. Cells show as nothing in its
messages. -/
def Tables.compiler {σ : Type} (t : Tables Builtin) : Compiler σ Builtin where
  tables _ := t
  describe _ node := node.diagnostic fun _ => ""

/-- Compiles an expression with tables alone, from a state on; yields also the last state. The
handlers of this library nest as deeply as the nodes. -/
def Tables.compile (t : Tables Builtin) (options : Options) (e : Expr) (pass : Pass) :
    Except Error String × Pass :=
  let done := t.compiler.compile (Builtin.run t.compiler) (e.height + 1) options e ⟨(), pass⟩
  (done.1, done.2.pass)

def renderStandard (e : Expr) : Except Error String := ((Tables.standard id).compile {} e {}).1

/-- A hierarchy of one default compiler. -/
def Hierarchy.standard {H : Type} (builtin : Builtin → H) : Hierarchy H :=
  Hierarchy.root.edit 0 fun _ => .standard builtin

end RowMapper
