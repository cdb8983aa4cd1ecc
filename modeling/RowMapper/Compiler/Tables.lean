import RowMapper.Dict
import RowMapper.Sql.Expr
import RowMapper.Text.LowerCase
/-!
The tables of a compiler: handlers and precedences by tag, and reserved words in lower case.
-/

set_option autoImplicit false

namespace RowMapper

/-- The tables of a compiler, with handlers of type H. -/
structure Tables (H : Type) where
  handlers : Dict Tag H
  precedences : Dict Tag Int
  /-- Whether a word is reserved or taken out of the reserved words. -/
  reserved : Dict String Bool

namespace Tables

variable {H : Type}

/-- The precedence of nodes that have none of their own. -/
def highest : Int := 1000

def empty : Tables H := ⟨.empty, .empty, .empty⟩

instance : Inhabited (Tables H) := ⟨empty⟩

/-- The entries of other tables over these. -/
def extend (t other : Tables H) : Tables H where
  handlers := t.handlers.extend other.handlers
  precedences := t.precedences.extend other.precedences
  reserved := t.reserved.extend other.reserved

/-- The tables merged along a path, the later ones over the earlier. -/
def merge (path : List (Tables H)) : Tables H := path.foldl extend empty

def register (t : Tables H) (tags : List Tag) (handler : H) : Tables H :=
  { t with handlers := tags.foldl (fun d tag => d.insert tag handler) t.handlers }

/-- The handlers that registering one for tags puts out, in the order of the tags. -/
def replaced (handlers : Dict Tag H) (handler : H) : List Tag → List H
  | [] => []
  | tag :: rest => (handlers.get? tag).toList ++ replaced (handlers.insert tag handler) handler rest

def setPrecedence (t : Tables H) (precedence : Int) (tags : List Tag) : Tables H :=
  { t with precedences := tags.foldl (fun d tag => d.insert tag precedence) t.precedences }

def markWords (t : Tables H) (reserved : Bool) (words : List String) : Tables H :=
  { t with reserved := words.foldl (fun d word => d.insert (Text.toLowerCase word)
    reserved) t.reserved }

def precedence (t : Tables H) (tag : Tag) : Int := (t.precedences.get? tag).getD highest

/-- The word is reserved, in whatever case. -/
def isReserved (t : Tables H) (word : String) : Bool :=
  (t.reserved.get? (Text.toLowerCase word)).getD false

/-- The handler of the first tag of a lineage that has one. -/
def handler? (t : Tables H) (lineage : List Tag) : Option H := lineage.findSome? t.handlers.get?

/-! ## What the operations do to a lookup -/

theorem get?_register (t : Tables H) (tags : List Tag) (handler : H) (tag : Tag) :
    (t.register tags handler).handlers.get? tag =
      if tag ∈ tags then some handler else t.handlers.get? tag := by
  simpa only [register, List.map_id'] using
    Dict.get?_foldl_insert tags (fun tag => tag) handler t.handlers tag

theorem get?_setPrecedence (t : Tables H) (precedence : Int) (tags : List Tag) (tag : Tag) :
    (t.setPrecedence precedence tags).precedences.get? tag =
      if tag ∈ tags then some precedence else t.precedences.get? tag := by
  simpa only [setPrecedence, List.map_id'] using
    Dict.get?_foldl_insert tags (fun tag => tag) precedence t.precedences tag

theorem get?_markWords (t : Tables H) (reserved : Bool) (words : List String) (word : String) :
    (t.markWords reserved words).reserved.get? word =
      if word ∈ words.map Text.toLowerCase then some reserved else t.reserved.get? word :=
  Dict.get?_foldl_insert words Text.toLowerCase reserved t.reserved word

/-- The handlers that a registration puts out and those in the tables afterwards are the new one,
once for each tag, and those in the tables before. -/
theorem values_register_perm (t : Tables H) (tags : List Tag) (handler : H) :
    (replaced t.handlers handler tags ++ (t.register tags handler).handlers.values).Perm
      (List.replicate tags.length handler ++ t.handlers.values) := by
  simp only [register]
  generalize t.handlers = handlers
  induction tags generalizing handlers with
  | nil => exact .refl _
  | cons tag rest ih =>
    rw [replaced, List.foldl_cons, List.append_assoc, List.length_cons, List.replicate_succ,
      List.cons_append]
    refine ((ih _).append_left _).trans ?_
    refine (List.perm_append_comm_assoc ..).trans ?_
    exact ((handlers.values_insert_perm tag handler).append_left _).trans List.perm_middle

end Tables

end RowMapper
