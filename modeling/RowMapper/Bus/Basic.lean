import RowMapper.Cell.Basic
import RowMapper.Dict
/-!
Buses: hooks under names, each a callback with extra arguments. The hooks of a name keep the order
in which they came, and none of them stands twice.
-/

set_option autoImplicit false

namespace RowMapper

abbrev CallbackId := Nat

inductive Arg where
  | cell (id : CellId)
  | slot (s : Slot)
  | lazy (l : Lazy)
  | flag (b : Bool)
  | text (s : String)
  | int (n : Int64)

namespace Arg

def same : Arg → Arg → Bool
  | .cell a, .cell b => a == b
  | .slot a, .slot b => a.same b
  | .lazy a, .lazy b => a.same b
  | .flag a, .flag b => a == b
  | .text a, .text b => a == b
  | .int a, .int b => a == b
  | _, _ => false

def sameAll : List Arg → List Arg → Bool
  | [], [] => true
  | a :: as, b :: bs => a.same b && sameAll as bs
  | _, _ => false

end Arg

/-- What a hook wants of itself after a call. -/
inductive Flow where
  | keep
  | unsubscribe
  deriving DecidableEq, Repr

/-- A callback and its extra arguments. -/
structure Hook where
  callback : CallbackId
  extra : List Arg

/-- The two hooks are the same pair. -/
def Hook.same (a b : Hook) : Bool := a.callback == b.callback && Arg.sameAll a.extra b.extra

/-- What owns a bus: an actor, or the record of a mapped object. -/
inductive Owner where
  | actor (id : ActorId)
  | info (id : InfoId)
  deriving DecidableEq, Repr

/-- A bus. It does not keep its owner alive. -/
structure Bus where
  owner : Owner
  hooks : Dict String (List Hook)

namespace Bus

def ofOwner (owner : Owner) : Bus := ⟨owner, .empty⟩

def hooksOf (b : Bus) (name : String) : List Hook := (b.hooks.get? name).getD []

/-- Adds a hook unless the same pair is there. -/
def hook (b : Bus) (name : String) (h : Hook) : Bus :=
  let registered := b.hooksOf name
  if registered.any fun other => other.same h then b
  else { b with hooks := b.hooks.insert name (registered ++ [h]) }

/-- Takes a pair out; a name without hooks leaves the map. -/
def unhook (b : Bus) (name : String) (h : Hook) : Bus :=
  match b.hooks.get? name with
  | none => b
  | some registered =>
    let rest := registered.filter fun other => !other.same h
    if rest.isEmpty then { b with hooks := b.hooks.erase name }
    else { b with hooks := b.hooks.insert name rest }

def hookCount (b : Bus) (name : String) : Nat := (b.hooksOf name).length

def diagnostic (b : Bus) (ownerAlive : Bool) : String :=
  let names := b.hooks.keys.mergeSort fun x y => x ≤ y
  Text.record "EventSystem"
    [("owner_alive", Text.truth ownerAlive),
      ("hooks", Text.listed (names.map fun name =>
        Text.applied "" [Text.quoted name, toString (b.hookCount name)]))]

end Bus

end RowMapper
