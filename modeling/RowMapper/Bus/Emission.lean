import RowMapper.World
/-!
Emission: the hooks of a name are called in order with the arguments followed by their own. The
hooks are those of the moment when the emission starts, whatever the callbacks add or remove. The
first failure ends it. A bus whose owner is gone emits nothing.
-/

set_option autoImplicit false

namespace RowMapper.Bus

variable {υ : Type}

/-- Calls hooks one after the other; a hook that unsubscribes is taken out of the bus. -/
def callAll (foreign : Foreign υ) (bus : BusId) (name : String) (owner : Owner) (args : List Arg) :
    List Hook → Act (World υ) Unit
  | [] => pure ()
  | hook :: rest => do
    let flow ← foreign.call hook.callback owner (args ++ hook.extra)
    if flow = .unsubscribe then World.change (·.adjustBus bus fun b => b.unhook name hook)
    callAll foreign bus name owner args rest

/-- Emits an event. The owner is kept alive meanwhile. -/
def emit (foreign : Foreign υ) (bus : BusId) (name : String) (args : List Arg) :
    Act (World υ) Unit := do
  match ← World.read (fun s => s.buses[bus]?) with
  | none => pure ()
  | some b =>
    let alive ← World.read fun s => s.ownerAlive b.owner
    if alive then
      match b.hooks.get? name with
      | none => pure ()
      | some hooks =>
        World.change (·.retainOwner b.owner)
        World.ensure (callAll foreign bus name b.owner args hooks) (·.releaseOwner b.owner)

end RowMapper.Bus
