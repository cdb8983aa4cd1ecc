import RowMapper.Bus.Emission
/-!
The end of objects. When the last reference to an object is dropped, the records that it holds
announce it: the one attached and those replaced while they observed it. A record announces only the
end of the object that it observes, and that once.
-/

set_option autoImplicit false

namespace RowMapper.Obj

variable {υ : Type}

def deletedEvent : String := "object-deleted"

def emitDeleted (foreign : Foreign υ) (info : InfoId) : Act (World υ) Unit := do
  match ← World.read (fun s => s.infos[info]?) with
  | none => pure ()
  | some i => Bus.emit foreign i.bus deletedEvent []

/-- Announces the end of the observed object if it has ended and that has not been announced. -/
def notify (foreign : Foreign υ) (info : InfoId) : Act (World υ) Unit := do
  match ← World.read (fun s => s.infos[info]?) with
  | none => pure ()
  | some i =>
    let alive ← World.read fun s => s.objectAlive i.object
    if !alive && !i.notified then
      World.change (·.adjustInfo info fun i => { i with notified := true })
      emitDeleted foreign info

/-- Lets records that an object held announce its end, and drops them. A failure in one of them does
not keep the others from it. -/
def notifyAll (foreign : Foreign υ) : List InfoId → Act (World υ) Unit
  | [] => pure ()
  | info :: rest => do
    let _ ← (notify foreign info).attempt
    World.change (·.releaseInfo info)
    notifyAll foreign rest

/-- Drops a reference to an object, and with the last one the object. -/
def release (foreign : Foreign υ) (object : ObjectId) : Act (World υ) Unit := do
  World.change (·.adjustObject object fun o => { o with references := o.references - 1 })
  match ← World.read (fun s => s.objects[object]?) with
  | none => pure ()
  | some o =>
    if o.references = 0 then
      World.change (·.adjustObject object fun o => { o with attached := none, replaced := [] })
      notifyAll foreign (o.attached.toList ++ o.replaced)

end RowMapper.Obj
