import Microboard.World.View

/-!
# Handles of a world

Creating, destroying and failing of handles. Destroying drops whatever stands in the
table under the number of the handle, even if it is another handle.
-/

namespace Microboard.World

/-- Lists a callback under the next number of a table. -/
def createHandle (world : World) (table : Ref .table) (callback : Value)
    (kind : String) : World × Except Fault (Ref .handle) :=
  if callback.isCallable then
    let handle := Handle.registered (world.tables.get table).next kind callback
    let target := world.handles.fresh
    let world := { world with handles := world.handles.push handle }
    let world := world.setTable table (·.insert target)
    (world.log .debug .handles ("Registered " ++ handle.text), .ok target)
  else (world, .error (.complaint (.callbackNotCallable kind)))

def activate (world : World) (target : Ref .handle) : World :=
  world.setHandle target fun handle => handle.activate?.getD handle

/-- Drops the entry with the number of a handle and makes the handle inert. -/
def destroyHandle (world : World) (table : Ref .table) (target : Ref .handle) : World :=
  let handle := world.handles.get target
  let own := (world.tables.get table).find? handle.id == some target
  let world := world.setTable table (·.erase handle.id)
  let world :=
    if own then world.log .debug .handles ("Destroyed " ++ handle.text) else world
  world.setHandle target Handle.destroy

def destroyAll (world : World) (table : Ref .table) : World :=
  (world.tables.get table).handles.foldl (fun world target => world.destroyHandle table target)
    world

/-- Stores a failure on a handle, together with what caused it. -/
def storeFailure (world : World) (target : Ref .handle) (cause : Value) :
    World × Value :=
  let handle := world.handles.get target
  let failure := Fault.callbackFailure (.int handle.id) (.str handle.kind) cause
  let (world, record) := world.withFresh (.fault failure)
  (world.setHandle target (·.recordFailure record), record)

/-- Records a failure of a handle. Its message quotes the cause, so nothing is stored when
the cause has no text. -/
def recordFailure (world : World) (target : Ref .handle) (cause : Value) : World × Reply :=
  match cause.textFault? with
  | some fault => (world, .error fault)
  | none =>
    let (world, record) := world.storeFailure target cause
    (world, .ok record)

/-- Records and logs a fault with which a callback has ended, and which has a text. -/
def noteFailure (world : World) (logger : Logger) (heading : String)
    (target : Ref .handle) (fault : Fault) : World :=
  let (world, cause) := world.withFresh (.fault fault)
  let (world, failure) := world.storeFailure target cause
  world.log .error logger (heading ++ failure.text world.describe)

/-- What a dispatcher does when it hears how the task of a handler has ended. -/
def noteOutcome (world : World) (target : Ref .handle) : Reply → World
  | .error fault =>
    match fault.escape? with
    | none => world.noteFailure .buttons "Error in button handler: " target fault
    | some _ => world
  | .ok _ => world

/-- The callback of a handle, unless it has been destroyed. -/
def callbackOf (world : World) (target : Ref .handle) : Except Fault Value :=
  let handle := world.handles.get target
  match handle.callback with
  | some callback => .ok callback
  | none => .error (.handleDestroyed (.int handle.id))

end Microboard.World
