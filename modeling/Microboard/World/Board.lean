import Microboard.Hardware.Access
import Microboard.Program
import Microboard.World.Handles

/-!
# Operations of a board

What the parts of a board do: loops are cancelled, handlers are served and destroyed,
events are published, the board is reset. An operation that calls a script ends in a
focus that says what to call.
-/

namespace Microboard.World

/-- The subscribers that are still to be called, from the first one on. -/
def publishRest (bus : Ref .bus) (event : Value) : List (Nat × Value) → Focus
  | [] => .nothing
  | (id, subscriber) :: rest =>
    .within (.publishing bus event id rest) (.call subscriber (.single event))

def publishTo (world : World) (bus : Ref .bus) (event : Value) : Focus :=
  publishRest bus event (world.buses.get bus).subscribers

def announce (world : World) (bus : Ref .bus) (event : Event) : World × Focus :=
  let (world, record) := world.withFresh (.event event)
  (world, .publish bus record)

def cancelAll (world : World) (target : Ref .scheduler) : World :=
  world.destroyAll (world.schedulers.get target).table

/-- Tasks of handles that are no longer listed. -/
def endingTasks (world : World) (target : Ref .scheduler) : List TaskId :=
  let scheduler := world.schedulers.get target
  let table := world.tables.get scheduler.table
  (scheduler.tasks.filter fun entry => (table.find? entry.1).isNone).map (·.2)

def waitFor (tasks : List TaskId) : Focus :=
  if tasks.isEmpty then .nothing else .wait tasks

def startLoop (world : World) (target : Ref .scheduler) (callback : Value) :
    World × Focus :=
  if !world.looping then (world, .raise (.complaint .noEventLoop))
  else
    match world.createHandle (world.schedulers.get target).table callback "forever" with
    | (world, .error fault) => (world, .raise fault)
    | (world, .ok handle) =>
      let world := world.activate handle
      let id := (world.handles.get handle).id
      (world, .within (.program fun _ => .finish (.ok (.handle handle)))
        (.start (.loop target handle) (.loopEnded target id)))

/-- What a loop does after an iteration: it sleeps, or it ends. -/
def continueLoop (world : World) (target : Ref .scheduler) (handle : Ref .handle) :
    World × Focus :=
  let record := world.handles.get handle
  if record.isActive then
    (world, .within (.loopSlept target handle) (.sleep (world.schedulers.get target).interval))
  else
    (world.log .debug .scheduler ("Forever loop " ++ toString record.id ++ " stopped"), .nothing)

/-- What a loop does after a sleep: it iterates, or it ends. -/
def iterateLoop (world : World) (target : Ref .scheduler) (handle : Ref .handle) :
    World × Focus :=
  let record := world.handles.get handle
  if record.isActive then (world, .within (.iterating target handle) (.invoke handle))
  else
    (world.log .debug .scheduler ("Forever loop " ++ toString record.id ++ " stopped"), .nothing)

def registerHandler (world : World) (target : Ref .dispatcher) (button handler : Value) :
    World × Focus :=
  match button.toButton with
  | .error fault => (world, .raise fault)
  | .ok button =>
    let dispatcher := world.dispatchers.get target
    match world.createHandle dispatcher.table handler ("button " ++ button.name) with
    | (world, .error fault) => (world, .raise fault)
    | (world, .ok handle) =>
      let world := world.activate handle
      let world := world.setDispatcher target fun dispatcher =>
        { dispatcher with
          handlers := dispatcher.handlers.set button
            (dispatcher.handlers.get button ++ [handle]) }
      (world, .value (.handle handle))

def handlersOf (world : World) (target : Ref .dispatcher) (button : Button) :
    List (Ref .handle) :=
  ((world.dispatchers.get target).handlers.get button).filter fun handle =>
    (world.handles.get handle).isActive

/-- Takes a handle from the lists of a dispatcher and destroys it. -/
def unregister (world : World) (target : Ref .dispatcher) (handle : Ref .handle) : World :=
  let world := world.setDispatcher target fun dispatcher =>
    { dispatcher with handlers := dispatcher.handlers.map (·.erase handle) }
  world.destroyHandle (world.dispatchers.get target).table handle

def clearHandlers (world : World) (target : Ref .dispatcher) : World :=
  let world := world.destroyAll (world.dispatchers.get target).table
  world.setDispatcher target fun dispatcher => { dispatcher with handlers := .const [] }

def resetDispatcher (world : World) (target : Ref .dispatcher) : World :=
  let world := world.clearHandlers target
  world.setHardware (world.dispatchers.get target).hardware fun hardware =>
    { hardware with buttons := .const false }

/-- What a dispatcher does about the work that a handler gives back while an event loop
is running: it takes on a future as it is, and makes a task of anything else. -/
def handOn (target : Ref .dispatcher) (handle : Ref .handle) (rest : List (Ref .handle)) :
    Work → Focus
  | .future task => .within (.serving target rest) (.adopt task target handle)
  | work =>
    .within (.pressing target handle rest) (.start work (.handlerEnded target handle))

/-- Calls the first handler that is still active; the others wait in the frame. -/
def serve (world : World) (target : Ref .dispatcher) : List (Ref .handle) → Focus
  | [] => .nothing
  | handle :: rest =>
    if (world.handles.get handle).isActive then
      .within (.pressing target handle rest) (.invoke handle)
    else world.serve target rest

/-- Latches a press and tells everybody of it; the handlers come afterwards. -/
def press (world : World) (target : Ref .dispatcher) (button : Value) : World × Focus :=
  match button.toButton with
  | .error fault => (world, .raise fault)
  | .ok button =>
    let dispatcher := world.dispatchers.get target
    let world := world.setHardware dispatcher.hardware (·.writeLatch button true)
    let (world, focus) := world.announce dispatcher.bus (.buttonPress button)
    (world, .within (.pressed target button) focus)

/-- Darkens cells one by one, telling everybody of each. -/
def sweep (world : World) (target : Ref .bridge) : List (Nat × Nat) → World × Focus
  | [] => (world, .nothing)
  | (x, y) :: rest =>
    let bridge := world.bridges.get target
    let world := world.setHardware bridge.hardware (·.writeLed x y false)
    let (world, focus) := world.announce bridge.bus (.ledChange (.number x) (.number y) 0)
    (world, .within (.clearing target rest) focus)

def cellsOf (hardware : Hardware) : List (Nat × Nat) :=
  (List.range hardware.width.toNat).flatMap fun x =>
    (List.range hardware.height.toNat).map fun y => (x, y)

def clearScreen (world : World) (target : Ref .bridge) : World × Focus :=
  world.sweep target (cellsOf (world.hardwares.get (world.bridges.get target).hardware))

/-- Lights or darkens a cell and tells everybody of it. -/
def drawCell (world : World) (target : Ref .bridge) (x y : Value) (lit : Bool) :
    World × Focus :=
  let bridge := world.bridges.get target
  match (world.hardwares.get bridge.hardware).setLed x y (.bool lit), x.whole, y.whole with
  | .error fault, _, _ => (world, .raise fault)
  | .ok hardware, .ok x, .ok y =>
    let world := world.setHardware bridge.hardware fun _ => hardware
    world.announce bridge.bus (.ledChange x y (if lit then 1 else 0))
  | .ok _, .error cause, _ | .ok _, _, .error cause => (world, .raise (.complaint cause))

def digitalWrite (world : World) (target : Ref .bridge) (pin level : Value) :
    World × Focus :=
  let bridge := world.bridges.get target
  match (world.hardwares.get bridge.hardware).setLevel .digital pin level with
  | .error fault => (world, .raise fault)
  | .ok hardware =>
    let world := world.setHardware bridge.hardware fun _ => hardware
    let name := (pin.word?).getD ""
    let stored := ((hardware.levels? name).getD .zero).digital
    world.announce bridge.bus (.pinChange name stored .digital)

/-- Destroys all callbacks, returns the hardware to its defaults and tells everybody
of the reset. -/
def resetBoard (world : World) (target : Ref .bridge) : World × Focus :=
  let bridge := world.bridges.get target
  let world := world.cancelAll bridge.scheduler
  let world := world.resetDispatcher bridge.dispatcher
  let world := world.setHardware bridge.hardware Hardware.reset
  let (world, focus) := world.announce bridge.bus .reset
  (world, .within .announced focus)

/-- Strokes that are still to be drawn, from the first one on. -/
def draw (world : World) (surface : Surface) (interval : Value) :
    List Scroll.Stroke → World × Focus
  | [] => (world, .nothing)
  | .pause :: rest => (world, .within (.drawing surface interval rest) (.sleep interval))
  | .clear :: rest =>
    match surface with
    | .matrix bridge =>
      let (world, focus) := world.clearScreen bridge
      (world, .within (.drawing surface interval rest) focus)
    | .panel label => (world.observe (.cleared label)).draw surface interval rest
  | .plot x y :: rest =>
    match surface with
    | .matrix bridge =>
      let (world, focus) := world.drawCell bridge (.int x) (.int y) true
      (world, .within (.drawing surface interval rest) focus)
    | .panel label => (world.observe (.plotted label (.int x) (.int y))).draw surface interval rest

def framesOf (world : World) (target : Ref .scroller) (text : String) :
    Except Fault (List Scroll.Frame) :=
  let scroller := world.scrollers.get target
  match Scroll.frames? scroller.glyphs scroller.width.toNat scroller.height.toNat
      text.toList with
  | some frames => .ok frames
  | none => .error (.complaint .indexOutOfRange)

def scroll (world : World) (target : Ref .scroller) (text : String) (interval : Value) :
    World × Focus :=
  match world.framesOf target text with
  | .error fault => (world, .raise fault)
  | .ok frames =>
    world.draw (world.scrollers.get target).surface interval (Scroll.strokes frames)

/-- Scrolls the text of a value over the matrix of a board, by default with the delay of
the board. -/
def showString (world : World) (target : Ref .bridge) (text interval : Value) :
    World × Focus :=
  let bridge := world.bridges.get target
  world.scroll bridge.scroller (text.text world.describe)
    (match interval with
      | .none => bridge.scrollInterval
      | given => given)

def closeBoard (world : World) (target : Ref .board) : World × Focus :=
  let board := world.boards.get target
  let world := world.cancelAll board.scheduler
  let world := world.clearHandlers board.dispatcher
  (world, .within (.closingLoops target) (.await (.loopsIdle board.scheduler)))

/-- Begins work that is awaited; the body of a callback and a task are not among it. -/
def begin (world : World) : Work → World × Focus
  | .body .. | .future _ => (world, .nothing)
  | .sleep interval => (world, .sleep interval)
  | .showString target text interval => world.showString target text interval
  | .scroll target text interval => world.scroll target text interval
  | .loop target handle =>
    (world, .within (.loopSlept target handle) (.sleep (world.schedulers.get target).interval))
  | .loopsIdle target => (world, waitFor (world.endingTasks target))
  | .handlersIdle target => (world, waitFor (world.dispatchers.get target).background)
  | .closeBoard target => world.closeBoard target
  | .closeKeeper target =>
    (world.setKeeper target fun keeper => { keeper with closed := true }, .nothing)

/-- How an operation goes on after the call that it waits for. A fault that is not
ordinary ends every operation; where failures are recorded, so does one that has no
text, with what writing it out raises. -/
def resume (world : World) (frame : Frame) (reply : Reply) : World × Focus :=
  match frame, reply with
  | .program next, reply => (world, .run (next reply))
  | .publishing bus event id rest, .error fault =>
    if fault.isOrdinary then
      (world.log .error .events ("Event subscriber " ++ toString id ++
        " failed while handling " ++ event.text world.describe), publishRest bus event rest)
    else (world, .raise fault)
  | .publishing bus event _ rest, .ok _ => (world, publishRest bus event rest)
  | .pressed target button, .ok _ =>
    (world, world.serve target ((world.dispatchers.get target).handlers.get button))
  | .pressing target handle rest, .ok value =>
    match value.work? with
    | none => (world, world.serve target rest)
    | some work =>
      if world.looping then (world, handOn target handle rest work)
      else
        let world := world.noteFailure .buttons "Error in button handler: " handle
          (.complaint .noEventLoop)
        (world, world.serve target rest)
  | .pressing target handle rest, .error fault =>
    match fault.escape? with
    | some other => (world, .raise other)
    | none =>
      let world := world.noteFailure .buttons "Error in button handler: " handle fault
      (world, world.serve target rest)
  | .serving target rest, .ok _ => (world, world.serve target rest)
  | .clearing target rest, .ok _ => world.sweep target rest
  | .drawing surface interval rest, .ok _ => world.draw surface interval rest
  | .announced, .ok _ => (world.log .info .bridge "Board state reset", .nothing)
  | .loopSlept target handle, .ok _ => world.iterateLoop target handle
  | .iterating target handle, .ok value =>
    match value.work? with
    | some work => (world, .within (.iterationAwaits target handle) (.await work))
    | none => world.continueLoop target handle
  | .iterationAwaits target handle, .ok _ => world.continueLoop target handle
  | .iterating target handle, .error fault | .iterationAwaits target handle, .error fault =>
    match fault.escape? with
    | some other => (world, .raise other)
    | none =>
      (world.noteFailure .scheduler "Error in forever loop: " handle fault).continueLoop
        target handle
  | .closingLoops target, .ok _ =>
    (world, .within (.closingHandlers target)
      (.await (.handlersIdle (world.boards.get target).dispatcher)))
  | .closingHandlers target, .ok _ =>
    (world.setBus (world.boards.get target).bus Bus.clear, .nothing)
  | .spawned, .ok value =>
    match value.work? with
    | some work =>
      if work.isCoroutine then (world, .within .spawnAwaits (.await work))
      else (world.observe (.reported "spawn" (.text "done")), .nothing)
    | none => (world.observe (.reported "spawn" (.text "done")), .nothing)
  | .spawnAwaits, .ok _ => (world.observe (.reported "spawn" (.text "done")), .nothing)
  | .spawned, .error fault | .spawnAwaits, .error fault =>
    (world.observe (.reported "spawn" (world.faultView fault)), .nothing)
  | _, .error fault => (world, .raise fault)

end Microboard.World
