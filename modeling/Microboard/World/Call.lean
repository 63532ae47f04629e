import Microboard.World.Function

/-!
# Calls

What every operation does when it is called: a change of the world, and what is to be
done next. Most operations end at once; the others call a script, publish an event or
give work back that has to be awaited.
-/

namespace Microboard.World

def answer (world : World) (reply : Reply) : World × Focus :=
  (world, .reply reply)

def answerWith {α : Type} (world : World) (record : α → Value) :
    Except Fault α → World × Focus
  | .ok value => (world, .value (record value))
  | .error fault => (world, .raise fault)

def storeHardware (world : World) (target : Ref .hardware) :
    Except Fault Hardware → World × Focus
  | .ok hardware => (world.setHardware target fun _ => hardware, .nothing)
  | .error fault => (world, .raise fault)

def answerSnapshot (world : World) (target : Ref .hardware) : World × Focus :=
  let (world, record) := world.withFresh (.snapshot (world.hardwares.get target).snapshot)
  (world, .value record)

def callHardware (world : World) (target : Ref .hardware) (operation : HardwareMethod)
    (arguments : Arguments) : World × Focus :=
  let hardware := world.hardwares.get target
  match operation with
  | .setDigital =>
    world.storeHardware target
      (hardware.setLevel .digital (arguments.get 0 "pin") (arguments.get 1 "value"))
  | .setAnalog =>
    world.storeHardware target
      (hardware.setLevel .analog (arguments.get 0 "pin") (arguments.get 1 "value"))
  | .getDigital => world.answerWith .int (hardware.getLevel .digital (arguments.get 0 "pin"))
  | .getAnalog => world.answerWith .int (hardware.getLevel .analog (arguments.get 0 "pin"))
  | .setLed =>
    world.storeHardware target
      (hardware.setLed (arguments.get 0 "x") (arguments.get 1 "y") (arguments.get 2 "lit"))
  | .getLed =>
    world.answerWith .bool (hardware.getLed (arguments.get 0 "x") (arguments.get 1 "y"))
  | .clearLeds => (world.setHardware target Hardware.clearLeds, .nothing)
  | .setButton =>
    world.storeHardware target
      (hardware.setButton (arguments.get 0 "button") (arguments.get 1 "pressed"))
  | .getButton => world.answerWith .bool (hardware.getButton (arguments.get 0 "button"))
  | .reset => (world.setHardware target Hardware.reset, .nothing)
  | .snapshot => world.answerSnapshot target

def subscribe (world : World) (target : Ref .bus) (subscriber : Value) : World × Focus :=
  if subscriber.isCallable then
    let id := (world.buses.get target).next
    (world.setBus target (·.subscribe subscriber), .value (.token target id))
  else world.answer (.complain .subscriberNotCallable)

def unsubscribe (world : World) (target : Ref .bus) (token : Value) : World × Focus :=
  match token with
  | .token bus id =>
    (if bus = target then world.setBus target (·.unsubscribe id) else world, .nothing)
  | other => world.answer (.complain (.noAttribute other.typeName "bus"))

def callBus (world : World) (target : Ref .bus) (operation : BusMethod)
    (arguments : Arguments) : World × Focus :=
  match operation with
  | .subscribe => world.subscribe target (arguments.get 0 "callback")
  | .unsubscribe => world.unsubscribe target (arguments.get 0 "token")
  | .isSubscribed =>
    match arguments.get 0 "token" with
    | .token bus id =>
      world.answer (.ok (.bool (bus = target && (world.buses.get target).isSubscribed id)))
    | other => world.answer (.complain (.noAttribute other.typeName "bus"))
  | .publish => (world, .publish target (arguments.get 0 "event"))
  | .clear => (world.setBus target Bus.clear, .nothing)

/-- Changes what belongs to a handle. A subscription, although it has a number, too, is refused
like everything else that is no handle. -/
def withHandle (world : World) (value : Value) (change : Ref .handle → World) :
    World × Focus :=
  match value with
  | .handle handle => (change handle, .nothing)
  | other => world.answer (.complain (.noAttribute other.typeName "id"))

def callTable (world : World) (target : Ref .table) (operation : TableMethod)
    (arguments : Arguments) : World × Focus :=
  match operation with
  | .create =>
    match world.createHandle target (arguments.get 0 "callback")
        (arguments.get 1 "kind").plain with
    | (world, .ok handle) => (world, .value (.handle handle))
    | (world, .error fault) => (world, .raise fault)
  | .get =>
    let wanted := arguments.get 0 "handle_id"
    let found := (world.tables.get target).entries.find? fun entry =>
      wanted.equals (.int entry.1)
    world.answer (.ok (match found with | some entry => .handle entry.2 | none => .none))
  | .destroy => world.withHandle (arguments.get 0 "handle") (world.destroyHandle target)
  | .destroyAll => (world.destroyAll target, .nothing)

def callHandle (world : World) (target : Ref .handle) (operation : HandleMethod)
    (arguments : Arguments) : World × Focus :=
  match operation with
  | .activate =>
    let handle := world.handles.get target
    if handle.isDestroyed then world.answer (.error (.handleDestroyed (.int handle.id)))
    else (world.activate target, .nothing)
  | .invoke => (world, .invoke target)
  | .recordFailure =>
    let (world, reply) := world.recordFailure target (arguments.get 0 "exc")
    world.answer reply

/-- The operations of a scheduler. Who waits for its loops waits without a time limit, for
the limit is one of the real time, which no simulation knows. -/
def callScheduler (world : World) (target : Ref .scheduler) (operation : SchedulerMethod)
    (arguments : Arguments) : World × Focus :=
  match operation with
  | .register => world.startLoop target (arguments.get 0 "callback")
  | .cancel =>
    world.withHandle (arguments.get 0 "handle")
      (world.destroyHandle (world.schedulers.get target).table)
  | .cancelAll => (world.cancelAll target, .nothing)
  | .waitIdle => (world, .value (.awaitable (.loopsIdle target)))

/-- The operations of a dispatcher. Who waits for its handlers waits without a time limit. -/
def callDispatcher (world : World) (target : Ref .dispatcher)
    (operation : DispatcherMethod) (arguments : Arguments) : World × Focus :=
  match operation with
  | .register =>
    world.registerHandler target (arguments.get 0 "button") (arguments.get 1 "handler")
  | .handlers =>
    world.answerWith (fun button => .list ((world.handlersOf target button).map .handle))
      (arguments.get 0 "button").toButton
  | .unregister => world.withHandle (arguments.get 0 "handle") (world.unregister target)
  | .isPressed =>
    world.answerWith .bool
      ((world.hardwares.get (world.dispatchers.get target).hardware).getButton
        (arguments.get 0 "button"))
  | .press => world.press target (arguments.get 0 "button")
  | .waitIdle => (world, .value (.awaitable (.handlersIdle target)))
  | .clear => (world.clearHandlers target, .nothing)
  | .reset => (world.resetDispatcher target, .nothing)

def callBridge (world : World) (target : Ref .bridge) (operation : BridgeMethod)
    (arguments : Arguments) : World × Focus :=
  let bridge := world.bridges.get target
  let hardware := world.hardwares.get bridge.hardware
  match operation with
  | .digitalWrite =>
    world.digitalWrite target (arguments.get 0 "pin") (arguments.get 1 "value")
  | .digitalRead => world.answerWith .int (hardware.getLevel .digital (arguments.get 0 "pin"))
  | .analogWrite =>
    world.storeHardware bridge.hardware
      (hardware.setLevel .analog (arguments.get 0 "pin") (arguments.get 1 "value"))
  | .analogRead => world.answerWith .int (hardware.getLevel .analog (arguments.get 0 "pin"))
  | .plot => world.drawCell target (arguments.get 0 "x") (arguments.get 1 "y") true
  | .unplot => world.drawCell target (arguments.get 0 "x") (arguments.get 1 "y") false
  | .point => world.answerWith .bool (hardware.getLed (arguments.get 0 "x") (arguments.get 1 "y"))
  | .clearScreen => world.clearScreen target
  | .onButtonPressed =>
    world.registerHandler bridge.dispatcher (arguments.get 0 "button")
      (arguments.get 1 "handler")
  | .buttonIsPressed => world.answerWith .bool (hardware.getButton (arguments.get 0 "button"))
  | .clearButtonHandlers => (world.clearHandlers bridge.dispatcher, .nothing)
  | .showString =>
    (world, .value (.awaitable
      (.showString target (arguments.get 0 "text") (arguments.get 1 "interval"))))
  | .forever => world.startLoop bridge.scheduler (arguments.get 0 "callback")
  | .pause => (world, .value (.awaitable (.sleep (arguments.get 0 "ms"))))
  | .reset => world.resetBoard target

def callScroller (world : World) (target : Ref .scroller) (operation : ScrollerMethod)
    (arguments : Arguments) : World × Focus :=
  let text := (arguments.get 0 "text").plain
  match operation with
  | .frames =>
    world.answerWith (fun frames => .list (frames.map Glyph.value))
      (world.framesOf target text)
  | .scroll =>
    (world, .value (.awaitable (.scroll target text (arguments.get 1 "interval_ms"))))

def callBoard (world : World) (target : Ref .board) (operation : BoardMethod)
    (arguments : Arguments) : World × Focus :=
  let board := world.boards.get target
  match operation with
  | .subscribe => world.subscribe board.bus (arguments.get 0 "callback")
  | .snapshot => world.answerSnapshot board.hardware
  | .pressButton => world.press board.dispatcher (arguments.get 0 "button")
  | .reset => world.resetBoard board.bridge
  | .close => (world, .value (.awaitable (.closeBoard target)))
  | .scriptModule => (world, .value (.dict (moduleEntries board.bridge)))

def callRegistry (world : World) (target : Ref .registry) (operation : RegistryMethod)
    (arguments : Arguments) : World × Focus :=
  let registry := world.registries.get target
  match operation with
  | .register =>
    let (world, reply) :=
      world.registerBoard target (arguments.get 0 "name") (arguments.get 1 "board_class")
    world.answer reply
  | .boardClass =>
    world.answer (replyWith .type (registry.boardClass (arguments.get 0 "name").plain))
  | .names => world.answer (.ok (.list (registry.names.map .str)))
  | .create =>
    let (world, reply) := world.createBoard target (arguments.get 0 "name")
      (arguments.named.filter fun entry => entry.1 ≠ "name")
    world.answer reply

def callMethod (world : World) (method : Method) (arguments : Arguments) : World × Focus :=
  match method with
  | .hardware target operation => world.callHardware target operation arguments
  | .bus target operation => world.callBus target operation arguments
  | .token target id => world.unsubscribe target (.token target id)
  | .table target operation => world.callTable target operation arguments
  | .handle target operation => world.callHandle target operation arguments
  | .scheduler target operation => world.callScheduler target operation arguments
  | .dispatcher target operation => world.callDispatcher target operation arguments
  | .bridge target operation => world.callBridge target operation arguments
  | .scroller target operation => world.callScroller target operation arguments
  | .board target operation => world.callBoard target operation arguments
  | .keeperClose target => (world, .value (.awaitable (.closeKeeper target)))
  | .registry target operation => world.callRegistry target operation arguments
  | .eventRecord event => world.answer (.ok (.dict event.record))
  | .now _ => world.answer (.ok (.float world.now))
  | .sleep _ => (world, .value (.awaitable (.sleep (arguments.get 0 "ms"))))
  | .function function =>
    let (world, reply) := world.callFunction function arguments
    world.answer reply

/-- A recorder writes down what it is called with, which has to be an event. -/
def deliver (world : World) (label : String) (event : Value) : World × Focus :=
  match event with
  | .event event _ => (world.observe (.delivered label event), .nothing)
  | other => world.answer (.complain (.noAttribute other.typeName "as_dict"))

/-- Calls a value that is not a callback of a script. -/
def callValue (world : World) (target : Value) (arguments : Arguments) : World × Focus :=
  match target with
  | .method method => world.callMethod method arguments
  | .token bus id => world.unsubscribe bus (.token bus id)
  | .recorder label => world.deliver label (arguments.get 0 "event")
  | .type className =>
    let (world, reply) := world.construct className arguments
    world.answer reply
  | other => world.answer (.complain (.notCallable other.typeName))

end Microboard.World
