import Microboard.Value.Coercion
import Microboard.World

/-!
# Properties

What can be read off a value by name: fields of records, properties of objects, and
the operations of objects, bound to them.
-/

namespace Microboard

def Whole.value : Whole → Value
  | .flag value => .bool value
  | .number value => .int value

def Number.value : Number → Value
  | .whole value => .int value
  | .real value => .float value

def textTuple (names : List String) : Value :=
  .tuple (names.map .str)

def Glyph.value (glyph : Glyph) : Value :=
  .tuple (glyph.map fun row => .tuple (row.map .bool))

def Event.record : Event → Entries
  | .pinChange pin value kind =>
    [(.str "type", .str "pin-change"), (.str "pin", .str pin), (.str "value", .int value),
     (.str "pinType", .str kind.name)]
  | .ledChange x y value =>
    [(.str "type", .str "led-change"), (.str "x", x.value), (.str "y", y.value),
     (.str "value", .int value)]
  | .buttonPress button =>
    [(.str "type", .str "button-press"), (.str "button", .str button.name)]
  | .reset => [(.str "type", .str "reset")]

def Event.property? (event : Event) (name : String) : Option Value :=
  match event, name with
  | event, "type" => some (.str event.type)
  | event, "as_dict" => some (.method (.eventRecord event))
  | .pinChange pin _ _, "pin" => some (.str pin)
  | .pinChange _ value _, "value" => some (.int value)
  | .pinChange _ _ kind, "kind" => some (.pinKind kind)
  | .ledChange x _ _, "x" => some x.value
  | .ledChange _ y _, "y" => some y.value
  | .ledChange _ _ value, "value" => some (.int value)
  | .buttonPress button, "button" => some (.button button)
  | _, _ => none

def Snapshot.property? (snapshot : Snapshot) (identity : Nat) : String → Option Value
  | "pins" =>
    some (.dict (snapshot.pins.map fun entry => (.str entry.1, .levels entry.2 identity)))
  | "leds" => some (Glyph.value snapshot.leds)
  | "buttons" =>
    some (.dict (Button.all.map fun button =>
      (.str button.name, .bool (snapshot.buttons.get button))))
  | _ => none

def PinsConfig.property? (pins : PinsConfig) : String → Option Value
  | "prefix" => some (.str pins.stem)
  | "count" => some (.int pins.count)
  | "pin_ids" => some (textTuple pins.pinIds)
  | _ => none

def DisplayConfig.property? (display : DisplayConfig) : String → Option Value
  | "width" => some (.int display.width)
  | "height" => some (.int display.height)
  | _ => none

def TimingConfig.property? (timing : TimingConfig) : String → Option Value
  | "forever_interval_ms" => some timing.forever.value
  | "scroll_interval_ms" => some timing.scroll.value
  | _ => none

def BoardConfig.property? (config : BoardConfig) : String → Option Value
  | "board_name" => some (.str config.boardName)
  | "pins" => some (.pinsConfig config.pins)
  | "display" => some (.displayConfig config.display)
  | "buttons" => some (textTuple config.buttons)
  | "timing" => some (.timingConfig config.timing)
  | _ => none

/-- What is known about a fault beyond its message. -/
def Fault.details? : Fault → Option Entries
  | .simulator _ details => some details
  | .configuration _ _ details => some details
  | .invalidPin pin details => some (Value.insertEntry details (.str "pin") pin)
  | .outOfRange x y _ _ details =>
    some (Value.insertEntry (Value.insertEntry details (.str "x") x) (.str "y") y)
  | .handleDestroyed id => some [(.str "handle_id", id)]
  | .callbackFailure id kind _ => some [(.str "handle_id", id), (.str "kind", kind)]
  | _ => none

def Fault.property? (fault : Fault) (name : String) : Option Value :=
  match fault, name with
  | fault, "details" => fault.details?.map .dict
  | .configuration key _ _, "config_key" => some key
  | .invalidPin pin _, "pin" => some pin
  | .outOfRange x _ _ _ _, "x" => some x
  | .outOfRange _ y _ _ _, "y" => some y
  | .handleDestroyed id, "handle_id" => some id
  | .callbackFailure id _ _, "handle_id" => some id
  | .callbackFailure _ kind _, "kind" => some kind
  | .callbackFailure _ _ cause, "cause" => some cause
  | _, _ => none

def HardwareMethod.ofName? : String → Option HardwareMethod
  | "set_digital" => some .setDigital
  | "set_analog" => some .setAnalog
  | "get_digital" => some .getDigital
  | "get_analog" => some .getAnalog
  | "set_led" => some .setLed
  | "get_led" => some .getLed
  | "clear_leds" => some .clearLeds
  | "set_button" => some .setButton
  | "get_button" => some .getButton
  | "reset" => some .reset
  | "snapshot" => some .snapshot
  | _ => none

def BusMethod.ofName? : String → Option BusMethod
  | "subscribe" => some .subscribe
  | "unsubscribe" => some .unsubscribe
  | "is_subscribed" => some .isSubscribed
  | "publish" => some .publish
  | "clear" => some .clear
  | _ => none

def TableMethod.ofName? : String → Option TableMethod
  | "create" => some .create
  | "get" => some .get
  | "destroy" => some .destroy
  | "destroy_all" => some .destroyAll
  | _ => none

def SchedulerMethod.ofName? : String → Option SchedulerMethod
  | "register" => some .register
  | "cancel" => some .cancel
  | "cancel_all" => some .cancelAll
  | "wait_idle" => some .waitIdle
  | _ => none

def DispatcherMethod.ofName? : String → Option DispatcherMethod
  | "register" => some .register
  | "handlers" => some .handlers
  | "unregister" => some .unregister
  | "is_pressed" => some .isPressed
  | "press" => some .press
  | "wait_idle" => some .waitIdle
  | "clear" => some .clear
  | "reset" => some .reset
  | _ => none

def BridgeMethod.ofName? : String → Option BridgeMethod
  | "digital_write" => some .digitalWrite
  | "digital_read" => some .digitalRead
  | "analog_write" => some .analogWrite
  | "analog_read" => some .analogRead
  | "plot" => some .plot
  | "unplot" => some .unplot
  | "point" => some .point
  | "clear_screen" => some .clearScreen
  | "on_button_pressed" => some .onButtonPressed
  | "button_is_pressed" => some .buttonIsPressed
  | "clear_button_handlers" => some .clearButtonHandlers
  | "show_string" => some .showString
  | "forever" => some .forever
  | "pause" => some .pause
  | "reset" => some .reset
  | _ => none

def RegistryMethod.ofName? : String → Option RegistryMethod
  | "register" => some .register
  | "board_class" => some .boardClass
  | "names" => some .names
  | "create" => some .create
  | _ => none

/-- The operations that one group of the interpreter's module offers. -/
def Space.operation? : Space → String → Option BridgeMethod
  | .pins, "digital_write_pin" => some .digitalWrite
  | .pins, "digital_read_pin" => some .digitalRead
  | .pins, "analog_write_pin" => some .analogWrite
  | .pins, "read_analog_pin" => some .analogRead
  | .led, "plot" => some .plot
  | .led, "unplot" => some .unplot
  | .led, "point" => some .point
  | .input, "on_button_pressed" => some .onButtonPressed
  | .input, "button_is_pressed" => some .buttonIsPressed
  | .input, "_clear" => some .clearButtonHandlers
  | .basic, "show_string" => some .showString
  | .basic, "forever" => some .forever
  | .basic, "pause" => some .pause
  | .basic, "clear_screen" => some .clearScreen
  | .basic, "reset" => some .reset
  | _, _ => none

def moduleEntries (bridge : Ref .bridge) : Entries :=
  [(.str "pins", .space bridge .pins), (.str "led", .space bridge .led),
   (.str "input", .space bridge .input), (.str "basic", .space bridge .basic),
   (.str "Button", .type .button), (.str "DigitalPin", .space bridge .pinNames)]

namespace World

def hardwareProperty? (world : World) (target : Ref .hardware) (name : String) :
    Option Value :=
  let hardware := world.hardwares.get target
  match name with
  | "pin_ids" => some (textTuple hardware.pinIds)
  | "width" => some (.int hardware.width)
  | "height" => some (.int hardware.height)
  | _ => (HardwareMethod.ofName? name).map fun operation => .method (.hardware target operation)

def busProperty? (world : World) (target : Ref .bus) (name : String) : Option Value :=
  match name with
  | "subscriber_count" => some (.int (world.buses.get target).subscribers.length)
  | _ => (BusMethod.ofName? name).map fun operation => .method (.bus target operation)

def tokenProperty? (world : World) (bus : Ref .bus) (id : Nat) (name : String) :
    Option Value :=
  match name with
  | "id" => some (.int id)
  | "bus" => some (.bus bus)
  | "active" => some (.bool ((world.buses.get bus).isSubscribed id))
  | "unsubscribe" => some (.method (.token bus id))
  | _ => none

def handleProperty? (world : World) (target : Ref .handle) (name : String) :
    Option Value :=
  let handle := world.handles.get target
  match name with
  | "id" => some (.int handle.id)
  | "kind" => some (.str handle.kind)
  | "state" => some (.lifecycle handle.stage)
  | "active" => some (.bool handle.isActive)
  | "destroyed" => some (.bool handle.isDestroyed)
  | "failure_count" => some (.int handle.failures)
  | "last_failure" => some handle.lastFailure
  | "activate" => some (.method (.handle target .activate))
  | "invoke" => some (.method (.handle target .invoke))
  | "record_failure" => some (.method (.handle target .recordFailure))
  | _ => none

def activeHandles (world : World) (target : Ref .table) : List (Ref .handle) :=
  (world.tables.get target).handles.filter fun handle => (world.handles.get handle).isActive

def schedulerProperty? (world : World) (target : Ref .scheduler) (name : String) :
    Option Value :=
  let scheduler := world.schedulers.get target
  match name with
  | "interval_ms" => some scheduler.interval
  | "active_handles" => some (.list ((world.activeHandles scheduler.table).map .handle))
  | _ => (SchedulerMethod.ofName? name).map fun operation => .method (.scheduler target operation)

def boardProperty? (world : World) (target : Ref .board) (name : String) : Option Value :=
  let board := world.boards.get target
  match name with
  | "name" => some (.str "micro:bit")
  | "config" => some (.boardConfig board.config board.identity)
  | "clock" => some (.clock board.clock)
  | "bridge" => some (.bridge board.bridge)
  | "state" => some (.hardware board.hardware)
  | "events" => some (.bus board.bus)
  | "scheduler" => some (.scheduler board.scheduler)
  | "buttons" => some (.dispatcher board.dispatcher)
  | "subscribe" => some (.method (.board target .subscribe))
  | "snapshot" => some (.method (.board target .snapshot))
  | "press_button" => some (.method (.board target .pressButton))
  | "reset" => some (.method (.board target .reset))
  | "aclose" => some (.method (.board target .close))
  | "python_module" => some (.method (.board target .scriptModule))
  | _ => none

def keeperProperty? (world : World) (target : Ref .keeper) (name : String) :
    Option Value :=
  let keeper := world.keepers.get target
  match name with
  | "kwargs" => some (.dict (keeper.arguments.map fun entry => (.str entry.1, entry.2)))
  | "closed" => some (.bool keeper.closed)
  | "aclose" => some (.method (.keeperClose target))
  | _ => none

def spaceProperty? (world : World) (bridge : Ref .bridge) (space : Space)
    (name : String) : Option Value :=
  match space with
  | .pinNames =>
    if (world.hardwares.get (world.bridges.get bridge).hardware).pinIds.contains name then
      some (.str name)
    else none
  | _ => (space.operation? name).map fun operation => .method (.bridge bridge operation)

/-- What can be read off a value by name, if it has such a thing. -/
def property? (world : World) (value : Value) (name : String) : Option Value :=
  match value with
  | .event event _ => event.property? name
  | .levels levels _ =>
    match name with
    | "digital" => some (.int levels.digital)
    | "analog" => some (.int levels.analog)
    | _ => none
  | .snapshot snapshot identity => snapshot.property? identity name
  | .boardConfig config _ => config.property? name
  | .pinsConfig config => config.property? name
  | .displayConfig config => config.property? name
  | .timingConfig config => config.property? name
  | .fault fault _ => fault.property? name
  | .button button =>
    if name = "name" || name = "value" then some (.str button.name)
    else (Button.ofName? name).map .button
  | .pinKind kind =>
    match name with
    | "name" => some (.str kind.label)
    | "value" => some (.str kind.name)
    | _ => none
  | .type .button => (Button.ofName? name).map .button
  | .space bridge space => world.spaceProperty? bridge space name
  | .clock clock =>
    match name with
    | "now_ms" => some (.method (.now clock))
    | "sleep" => some (.method (.sleep clock))
    | _ => none
  | .hardware target => world.hardwareProperty? target name
  | .bus target => world.busProperty? target name
  | .token bus id => world.tokenProperty? bus id name
  | .table target =>
    (TableMethod.ofName? name).map fun operation => .method (.table target operation)
  | .handle target => world.handleProperty? target name
  | .scheduler target => world.schedulerProperty? target name
  | .dispatcher target =>
    (DispatcherMethod.ofName? name).map fun operation => .method (.dispatcher target operation)
  | .bridge target =>
    (BridgeMethod.ofName? name).map fun operation => .method (.bridge target operation)
  | .scroller target =>
    match name with
    | "frames" => some (.method (.scroller target .frames))
    | "scroll" => some (.method (.scroller target .scroll))
    | _ => none
  | .board target => world.boardProperty? target name
  | .registry target =>
    (RegistryMethod.ofName? name).map fun operation => .method (.registry target operation)
  | .keeper target => world.keeperProperty? target name
  | _ => none

def missing (world : World) (value : Value) (name : String) : Complaint :=
  match value with
  | .keeper target => .noAttribute (world.keepers.get target).className name
  | .type .button => .noMember name
  | .type className => .noClassAttribute className.name name
  | other => .noAttribute other.typeName name

/-- Reads a property; the entries of a dictionary are read in the same way. -/
def property (world : World) (value : Value) (name : String) : Reply :=
  match value with
  | .dict entries =>
    match Value.lookup? entries (.str name) with
    | some found => .ok found
    | none => .error (.raised .key [.str name])
  | other =>
    match world.property? other name with
    | some found => .ok found
    | none => .complain (world.missing other name)

end World

end Microboard
