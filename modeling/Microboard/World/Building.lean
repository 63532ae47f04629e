import Microboard.World.Board
import Microboard.World.Configs
import Microboard.World.Property

/-!
# Building objects

What calling a class gives: parts of boards, whole boards, records, faults and
keepers, and boards that are created by the name of their class.
-/

namespace Microboard

def Value.entriesOr : Value → Entries
  | dict entries => entries
  | _ => []

def Value.wholeOr (standard : Int) (value : Option Value) : Int :=
  match value with
  | some given => match given.index with
    | .ok number => number
    | .error _ => standard
  | Option.none => standard

/-- A picture given as rows of truth values. -/
def Value.glyph? : Value → Option Glyph
  | list rows | tuple rows => rows.mapM fun row =>
    match row with
    | list cells | tuple cells => cells? cells
    | _ => Option.none
  | _ => Option.none

/-- A map of pictures, which may be given as a dictionary from characters to pictures. -/
def Value.glyphMap? : Value → Option GlyphMap
  | glyphs map => some map
  | dict entries => entries.mapM fun entry =>
    entry.1.word?.bind fun char => entry.2.glyph?.map (char, ·)
  | _ => Option.none

def Fault.make (kind : FaultKind) (arguments : Arguments) : Fault :=
  match kind with
  | .error kind => .raised kind arguments.positional
  | .simulator =>
    .simulator (arguments.get 0 "message") (arguments.get 1 "details").entriesOr
  | .configuration =>
    let key := arguments.get 0 "config_key"
    let details := (arguments.get 2 "details").entriesOr
    match arguments.get 1 "message" with
    | .none =>
      .configuration (.str "configuration")
        (if key.truthy then key else .str "Invalid configuration") details
    | message =>
      .configuration (match key with | .none => .str "configuration" | key => key) message
        details
  | .invalidPin => .invalidPin (arguments.get 0 "pin") (arguments.get 1 "details").entriesOr
  | .outOfRange =>
    .outOfRange (arguments.get 0 "x") (arguments.get 1 "y")
      (Value.wholeOr 5 (arguments.find? 2 "width"))
      (Value.wholeOr 5 (arguments.find? 3 "height")) (arguments.get 4 "details").entriesOr
  | .handleDestroyed => .handleDestroyed (arguments.get 0 "handle_id")
  | .callbackFailure =>
    .callbackFailure (arguments.get 0 "handle_id") (arguments.get 1 "kind")
      (arguments.get 2 "cause")

/-- A number of milliseconds, or nothing for what cannot be compared with zero. -/
def checkInterval (interval : Value) : Except Complaint Value :=
  match interval.number? with
  | none => .error (.notOrdered "<" interval.typeName "int")
  | some number => if number.isNegative then .error .negativeInterval else .ok interval

/-- An event of a class, made from arguments. -/
def Event.make? (className : ClassName) (arguments : Arguments) : Option Event :=
  let number := fun place name => Value.wholeOr 0 (arguments.find? place name)
  let whole := fun place name =>
    match (arguments.get place name).whole with
    | .ok value => value
    | .error _ => .number 0
  match className with
  | .pinChange =>
    let kind := match arguments.get 2 "kind" with
      | .pinKind kind => kind
      | _ => .digital
    some (.pinChange (arguments.get 0 "pin").plain (number 1 "value") kind)
  | .ledChange => some (.ledChange (whole 0 "x") (whole 1 "y") (number 2 "value"))
  | .buttonPress =>
    match arguments.get 0 "button" with
    | .button button => some (.buttonPress button)
    | other => (Button.ofName? other.plain).map .buttonPress
  | .reset => some .reset
  | _ => none

namespace World

/-- Pins are called by texts; the name of any other value is its text. -/
def buildHardware (world : World) (pins width height : Value) :
    World × Except Fault (Ref .hardware) :=
  match pins.members, width.index, height.index with
  | .error cause, _, _ | _, .error cause, _ | _, _, .error cause =>
    (world, .error (.complaint cause))
  | .ok pins, .ok width, .ok height =>
    if pins.isEmpty then (world, .error (.complaint .noPins))
    else
      let (world, hardware) :=
        world.newHardware (Hardware.initial (pins.map Value.plain) width height)
      (world, .ok hardware)

def buildScheduler (world : World) (clock : Clock) (interval : Value) :
    World × Except Fault (Ref .scheduler) :=
  match checkInterval interval with
  | .error cause => (world, .error (.complaint cause))
  | .ok interval =>
    let (world, scheduler) := world.newScheduler clock interval
    (world, .ok scheduler)

def buildBoard (world : World) (clock : Clock) (config : BoardConfig) (identity : Nat) :
    World × Except Fault (Ref .board) :=
  match world.buildHardware (textTuple config.pins.pinIds) (.int config.display.width)
      (.int config.display.height) with
  | (world, .error fault) => (world, .error fault)
  | (world, .ok hardware) =>
    let (world, bus) := world.newBus
    match world.buildScheduler clock config.timing.forever.value with
    | (world, .error fault) => (world, .error fault)
    | (world, .ok scheduler) =>
      let (world, dispatcher) := world.newDispatcher hardware bus
      let (world, bridge) :=
        world.newBridge hardware bus clock scheduler dispatcher config.timing.scroll.value
      ({ world with
          boards := world.boards.push
            ⟨config, identity, clock, hardware, bus, scheduler, dispatcher, bridge⟩ },
        .ok world.boards.fresh)

def built {component : Component} (record : Ref component → Value) :
    World × Except Fault (Ref component) → World × Reply
  | (world, .ok target) => (world, .ok (record target))
  | (world, .error fault) => (world, .error fault)

def clockOf : Value → Clock
  | .clock clock => clock
  | _ => .wall

/-- Builds a board from a configuration, from a file or from the bundled one. -/
def constructBoard (world : World) (arguments : Arguments) : World × Reply :=
  let clock := clockOf (arguments.get 0 "clock")
  match arguments.get 1 "config" with
  | .boardConfig config identity => built .board (world.buildBoard clock config identity)
  | .none =>
    match loadConfig Yaml.read? (.str "microbit") (arguments.get 2 "config_path") with
    | .error problem => (world, .error problem.fault)
    | .ok config =>
      let identity := world.identities
      built .board
        ({ world with identities := identity + 1 }.buildBoard clock config identity)
  | other => (world, .complain (.noAttribute other.typeName "pins"))

def construct (world : World) (className : ClassName) (arguments : Arguments) :
    World × Reply :=
  match className with
  | .hardware =>
    built .hardware (world.buildHardware (arguments.get 0 "pin_ids")
      ((arguments.find? 1 "width").getD (.int 5)) ((arguments.find? 2 "height").getD (.int 5)))
  | .bus =>
    let (world, bus) := world.newBus
    (world, .ok (.bus bus))
  | .table =>
    let (world, table) := world.newTable
    (world, .ok (.table table))
  | .scheduler =>
    built .scheduler (world.buildScheduler (clockOf (arguments.get 0 "clock"))
      ((arguments.find? 1 "interval_ms").getD (.int 20)))
  | .dispatcher =>
    match arguments.get 0 "state", arguments.get 1 "bus" with
    | .hardware hardware, .bus bus =>
      let (world, dispatcher) := world.newDispatcher hardware bus
      (world, .ok (.dispatcher dispatcher))
    | _, _ => (world, .ok .none)
  | .bridge =>
    match arguments.get 0 "state", arguments.get 1 "bus", arguments.get 3 "scheduler",
        arguments.get 4 "buttons" with
    | .hardware hardware, .bus bus, .scheduler scheduler, .dispatcher dispatcher =>
      let (world, bridge) := world.newBridge hardware bus (clockOf (arguments.get 2 "clock"))
        scheduler dispatcher ((arguments.find? 5 "scroll_interval_ms").getD (.int 150))
      (world, .ok (.bridge bridge))
    | _, _, _, _ => (world, .ok .none)
  | .scroller =>
    let surface := match arguments.get 0 "surface" with
      | .bridge bridge => Surface.matrix bridge
      | .panel label => .panel label
      | _ => .panel ""
    let glyphs := ((arguments.find? 4 "glyphs").bind Value.glyphMap?).getD Glyph.font
    let (world, scroller) := world.newScroller ⟨surface, clockOf (arguments.get 1 "clock"),
      Value.wholeOr 5 (arguments.find? 2 "width"),
      Value.wholeOr 5 (arguments.find? 3 "height"), glyphs⟩
    (world, .ok (.scroller scroller))
  | .board => world.constructBoard arguments
  | .wallClock => (world, .ok (.clock .wall))
  | .registry =>
    let (world, registry) := world.newRegistry
    (world, .ok (.registry registry))
  | .pinLevels =>
    let levels : PinLevels :=
      ⟨Value.wholeOr 0 (arguments.find? 0 "digital"),
        Value.wholeOr 0 (arguments.find? 1 "analog")⟩
    let (world, record) := world.withFresh (.levels levels)
    (world, .ok record)
  | .pinChange | .ledChange | .buttonPress | .reset =>
    match Event.make? className arguments with
    | none => (world, .ok .none)
    | some event =>
      let (world, record) := world.withFresh (.event event)
      (world, .ok record)
  | .boardConfig =>
    match arguments.get 1 "pins", arguments.get 2 "display", arguments.get 4 "timing" with
    | .pinsConfig pins, .displayConfig display, .timingConfig timing =>
      let buttons := match (arguments.get 3 "buttons").members with
        | .ok names => names.map Value.plain
        | .error _ => []
      let (world, record) := world.withFresh (.boardConfig
        ⟨(arguments.get 0 "board_name").plain, pins, display, buttons, timing⟩)
      (world, .ok record)
    | _, _, _ => (world, .ok .none)
  | .pinsConfig =>
    (world, .ok (.pinsConfig ⟨(arguments.get 0 "prefix").plain,
      Value.wholeOr 0 (arguments.find? 1 "count")⟩))
  | .displayConfig =>
    (world, .ok (.displayConfig ⟨Value.wholeOr 0 (arguments.find? 0 "width"),
      Value.wholeOr 0 (arguments.find? 1 "height")⟩))
  | .timingConfig =>
    let delay := fun place name standard =>
      match (arguments.find? place name).bind Value.number? with
      | some number => number
      | none => standard
    (world, .ok (.timingConfig ⟨delay 0 "forever_interval_ms" TimingConfig.standard.forever,
      delay 1 "scroll_interval_ms" TimingConfig.standard.scroll⟩))
  | .button =>
    match (arguments.get 0 "value").toButton with
    | .ok button => (world, .ok (.button button))
    | .error fault => (world, .error fault)
  | .fault kind =>
    let fault := Fault.make kind arguments
    match fault.messageFault? with
    | some other => (world, .error other)
    | none =>
      let (world, record) := world.withFresh (.fault fault)
      (world, .ok record)
  | .keeper name =>
    let (world, keeper) := world.newKeeper name arguments.named
    (world, .ok (.keeper keeper))

def registerBoard (world : World) (target : Ref .registry) (name className : Value) :
    World × Reply :=
  match (world.registries.get target).register name.plain className with
  | .error cause => (world, .complain cause)
  | .ok (registry, bound) =>
    let world := world.setRegistry target fun _ => registry
    (world.log .debug .board ("Registered board " ++ name.exact ++ " as " ++ bound.name),
      .nothing)

/-- Arguments with a configuration in the place of one that was left open. -/
def withConfigArgument (named : List (String × Value)) (config : Value) :
    List (String × Value) :=
  if named.any fun entry => entry.1 == "config" then
    named.map fun entry => if entry.1 == "config" then (entry.1, config) else entry
  else named ++ [("config", config)]

def isOpen (named : List (String × Value)) (name : String) : Bool :=
  match named.lookup name with
  | none | some .none => true
  | some _ => false

/-- Builds a board of the class that has been found under a name. -/
def buildNamed (world : World) (className : ClassName) (name : Value)
    (named : List (String × Value)) : World × Reply :=
  (world.log .debug .board ("Creating board " ++ name.exact)).construct className ⟨[], named⟩

/-- Builds a board with the configuration that has been found for it. -/
def buildWith (className : ClassName) (name : Value) (named : List (String × Value)) :
    World × Reply → World × Reply
  | (world, .ok config) => world.buildNamed className name (withConfigArgument named config)
  | (world, .error fault) => (world, .error fault)

/-- Builds a board by name. Unless a configuration or a file is given, it gets the
cached configuration with this name, for which the loader may be asked. -/
def createBoardFrom {m : Type → Type} [Monad m] (load : Value → m (ConfigResult BoardConfig))
    (world : World) (target : Ref .registry) (name : Value) (named : List (String × Value)) :
    m (World × Reply) :=
  match (world.registries.get target).boardClass name.plain with
  | .error cause => pure (world, .complain cause)
  | .ok className =>
    if isOpen named "config" && isOpen named "config_path" then do
      let found ← world.getConfigFrom load name
      return buildWith className name named found
    else pure (world.buildNamed className name named)

def createBoard (world : World) (target : Ref .registry) (name : Value)
    (named : List (String × Value)) : World × Reply :=
  Id.run <| world.createBoardFrom (fun name => pure (loadConfig Yaml.read? name .none)) target
    name named

end World

end Microboard
