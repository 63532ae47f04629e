import Microboard.Value.Coercion
import Microboard.World

/-!
# Views of values

How references read in messages, and what an observer sees of a value at one moment.
A list of nothing but truth values is seen as a row of cells.
-/

namespace Microboard

def cellText (cells : List Bool) : String :=
  String.ofList (cells.map fun lit => if lit then '#' else '.')

def cellView (cells : List Bool) : View :=
  if cells.isEmpty then .array [] else .text (cellText cells)

def Number.view : Number → View
  | .whole value => .int value
  | .real value => .real value

def PinsConfig.view (pins : PinsConfig) : View :=
  .object [("prefix", .text pins.stem), ("count", .int pins.count)]

def DisplayConfig.view (display : DisplayConfig) : View :=
  .object [("width", .int display.width), ("height", .int display.height)]

def TimingConfig.view (timing : TimingConfig) : View :=
  .object [("forever_interval_ms", timing.forever.view),
    ("scroll_interval_ms", timing.scroll.view)]

def BoardConfig.view (config : BoardConfig) : View :=
  .object [("board_name", .text config.boardName), ("pins", config.pins.view),
    ("display", config.display.view), ("buttons", .array (config.buttons.map .text)),
    ("timing", config.timing.view)]

/-- Pins in order, columns of the matrix, latches by name. -/
def Snapshot.view (snapshot : Snapshot) : View :=
  .object
    [("pins", .array (snapshot.pins.map fun entry =>
        .array [.text entry.1, .int entry.2.digital, .int entry.2.analog])),
     ("leds", .array (snapshot.leds.map cellView)),
     ("buttons", .object (Button.all.map fun button =>
        (button.name, .bool (snapshot.buttons.get button))))]

def cells? : List Value → Option (List Bool)
  | [] => some []
  | .bool lit :: rest => (cells? rest).map (lit :: ·)
  | _ => none

namespace World

def tokenText (world : World) (bus : Ref .bus) (id : Nat) : String :=
  "Subscription(id=" ++ toString id ++ ", active=" ++
    (if (world.buses.get bus).isSubscribed id then "True" else "False") ++ ")"

/-- A reference in messages. -/
def describe (world : World) : Value → String
  | .handle target => (world.handles.get target).text
  | .token bus id => world.tokenText bus id
  | .type name => "<class '" ++ name.name ++ "'>"
  | other => other.bareText

def objectName (world : World) : Value → String
  | .keeper target => (world.keepers.get target).className
  | .space .. => "SimpleNamespace"
  | other => other.typeName

def faultView (world : World) (fault : Fault) : View :=
  .object [("error", .text fault.kind.name), ("message", .text (fault.text world.describe))]

mutual

def view (world : World) : Value → View
  | .none => .null
  | .bool value => .bool value
  | .int value => .int value
  | .float value => .real value
  | .str value => .text value
  | .list items =>
    match cells? items with
    | some cells => cellView cells
    | none => .array (viewItems world items)
  | .tuple items =>
    match cells? items with
    | some cells => cellView cells
    | none => .array (viewItems world items)
  | .dict entries => .object (viewEntries world entries)
  | .button button => .text button.name
  | .pinKind kind => .text kind.name
  | .lifecycle stage => .text stage.name
  | .event event _ => .text event.text
  | .levels levels _ => .text levels.text
  | .snapshot snapshot _ => snapshot.view
  | .boardConfig config _ => config.view
  | .pinsConfig config => config.view
  | .displayConfig config => config.view
  | .timingConfig config => config.view
  | .fault fault _ => world.faultView fault
  | .type name => .object [("class", .text name.name)]
  | .handle target => .text (world.handles.get target).text
  | .token bus id => .text (world.tokenText bus id)
  | other => .object [("object", .text (world.objectName other))]

def viewItems (world : World) : List Value → List View
  | [] => []
  | item :: rest => world.view item :: viewItems world rest

def viewEntries (world : World) : List (Value × Value) → List (String × View)
  | [] => []
  | (key, value) :: rest =>
    (key.text world.describe, world.view value) :: viewEntries world rest

end

def viewReply (world : World) : Reply → View
  | .ok value => world.view value
  | .error fault => world.faultView fault

end World

end Microboard
