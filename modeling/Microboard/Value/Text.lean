import Microboard.Decimal.Layout
import Microboard.Value

/-!
# The text of values

How values and faults read in messages. A value has an exact form, in which texts
are quoted, and a plain form, in which a text is itself.
-/

namespace Microboard

def flagText (value : Bool) : String :=
  if value then "True" else "False"

def Whole.text : Whole → String
  | .flag value => flagText value
  | .number value => toString value

def Number.text : Number → String
  | .whole value => toString value
  | .real value => Decimal.floatText value

def memberText (owner label name : String) : String :=
  "<" ++ owner ++ "." ++ label ++ ": " ++ Text.quoted name ++ ">"

def Event.text : Event → String
  | .pinChange pin value kind =>
    "PinChange(pin=" ++ Text.quoted pin ++ ", value=" ++ toString value ++ ", kind=" ++
      memberText "PinKind" kind.label kind.name ++ ")"
  | .ledChange x y value =>
    "LedChange(x=" ++ x.text ++ ", y=" ++ y.text ++ ", value=" ++ toString value ++ ")"
  | .buttonPress button =>
    "ButtonPress(button=" ++ memberText "Button" button.name button.name ++ ")"
  | .reset => "Reset()"

def PinLevels.text (levels : PinLevels) : String :=
  "PinState(digital=" ++ toString levels.digital ++ ", analog=" ++
    toString levels.analog ++ ")"

def PinsConfig.text (pins : PinsConfig) : String :=
  "PinsConfig(prefix=" ++ Text.quoted pins.stem ++ ", count=" ++ toString pins.count ++ ")"

def DisplayConfig.text (display : DisplayConfig) : String :=
  "DisplayConfig(width=" ++ toString display.width ++ ", height=" ++
    toString display.height ++ ")"

def TimingConfig.text (timing : TimingConfig) : String :=
  "TimingConfig(forever_interval_ms=" ++ timing.forever.text ++
    ", scroll_interval_ms=" ++ timing.scroll.text ++ ")"

/-- Parts between parentheses, where a single part keeps its comma. -/
def tupleText : List String → String
  | [part] => "(" ++ part ++ ",)"
  | parts => "(" ++ ", ".intercalate parts ++ ")"

/-- A mapping that cannot be changed, with quoted keys. -/
def proxyText (entries : List (String × String)) : String :=
  "mappingproxy(\x7b" ++
    ", ".intercalate (entries.map fun entry => Text.quoted entry.1 ++ ": " ++ entry.2) ++
    "\x7d)"

def Snapshot.text (snapshot : Snapshot) : String :=
  "BoardSnapshot(pins=" ++
    proxyText (snapshot.pins.map fun entry => (entry.1, entry.2.text)) ++ ", leds=" ++
    tupleText (snapshot.leds.map fun column => tupleText (column.map flagText)) ++
    ", buttons=" ++
    proxyText (Button.all.map fun button =>
      (button.name, flagText (snapshot.buttons.get button))) ++ ")"

def BoardConfig.text (config : BoardConfig) : String :=
  "BoardConfig(board_name=" ++ Text.quoted config.boardName ++ ", pins=" ++
    config.pins.text ++ ", display=" ++ config.display.text ++ ", buttons=" ++
    tupleText (config.buttons.map Text.quoted) ++ ", timing=" ++ config.timing.text ++ ")"

def Lifecycle.label : Lifecycle → String
  | .registered => "REGISTERED"
  | .active => "ACTIVE"
  | .destroyed => "DESTROYED"

mutual

/-- The exact form of a value; `describe` writes references to objects. -/
def Value.repr (describe : Value → String) : Value → String
  | .none => "None"
  | .bool value => flagText value
  | .int value => toString value
  | .float value => Decimal.floatText value
  | .str value => Text.quoted value
  | .list items => "[" ++ ", ".intercalate (reprItems describe items) ++ "]"
  | .tuple items => tupleText (reprItems describe items)
  | .dict entries => "\x7b" ++ ", ".intercalate (reprEntries describe entries) ++ "\x7d"
  | .button button => memberText "Button" button.name button.name
  | .pinKind kind => memberText "PinKind" kind.label kind.name
  | .lifecycle stage => memberText "HandleState" stage.label stage.name
  | .event event _ => event.text
  | .levels levels _ => levels.text
  | .snapshot snapshot _ => snapshot.text
  | .boardConfig config _ => config.text
  | .pinsConfig config => config.text
  | .displayConfig config => config.text
  | .timingConfig config => config.text
  | .fault fault _ => fault.repr describe
  | other => describe other

/-- The plain form of a value. -/
def Value.text (describe : Value → String) : Value → String
  | .str value => value
  | .button button => button.name
  | .pinKind kind => "PinKind." ++ kind.label
  | .lifecycle stage => "HandleState." ++ stage.label
  | .fault fault _ => fault.text describe
  | .none => "None"
  | .bool value => flagText value
  | .int value => toString value
  | .float value => Decimal.floatText value
  | .list items => "[" ++ ", ".intercalate (reprItems describe items) ++ "]"
  | .tuple items => tupleText (reprItems describe items)
  | .dict entries => "\x7b" ++ ", ".intercalate (reprEntries describe entries) ++ "\x7d"
  | .event event _ => event.text
  | .levels levels _ => levels.text
  | .snapshot snapshot _ => snapshot.text
  | .boardConfig config _ => config.text
  | .pinsConfig config => config.text
  | .displayConfig config => config.text
  | .timingConfig config => config.text
  | other => describe other

def reprItems (describe : Value → String) : List Value → List String
  | [] => []
  | item :: rest => item.repr describe :: reprItems describe rest

def reprEntries (describe : Value → String) : List (Value × Value) → List String
  | [] => []
  | (key, value) :: rest =>
    (key.repr describe ++ ": " ++ value.repr describe) :: reprEntries describe rest

/-- The message of a fault. A missing key is shown in its exact form. -/
def Fault.text (describe : Value → String) : Fault → String
  | .raised _ [] => ""
  | .raised .key [key] => key.repr describe
  | .raised _ [arg] => arg.text describe
  | .raised _ args => tupleText (reprItems describe args)
  | .complaint cause =>
    match cause.kind with
    | .key => Text.quoted cause.message
    | _ => cause.message
  | .simulator message _ => message.text describe
  | .configuration key message _ =>
    "Configuration error for '" ++ key.text describe ++ "': " ++ message.text describe
  | .invalidPin pin _ => "Invalid pin: " ++ pin.repr describe
  | .outOfRange x y width height _ =>
    "LED coordinate (" ++ x.text describe ++ ", " ++ y.text describe ++
      ") out of range [0-" ++ toString (width - 1) ++ "] x [0-" ++
      toString (height - 1) ++ "]"
  | .handleDestroyed id => "Callback handle " ++ id.text describe ++ " has been destroyed"
  | .callbackFailure id kind cause =>
    kind.text describe ++ " callback " ++ id.text describe ++ " failed: " ++
      cause.repr describe

def Fault.repr (describe : Value → String) : Fault → String
  | .raised kind args =>
    kind.name ++ "(" ++ ", ".intercalate (reprItems describe args) ++ ")"
  | .simulator message _ => "SimulatorError(" ++ message.repr describe ++ ")"
  | .complaint cause => cause.kind.name ++ "(" ++ Text.quoted cause.message ++ ")"
  | .configuration key message _ =>
    "ConfigurationError(" ++ Text.quoted ("Configuration error for '" ++
      key.text describe ++ "': " ++ message.text describe) ++ ")"
  | .invalidPin pin _ =>
    "InvalidPinError(" ++ Text.quoted ("Invalid pin: " ++ pin.repr describe) ++ ")"
  | .outOfRange x y width height _ =>
    "OutOfRangeError(" ++ Text.quoted ("LED coordinate (" ++ x.text describe ++ ", " ++
      y.text describe ++ ") out of range [0-" ++ toString (width - 1) ++ "] x [0-" ++
      toString (height - 1) ++ "]") ++ ")"
  | .handleDestroyed id =>
    "HandleDestroyedError(" ++ Text.quoted ("Callback handle " ++ id.text describe ++
      " has been destroyed") ++ ")"
  | .callbackFailure id kind cause =>
    "CallbackFailure(" ++ Text.quoted (kind.text describe ++ " callback " ++
      id.text describe ++ " failed: " ++ cause.repr describe) ++ ")"

end

def Value.bareText (value : Value) : String :=
  "<" ++ value.typeName ++ " object>"

def Fault.message (fault : Fault) : String :=
  fault.text Value.bareText

end Microboard
