import Microboard.Value.Text

/-!
# Values without a text

Writing a value out can fail: integers of too many digits have no text, and an object
of a script may refuse to give one. The exact form and the plain form of a value fail
alike. The numbers of handles and subscriptions are counted up one by one and are
never too long. What the library says about a pin, a button or a coordinate is taken
to have a text, and so is a task.
-/

namespace Microboard

/-- What writing out an integer of more than 4300 digits raises. -/
def digitsFault? (value : Int) : Option Fault :=
  if Nat.pow (Nat.pow 10 100) 43 ≤ value.natAbs then some (.complaint .tooManyDigits) else none

def Whole.textFault? : Whole → Option Fault
  | .flag _ => none
  | .number value => digitsFault? value

def Number.textFault? : Number → Option Fault
  | .whole value => digitsFault? value
  | .real _ => none

def Event.textFault? : Event → Option Fault
  | .pinChange _ value _ => digitsFault? value
  | .ledChange x y value => x.textFault? <|> y.textFault? <|> digitsFault? value
  | .buttonPress _ | .reset => none

def PinLevels.textFault? (levels : PinLevels) : Option Fault :=
  digitsFault? levels.digital <|> digitsFault? levels.analog

def Snapshot.textFault? (snapshot : Snapshot) : Option Fault :=
  snapshot.pins.findSome? fun entry => entry.2.textFault?

def PinsConfig.textFault? (pins : PinsConfig) : Option Fault :=
  digitsFault? pins.count

def DisplayConfig.textFault? (display : DisplayConfig) : Option Fault :=
  digitsFault? display.width <|> digitsFault? display.height

def TimingConfig.textFault? (timing : TimingConfig) : Option Fault :=
  timing.forever.textFault? <|> timing.scroll.textFault?

def BoardConfig.textFault? (config : BoardConfig) : Option Fault :=
  config.pins.textFault? <|> config.display.textFault? <|> config.timing.textFault?

mutual

/-- What writing out a value raises, if it raises. -/
def Value.textFault? : Value → Option Fault
  | .int value => digitsFault? value
  | .list items | .tuple items => itemsTextFault? items
  | .dict entries => entriesTextFault? entries
  | .event event _ => event.textFault?
  | .levels levels _ => levels.textFault?
  | .snapshot snapshot _ => snapshot.textFault?
  | .boardConfig config _ => config.textFault?
  | .pinsConfig config => config.textFault?
  | .displayConfig config => config.textFault?
  | .timingConfig config => config.textFault?
  | .fault fault _ => fault.textFault?
  | .unwritable fault => some fault
  | _ => none

def itemsTextFault? : List Value → Option Fault
  | [] => none
  | item :: rest => item.textFault? <|> itemsTextFault? rest

def entriesTextFault? : List (Value × Value) → Option Fault
  | [] => none
  | (key, value) :: rest =>
    key.textFault? <|> value.textFault? <|> entriesTextFault? rest

/-- What writing out a fault raises. The message of a fault with fields of its own has
been written when it was made. -/
def Fault.textFault? : Fault → Option Fault
  | .raised _ args => itemsTextFault? args
  | .simulator message _ => message.textFault?
  | _ => none

end

namespace Fault

/-- What writing the message of a fault with fields of its own raises. -/
def messageFault? : Fault → Option Fault
  | configuration key message _ => key.textFault? <|> message.textFault?
  | invalidPin pin _ => pin.textFault?
  | outOfRange x y width height _ =>
    x.textFault? <|> y.textFault? <|> digitsFault? (width - 1) <|> digitsFault? (height - 1)
  | handleDestroyed id => id.textFault?
  | callbackFailure id kind cause => kind.textFault? <|> id.textFault? <|> cause.textFault?
  | _ => none

/-- What gets past an operation that isolates failures: a fault that is not ordinary, and
for an ordinary one what writing it out raises. -/
def escape? (fault : Fault) : Option Fault :=
  if fault.isOrdinary then fault.textFault? else some fault

end Fault

/-- A form of a value as a reply, if the value can be written out. -/
def Value.written (value : Value) (form : Value → String) : Reply :=
  match value.textFault? with
  | some cause => .error cause
  | Option.none => .ok (.str (form value))

end Microboard
