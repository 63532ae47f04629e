import Microboard.Value.Coercion

/-!
# Reading a configuration

A raw mapping becomes the configuration of a board: sections and keys are looked up,
every field is converted, and the converted fields are checked. The checks are made
in a fixed order and the first one that fails is reported.
-/

namespace Microboard

/-- A field whose converted value is not acceptable. -/
inductive BadField where
  | pinCount
  | pinStem
  | display
  | buttons
  | timing
deriving DecidableEq, Repr

namespace BadField

/-- Where the field stands in the raw mapping. -/
def path : BadField → String
  | pinCount => "pins.count"
  | pinStem => "pins.prefix"
  | display => "display"
  | buttons => "buttons"
  | timing => "timing"

def demand : BadField → String
  | pinCount => "must be positive"
  | pinStem => "must not be empty"
  | display => "LED matrix must be 5x5"
  | buttons => "must list exactly ['A', 'B']"
  | timing => "intervals must be >= 0"

end BadField

/-- Why there is no configuration: the file cannot be found or read, a value has no text or
cannot be converted, or a field is not acceptable. -/
inductive ConfigProblem where
  | misplaced (cause : Complaint)
  | unreadable
  | notAMapping
  | missingKey (key : String)
  | untold (fault : Fault)
  | complaint (cause : Complaint)
  | badField (field : BadField)

def configurationFault (message : String) : Fault :=
  .configuration (.str "configuration") (.str message) []

namespace Fault

/-- What the message of a configuration fault begins with that a fault of some kind
becomes. -/
def heading? (fault : Fault) : Option String :=
  match fault.kind with
  | .error .key => some "Missing required config key: "
  | .error .type | .error .value => some "Invalid config schema: "
  | _ => none

/-- What a fault becomes that is raised while the fields are looked up and converted. A
missing key and what is of a wrong type or value is a fault of the configuration, if the
message can be written; any other fault stays what it is. -/
def reported (fault : Fault) : Fault :=
  match fault.heading?, fault.textFault? with
  | some heading, none => configurationFault (heading ++ fault.message)
  | some _, some cause => cause
  | none, _ => fault

end Fault

def ConfigProblem.fault : ConfigProblem → Fault
  | misplaced cause => .complaint cause
  | unreadable => configurationFault "Failed to parse config"
  | notAMapping => configurationFault "Config root must be a mapping"
  | missingKey key => (Fault.raised .key [.str key]).reported
  | untold fault => fault.reported
  | complaint cause => (Fault.complaint cause).reported
  | badField field => .configuration (.str field.path) (.str field.demand) []

abbrev ConfigResult := Except ConfigProblem

def ConfigResult.convert {α : Type} : Except Complaint α → ConfigResult α
  | .ok value => .ok value
  | .error cause => .error (.complaint cause)

/-- The value under a key; only a mapping has one. -/
def Value.section? (container : Value) (key : String) : ConfigResult Value :=
  match container with
  | .dict entries =>
    match lookup? entries (.str key) with
    | some value => .ok value
    | Option.none => .error (.missingKey key)
  | .list _ | .tuple _ => .error (.complaint (.badSubscript container.typeName "str"))
  | other =>
    match other.word? with
    | some _ => .error (.complaint (.badSubscript "str" "str"))
    | Option.none => .error (.complaint (.notSubscriptable other.typeName))

/-- The text of a value, if it can be written out. -/
def Value.toText (value : Value) : ConfigResult String :=
  match value.textFault? with
  | some cause => .error (.untold cause)
  | Option.none => .ok value.plain

def Value.option (container : Value) (key : String) (standard : Value) :
    ConfigResult Value :=
  match container with
  | .dict entries => .ok ((lookup? entries (.str key)).getD standard)
  | other => .error (.complaint (.noAttribute other.typeName "get"))

namespace BoardConfig

def buttonNames : List String :=
  Button.all.map Button.name

/-- The names that are used when no buttons are listed. -/
def standardButtons : Value :=
  .list (buttonNames.map .str)

def readTiming (raw : Value) : ConfigResult TimingConfig := do
  let given ← raw.option "timing" .none
  let timing := if given.truthy then given else .dict []
  let forever ← timing.option "forever_interval_ms" (.int 20)
  let forever ← ConfigResult.convert forever.toReal
  let scroll ← timing.option "scroll_interval_ms" (.int 150)
  let scroll ← ConfigResult.convert scroll.toReal
  return ⟨.real forever, .real scroll⟩

/-- Looks up and converts every field, without judging the results. -/
def convert (raw : Value) : ConfigResult BoardConfig := do
  let pins ← raw.section? "pins"
  let display ← raw.section? "display"
  let boardName ← raw.section? "board_name"
  let boardName ← boardName.toText
  let stem ← pins.section? "prefix"
  let stem ← stem.toText
  let count ← pins.section? "count"
  let count ← ConfigResult.convert count.toInteger
  let width ← display.section? "width"
  let width ← ConfigResult.convert width.toInteger
  let height ← display.section? "height"
  let height ← ConfigResult.convert height.toInteger
  let buttons ← raw.option "buttons" standardButtons
  let buttons ← ConfigResult.convert buttons.members
  let buttons ← buttons.mapM Value.toText
  let timing ← readTiming raw
  return ⟨boardName, ⟨stem, count⟩, ⟨width, height⟩, buttons, timing⟩

/-- Whether a list names the known buttons and no others, and is not longer than that. -/
def listsButtons (names : List String) : Bool :=
  names.all (buttonNames.contains ·) && buttonNames.all (names.contains ·) &&
    names.length == buttonNames.length

def badField? (config : BoardConfig) : Option BadField :=
  if config.pins.count ≤ 0 then some .pinCount
  else if config.pins.stem.isEmpty then some .pinStem
  else if config.display ≠ ⟨Glyph.height, Glyph.height⟩ then some .display
  else if !listsButtons config.buttons then some .buttons
  else if config.timing.forever.isNegative || config.timing.scroll.isNegative then
    some .timing
  else none

def ofValue (raw : Value) : ConfigResult BoardConfig := do
  let config ← convert raw
  match config.badField? with
  | some field => .error (.badField field)
  | none => .ok config

end BoardConfig

end Microboard
