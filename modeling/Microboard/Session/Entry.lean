import Microboard.Text.DoubleQuoted
import Microboard.World.Property
import Microboard.World.View

/-!
# Written observations

How the trace of a session is written down. Events are written as mappings or in one
line; log records below the chosen level are left out.
-/

namespace Microboard

/-- What is written down of a session: log records from a level on, if any, and events
in full or in one line. -/
structure Reporting where
  level : Option Level
  detailed : Bool
deriving DecidableEq, Repr, Inhabited

def Whole.word : Whole → String
  | .flag value => if value then "true" else "false"
  | .number value => toString value

def Event.line : Event → String
  | .pinChange pin value kind =>
    "pin-change " ++ Text.doubleQuoted pin ++ " " ++ toString value ++ " " ++
      Text.doubleQuoted kind.name
  | .ledChange x y value =>
    "led-change " ++ x.word ++ " " ++ y.word ++ " " ++ toString value
  | .buttonPress button => "button-press " ++ Text.doubleQuoted button.name
  | .reset => "reset"

def Reporting.event (reporting : Reporting) (world : World) (event : Event) : View :=
  if reporting.detailed then world.view (.dict event.record) else .text event.line

def Reporting.includes (reporting : Reporting) (level : Level) : Bool :=
  match reporting.level with
  | none => false
  | some least => least.rank ≤ level.rank

/-- An observation as it is written down, unless it is left out. -/
def Reporting.entry? (reporting : Reporting) (world : World) : Entry → Option View
  | .log level logger message =>
    if reporting.includes level then
      some (.array [.text "log", .text level.name, .text logger.name, .text message])
    else none
  | .delivered label event => some (.array [.text label, reporting.event world event])
  | .slept interval => some (.array [.text "sleep", world.view interval])
  | .plotted label x y =>
    some (.array [.text label, .text "plot", world.view x, world.view y])
  | .cleared label => some (.array [.text label, .text "clear"])
  | .reported label view => some (.array [.text label, view])

def Reporting.entries (reporting : Reporting) (world : World) (trace : List Entry) :
    List View :=
  trace.reverse.filterMap (reporting.entry? world)

end Microboard
