import Microboard.Button
import Microboard.Pin

/-!
# Events

The messages that tell an observer of a change of the hardware.
-/

namespace Microboard

/-- A whole number as a script gives it: a truth value counts as zero or one and
keeps its spelling. -/
inductive Whole where
  | flag (value : Bool)
  | number (value : Int)
deriving DecidableEq, Repr, Inhabited

def Whole.toInt : Whole → Int
  | .flag value => if value then 1 else 0
  | .number value => value

/-- A change of the hardware. LED coordinates are kept as they were given. -/
inductive Event where
  | pinChange (pin : String) (value : Int) (kind : PinKind)
  | ledChange (x y : Whole) (value : Int)
  | buttonPress (button : Button)
  | reset
deriving DecidableEq, Repr, Inhabited

def Event.type : Event → String
  | .pinChange .. => "pin-change"
  | .ledChange .. => "led-change"
  | .buttonPress _ => "button-press"
  | .reset => "reset"

end Microboard
