import Microboard.Value

/-!
# Traces

What can be observed of a run from outside: log records, delivered events, requests
to sleep, strokes on a panel and reports of scripts. A value is reported as a view,
which holds no references.
-/

namespace Microboard

/-- A value as an observer sees it. -/
inductive View where
  | null
  | bool (value : Bool)
  | int (value : Int)
  | real (value : Float)
  | text (value : String)
  | array (items : List View)
  | object (fields : List (String × View))
deriving Inhabited

inductive Level where
  | debug
  | info
  | error
deriving DecidableEq, Repr

namespace Level

def name : Level → String
  | debug => "DEBUG"
  | info => "INFO"
  | error => "ERROR"

def rank : Level → Nat
  | debug => 0
  | info => 1
  | error => 2

end Level

inductive Logger where
  | handles
  | scheduler
  | buttons
  | events
  | bridge
  | board
deriving DecidableEq, Repr

def Logger.name : Logger → String
  | .handles => "handles"
  | .scheduler => "scheduler"
  | .buttons => "buttons"
  | .events => "event_bus"
  | .bridge => "bridge"
  | .board => "board"

inductive Entry where
  | log (level : Level) (logger : Logger) (message : String)
  | delivered (label : String) (event : Event)
  | slept (interval : Value)
  | plotted (label : String) (x y : Value)
  | cleared (label : String)
  | reported (label : String) (view : View)

end Microboard
