import Microboard.Event
import Microboard.Ref

/-!
# Methods

Everything a script can call, bound to the object it acts on.
-/

namespace Microboard

/-- Lifecycle of a callback handle. -/
inductive Lifecycle where
  | registered
  | active
  | destroyed
deriving DecidableEq, Repr, Inhabited

def Lifecycle.name : Lifecycle → String
  | .registered => "registered"
  | .active => "active"
  | .destroyed => "destroyed"

inductive HardwareMethod where
  | setDigital
  | setAnalog
  | getDigital
  | getAnalog
  | setLed
  | getLed
  | clearLeds
  | setButton
  | getButton
  | reset
  | snapshot
deriving DecidableEq, Repr

inductive BusMethod where
  | subscribe
  | unsubscribe
  | isSubscribed
  | publish
  | clear
deriving DecidableEq, Repr

inductive TableMethod where
  | create
  | get
  | destroy
  | destroyAll
deriving DecidableEq, Repr

inductive HandleMethod where
  | activate
  | invoke
  | recordFailure
deriving DecidableEq, Repr

inductive SchedulerMethod where
  | register
  | cancel
  | cancelAll
  | waitIdle
deriving DecidableEq, Repr

inductive DispatcherMethod where
  | register
  | handlers
  | unregister
  | isPressed
  | press
  | waitIdle
  | clear
  | reset
deriving DecidableEq, Repr

/-- Operations that a bridge offers to scripts. -/
inductive BridgeMethod where
  | digitalWrite
  | digitalRead
  | analogWrite
  | analogRead
  | plot
  | unplot
  | point
  | clearScreen
  | onButtonPressed
  | buttonIsPressed
  | clearButtonHandlers
  | showString
  | forever
  | pause
  | reset
deriving DecidableEq, Repr

inductive ScrollerMethod where
  | frames
  | scroll
deriving DecidableEq, Repr

inductive BoardMethod where
  | subscribe
  | snapshot
  | pressButton
  | reset
  | close
  | scriptModule
deriving DecidableEq, Repr

inductive RegistryMethod where
  | register
  | boardClass
  | names
  | create
deriving DecidableEq, Repr

/-- Functions that belong to no object. -/
inductive Function where
  | coerce
  | parseGlyph
  | glyphWidth
  | glyph
  | glyphChars
  | scrollPattern
  | parseConfig
  | loadConfig
  | getConfig
  | clearConfigCache
  | registerBoard
  | getBoard
  | createBoard
  | listBoards
  | verifyBoards
  | length
  | list
  | repr
  | text
  | contains
  | equal
  | same
  | sleepers
deriving DecidableEq, Repr

/-- An operation bound to its object. -/
inductive Method where
  | hardware (target : Ref .hardware) (operation : HardwareMethod)
  | bus (target : Ref .bus) (operation : BusMethod)
  | token (target : Ref .bus) (id : Nat)
  | table (target : Ref .table) (operation : TableMethod)
  | handle (target : Ref .handle) (operation : HandleMethod)
  | scheduler (target : Ref .scheduler) (operation : SchedulerMethod)
  | dispatcher (target : Ref .dispatcher) (operation : DispatcherMethod)
  | bridge (target : Ref .bridge) (operation : BridgeMethod)
  | scroller (target : Ref .scroller) (operation : ScrollerMethod)
  | board (target : Ref .board) (operation : BoardMethod)
  | keeperClose (target : Ref .keeper)
  | registry (target : Ref .registry) (operation : RegistryMethod)
  | eventRecord (event : Event)
  | now (clock : Clock)
  | sleep (clock : Clock)
  | function (function : Function)
deriving DecidableEq, Repr

end Microboard
