import Microboard.Complaint
import Microboard.Config
import Microboard.Hardware
import Microboard.Method

/-!
# Values

What a script can hold, pass to an operation and receive from one: plain data,
records of the simulation, references to its objects, things that can be called,
and faults. A fault is an error as a value.
-/

namespace Microboard

inductive FaultKind where
  | error (kind : ErrorKind)
  | simulator
  | configuration
  | invalidPin
  | outOfRange
  | handleDestroyed
  | callbackFailure
deriving DecidableEq, Repr, Inhabited

def FaultKind.name : FaultKind → String
  | .error kind => kind.name
  | .simulator => "SimulatorError"
  | .configuration => "ConfigurationError"
  | .invalidPin => "InvalidPinError"
  | .outOfRange => "OutOfRangeError"
  | .handleDestroyed => "HandleDestroyedError"
  | .callbackFailure => "CallbackFailure"

/-- The classes that scripts can name, call to build an object, or register. A
keeper is a stand-in for a board that only remembers what it was built with. -/
inductive ClassName where
  | hardware
  | bus
  | table
  | scheduler
  | dispatcher
  | bridge
  | scroller
  | board
  | wallClock
  | registry
  | pinLevels
  | pinChange
  | ledChange
  | buttonPress
  | reset
  | boardConfig
  | pinsConfig
  | displayConfig
  | timingConfig
  | button
  | fault (kind : FaultKind)
  | keeper (name : String)
deriving DecidableEq, Repr, Inhabited

def ClassName.name : ClassName → String
  | .hardware => "HardwareState"
  | .bus => "EventBus"
  | .table => "HandleTable"
  | .scheduler => "ForeverScheduler"
  | .dispatcher => "ButtonDispatcher"
  | .bridge => "ScriptBridge"
  | .scroller => "TextScroller"
  | .board => "MicrobitBoard"
  | .wallClock => "AsyncioClock"
  | .registry => "BoardRegistry"
  | .pinLevels => "PinState"
  | .pinChange => "PinChange"
  | .ledChange => "LedChange"
  | .buttonPress => "ButtonPress"
  | .reset => "Reset"
  | .boardConfig => "BoardConfig"
  | .pinsConfig => "PinsConfig"
  | .displayConfig => "DisplayConfig"
  | .timingConfig => "TimingConfig"
  | .button => "Button"
  | .fault kind => kind.name
  | .keeper name => name

/-- The groups of operations in the module that a bridge hands to an interpreter. -/
inductive Space where
  | pins
  | led
  | input
  | basic
  | pinNames
deriving DecidableEq, Repr

inductive FileContent where
  | text (content : String)
  | undecodable
deriving DecidableEq, Repr

mutual

/-- Data that a script can hold. The `identity` of a record tells apart two records
with equal fields. An `unwritable` object is one of a class of the script: asking for
its text raises a fault. -/
inductive Value where
  | none
  | bool (value : Bool)
  | int (value : Int)
  | float (value : Float)
  | str (value : String)
  | list (items : List Value)
  | tuple (items : List Value)
  | dict (entries : List (Value × Value))
  | button (button : Button)
  | pinKind (kind : PinKind)
  | lifecycle (stage : Lifecycle)
  | event (event : Event) (identity : Nat)
  | levels (levels : PinLevels) (identity : Nat)
  | snapshot (snapshot : Snapshot) (identity : Nat)
  | boardConfig (config : BoardConfig) (identity : Nat)
  | pinsConfig (config : PinsConfig)
  | displayConfig (config : DisplayConfig)
  | timingConfig (config : TimingConfig)
  | fault (fault : Fault) (identity : Nat)
  | file (content : FileContent)
  | glyphs (glyphs : GlyphMap)
  | callback (index : Nat)
  | recorder (label : String)
  | panel (label : String)
  | type (name : ClassName)
  | method (method : Method)
  | space (bridge : Ref .bridge) (space : Space)
  | clock (clock : Clock)
  | hardware (target : Ref .hardware)
  | bus (target : Ref .bus)
  | token (target : Ref .bus) (id : Nat)
  | table (target : Ref .table)
  | handle (target : Ref .handle)
  | scheduler (target : Ref .scheduler)
  | dispatcher (target : Ref .dispatcher)
  | bridge (target : Ref .bridge)
  | scroller (target : Ref .scroller)
  | board (target : Ref .board)
  | registry (target : Ref .registry)
  | keeper (target : Ref .keeper)
  | awaitable (work : Work)
  | unwritable (fault : Fault)

/-- What somebody can await. A `body` is one invocation of a callback, which is a
coroutine or only something that can be awaited; a `future` is a task that is there
already. All but a future is done only when somebody awaits it. -/
inductive Work where
  | body (callback invocation : Nat) (coroutine : Bool)
  | sleep (interval : Value)
  | showString (target : Ref .bridge) (text interval : Value)
  | scroll (target : Ref .scroller) (text : String) (interval : Value)
  | loop (target : Ref .scheduler) (callback : Ref .handle)
  | loopsIdle (target : Ref .scheduler)
  | handlersIdle (target : Ref .dispatcher)
  | closeBoard (target : Ref .board)
  | closeKeeper (target : Ref .keeper)
  | future (task : TaskId)

/-- An error: raised by a script, found by the library, or one of the kinds with
fields of their own. `details` holds what was said about it beyond the fields. -/
inductive Fault where
  | raised (kind : ErrorKind) (args : List Value)
  | complaint (cause : Complaint)
  | simulator (message : Value) (details : List (Value × Value))
  | configuration (key message : Value) (details : List (Value × Value))
  | invalidPin (pin : Value) (details : List (Value × Value))
  | outOfRange (x y : Value) (width height : Int) (details : List (Value × Value))
  | handleDestroyed (id : Value)
  | callbackFailure (id kind cause : Value)

end

instance : Inhabited Value := ⟨.none⟩

instance : Inhabited Fault := ⟨.raised .runtime []⟩

instance : Inhabited Work := ⟨.sleep .none⟩

abbrev Entries := List (Value × Value)

namespace Fault

def kind : Fault → FaultKind
  | raised kind _ => .error kind
  | complaint cause => .error cause.kind
  | simulator .. => .simulator
  | configuration .. => .configuration
  | invalidPin .. => .invalidPin
  | outOfRange .. => .outOfRange
  | handleDestroyed _ => .handleDestroyed
  | callbackFailure .. => .callbackFailure

/-- A cancellation is not an ordinary fault: nothing that isolates failures stops it. -/
def isOrdinary (fault : Fault) : Bool :=
  fault.kind ≠ .error .cancelled

end Fault

namespace Value

def typeName : Value → String
  | none => "NoneType"
  | bool _ => "bool"
  | int _ => "int"
  | float _ => "float"
  | str _ => "str"
  | list _ => "list"
  | tuple _ => "tuple"
  | dict _ => "dict"
  | button _ => "Button"
  | pinKind _ => "PinKind"
  | lifecycle _ => "HandleState"
  | event (.pinChange ..) _ => "PinChange"
  | event (.ledChange ..) _ => "LedChange"
  | event (.buttonPress _) _ => "ButtonPress"
  | event .reset _ => "Reset"
  | levels .. => "PinState"
  | snapshot .. => "BoardSnapshot"
  | boardConfig .. => "BoardConfig"
  | pinsConfig _ => "PinsConfig"
  | displayConfig _ => "DisplayConfig"
  | timingConfig _ => "TimingConfig"
  | fault error _ => error.kind.name
  | file _ => "str"
  | glyphs _ => "dict"
  | callback _ => "function"
  | recorder _ => "function"
  | panel _ => "Surface"
  | type _ => "type"
  | method _ => "method"
  | space .. => "types.SimpleNamespace"
  | clock .simulated => "VirtualClock"
  | clock .wall => "AsyncioClock"
  | hardware _ => "HardwareState"
  | bus _ => "EventBus"
  | token .. => "Subscription"
  | table _ => "HandleTable"
  | handle _ => "CallbackHandle"
  | scheduler _ => "ForeverScheduler"
  | dispatcher _ => "ButtonDispatcher"
  | bridge _ => "ScriptBridge"
  | scroller _ => "TextScroller"
  | board _ => "MicrobitBoard"
  | registry _ => "BoardRegistry"
  | keeper _ => "object"
  | awaitable (.future _) => "Task"
  | awaitable _ => "coroutine"
  | unwritable _ => "object"

def isCallable : Value → Bool
  | callback _ | recorder _ | type _ | method _ | token .. => true
  | _ => false

/-- The work behind a value that can be awaited. -/
def work? : Value → Option Work
  | awaitable work => some work
  | _ => Option.none

end Value

namespace Work

/-- Everything but a plain awaitable and a future is a coroutine, which can be dropped
unstarted. -/
def isCoroutine : Work → Bool
  | body _ _ coroutine => coroutine
  | future _ => false
  | _ => true

end Work

abbrev Reply := Except Fault Value

namespace Reply

def nothing : Reply := .ok .none

def complain (cause : Complaint) : Reply := .error (.complaint cause)

end Reply

end Microboard
