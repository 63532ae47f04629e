import Microboard.Options
import Microboard.Session

/-!
# Demonstration

A script that lets the LED in the middle blink for a while, presses a button half-way,
and resets the board. A text scrolls after the press.
-/

namespace Microboard.Blink

structure Settings where
  seconds : Float
  period : Int
  text : String

inductive Key where
  | help
  | seconds
  | period
  | text
deriving DecidableEq, Repr

def specs : List (Options.Spec Key) :=
  [⟨.help, ["-h", "--help"], .help, fun _ => true⟩,
   ⟨.seconds, ["--seconds"], .one, fun word => (Decimal.readFloat? word).isSome⟩,
   ⟨.period, ["--period"], .one, fun word => (Decimal.readInt? word).isSome⟩,
   ⟨.text, ["--text"], .one, fun _ => true⟩]

def valueOf (key : Key) (found : List (Options.Occurrence Key)) : Option String :=
  (Options.valuesOf key found).bind (·.head?)

def Settings.read (words : List String) : Except Options.Exit Settings :=
  (Options.read specs words).map fun found =>
    { seconds := ((valueOf .seconds found).bind Decimal.readFloat?).getD 2.0
      period := ((valueOf .period found).bind Decimal.readInt?).getD 250
      text := (valueOf .text found).getD "Hi" }

def call (name : String) (properties : List String) (args : List Literal) : Action :=
  .mk (.path name properties) args [] none none none

/-- Lights the middle for a period and leaves it dark for another. -/
def blink (settings : Settings) : Literal :=
  .callback .coroutine
    [call "py" ["led", "plot"] [.int 2, .int 2],
     call "py" ["basic", "pause"] [.int settings.period],
     call "py" ["led", "unplot"] [.int 2, .int 2],
     call "py" ["basic", "pause"] [.int settings.period]] .none

def greet (settings : Settings) : Literal :=
  .callback .coroutine [call "py" ["basic", "show_string"] [.str settings.text]] .none

/-- Half of the time, in milliseconds. -/
def half (settings : Settings) : Literal :=
  .float (settings.seconds / 2.0 * 1000.0)

def script (settings : Settings) : Literal :=
  .callback .coroutine
    [call "board" ["subscribe"] [.recorder "events"],
     call "py" ["basic", "forever"] [blink settings],
     call "py" ["input", "on_button_pressed"] [.button .a, greet settings],
     call "clock" ["sleep"] [half settings],
     call "board" ["press_button"] [.str "A"],
     call "clock" ["sleep"] [half settings],
     call "board" ["reset"] []] .none

structure Run where
  result : View
  time : Float
  printed : List String
  sleeps : List View

def stage : Session :=
  { looping := true, first := some ⟨.bundled, false, false⟩, second := none
    ownRegistry := false, reporting := ⟨none, true⟩, steps := [] }

def printed (trace : List Entry) : List String :=
  trace.reverse.filterMap fun entry =>
    match entry with
    | .delivered _ event => some (Value.dict event.record).exact
    | _ => none

def sleeps (world : World) (trace : List Entry) : List View :=
  trace.reverse.filterMap fun entry =>
    match entry with
    | .slept interval => some (world.view interval)
    | _ => none

/-- Runs the demonstration on a new board and closes the board. -/
def run (settings : Settings) : Run :=
  let (machine, _) := Session.buildBoard .first stage.first stage.start
  let machine := machine.perform ((script settings).make (BoardNames.orFinish fun callback =>
    .call callback .empty .finish))
  let (machine, result) := Session.finishAction machine
  let (machine, _) := Session.finishAction (Session.act machine (call "board" ["aclose"] []))
  let world := machine.world
  let view := match result with
    | .value view => view
    | .fault view => view
  ⟨view, world.now, printed world.trace, sleeps world world.trace⟩

end Microboard.Blink
