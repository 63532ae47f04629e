import Microboard.Machine.Run
import Microboard.Script.Compile
import Microboard.Session.Entry

/-!
# Sessions

A session builds its boards and then takes one step after the other. Each step is
answered with its result or its fault, with what was observed meanwhile, and, where
tasks can run, with the time. After a fault the session goes on.
-/

namespace Microboard

inductive ConfigSource where
  | bundled
  | raw (config : Literal)
  | file (content : FileContent)

/-- How a session builds a board: whether it is created by its name, and whether a
recorder is subscribed to its events. -/
structure BoardPlan where
  source : ConfigSource
  byName : Bool
  recorded : Bool

structure BoardNames where
  board : String
  stem : String
deriving DecidableEq, Repr

def BoardNames.first : BoardNames := ⟨"board", ""⟩

def BoardNames.second : BoardNames := ⟨"board2", "2"⟩

inductive Step where
  | act (action : Action)
  | advance (interval : Number) (limit : Nat)
  | wake (count : Nat)
  | delay (interval : Literal)
  | reading (seconds : Literal)

structure Session where
  looping : Bool
  first : Option BoardPlan
  second : Option BoardPlan
  ownRegistry : Bool
  reporting : Reporting
  steps : List Step

/-- The number of seconds for which the wall clock is asked to wait. -/
def wallDelay (interval : Value) : Except Fault Float :=
  match wakeTime 0.0 interval with
  | .ok due => .ok (due / 1000.0)
  | .error fault => .error fault

/-- The milliseconds that the wall clock shows after a number of seconds. -/
def wallReading (seconds : Value) : Except Fault Float :=
  match seconds.toReal with
  | .ok value => .ok (value * 1000.0)
  | .error cause => .error (.complaint cause)

def Number.after (now : Float) : Number → Float
  | .real value => now + value
  | .whole value => now + (Decimal.ofInt? value).getD (1.0 / 0.0)

namespace BoardNames

def orFinish (next : Value → Program) (reply : Reply) : Program :=
  match reply with
  | .ok value => next value
  | .error fault => .finish (.error fault)

def bindParts (names : BoardNames) (board : Value) (next : Program) :
    List (String × String) → Program
  | [] => next
  | (name, property) :: rest =>
    .read board property (orFinish fun part =>
      .bind (names.stem ++ name) part (names.bindParts board next rest))

def parts : List (String × String) :=
  [("bridge", "bridge"), ("state", "state"), ("events", "events"),
   ("scheduler", "scheduler"), ("buttons", "buttons")]

def record (names : BoardNames) (board : Value) (recorded : Bool) : Program :=
  if recorded then
    .read board "subscribe" (orFinish fun subscribe =>
      .call subscribe (.single (.recorder (names.stem ++ "ev"))) (orFinish fun _ =>
        .finish .nothing))
  else .finish .nothing

def adopt (names : BoardNames) (recorded : Bool) (board : Value) : Program :=
  .bind names.board board (names.bindParts board
    (.read board "python_module" (orFinish fun method =>
      .call method .empty (orFinish fun module =>
        .bind (names.stem ++ "py") module (names.record board recorded))))
    parts)

def build (names : BoardNames) (plan : BoardPlan) (given : List (String × Value)) : Program :=
  let named := ("clock", Value.clock .simulated) :: given
  let target := if plan.byName then Value.method (.function .createBoard) else .type .board
  let positional := if plan.byName then [Value.str "microbit"] else []
  .call target ⟨positional, named⟩ (orFinish (names.adopt plan.recorded))

def program (names : BoardNames) (plan : BoardPlan) : Program :=
  match plan.source with
  | .bundled => names.build plan []
  | .file content => names.build plan [("config_path", .file content)]
  | .raw config =>
    config.make (orFinish fun raw =>
      .call (.method (.function .parseConfig)) (.single raw) (orFinish fun config =>
        names.build plan [("config", config)]))

end BoardNames

namespace Session

def start (session : Session) : Machine :=
  let registry := if session.ownRegistry then Registry.empty else .standard
  let names := [("clock", Value.clock .simulated)] ++
    if session.ownRegistry then [("registry", .registry World.sharedRegistry)] else []
  .initial (.initial session.looping registry) names

/-- Builds a board; nothing that happens meanwhile is kept in the trace. -/
def buildBoard (names : BoardNames) (plan : Option BoardPlan) (machine : Machine) :
    Machine × Option Fault :=
  match plan with
  | none => (machine, none)
  | some plan =>
    let machine := machine.perform (names.program plan)
    let machine := { machine with world := { machine.world with trace := [] } }
    match machine.outcome with
    | some (.error fault) => (machine, some fault)
    | _ => (machine, none)

def act (machine : Machine) (action : Action) : Machine :=
  machine.perform (action.perform .plain 1 .finish)

inductive Result where
  | value (view : View)
  | fault (view : View)

def Result.ofReply (world : World) (reply : Reply) : Result :=
  match reply with
  | .ok given => .value (world.view given)
  | .error raised => .fault (world.faultView raised)

def Result.ofReading (world : World) (reading : Except Fault Float) : Result :=
  match reading with
  | .ok number => .value (.real number)
  | .error raised => .fault (world.faultView raised)

/-- Runs an action to its end. A coroutine becomes a task of its own, and time goes on
until it has ended. -/
def finishAction (machine : Machine) : Machine × Result :=
  match machine.outcome with
  | none => (machine, .value .null)
  | some (.error fault) => (machine, .fault (machine.world.faultView fault))
  | some (.ok value) =>
    match value.coroutine? with
    | none => (machine, .value (machine.world.view value))
    | some work =>
      match machine.complete work with
      | (machine, some reply) => (machine, .ofReply machine.world reply)
      | (machine, none) => (machine, .value (.text "pending"))

def takeStep (machine : Machine) : Step → Machine × Result
  | .act action => finishAction (act machine action)
  | .advance interval limit =>
    let (machine, count) :=
      machine.advanceTo (interval.after machine.world.now) limit
    (machine, .value (.int count))
  | .wake count =>
    let (machine, count) := machine.wakeSome count 0
    (machine, .value (.int count))
  | .delay interval =>
    let machine := machine.perform (interval.make .finish)
    (machine, .ofReading machine.world ((machine.outcome.getD .nothing).bind wallDelay))
  | .reading seconds =>
    let machine := machine.perform (seconds.make .finish)
    (machine, .ofReading machine.world ((machine.outcome.getD .nothing).bind wallReading))

def Result.fields : Result → List (String × View)
  | .value view => [("r", view)]
  | .fault (.object fields) => fields
  | .fault view => [("error", view)]

/-- Takes a step, lets everything that is ready run, and writes the answer down. -/
def answerStep (session : Session) (machine : Machine) (step : Step) : Machine × View :=
  let (machine, result) := takeStep machine step
  let machine := machine.settle Machine.patience
  let entries := session.reporting.entries machine.world machine.world.trace
  let observed := if entries.isEmpty then [] else [("out", View.array entries)]
  let time := if session.looping then [("t", View.real machine.world.now)] else []
  ({ machine with world := { machine.world with trace := [] } },
    .object (result.fields ++ observed ++ time))

def answerSteps (session : Session) : Machine → List Step → List View
  | _, [] => []
  | machine, step :: rest =>
    let (machine, answer) := session.answerStep machine step
    answer :: session.answerSteps machine rest

/-- The answers to all steps, or the fault that kept a board from being built. -/
def answers (session : Session) : Except View (List View) :=
  match buildBoard .first session.first session.start with
  | (machine, some fault) => .error (machine.world.faultView fault)
  | (machine, none) =>
    match buildBoard .second session.second machine with
    | (machine, some fault) => .error (machine.world.faultView fault)
    | (machine, none) => .ok (session.answerSteps machine session.steps)

end Session

end Microboard
