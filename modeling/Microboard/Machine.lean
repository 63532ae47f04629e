import Microboard.World.Call

/-!
# Machines

A world together with the programs that run in it. One thread runs at a time; it runs
until it ends or suspends. Work that can go on waits in a queue, first in, first out.
A suspended thread waits for a moment in time or for the end of tasks.
-/

namespace Microboard

/-- A callback of a script; it counts how often it has been called. -/
structure Callback where
  style : Style
  body : Nat → Program
  invocations : Nat

instance : Inhabited Callback := ⟨⟨.plain, fun _ => default, 0⟩⟩

/-- A computation: the task it belongs to, if any, and its pending operations, the
innermost first. -/
structure Thread where
  owner : Option TaskId
  stack : List Frame

inductive Job where
  | go (thread : Thread) (focus : Focus)
  | tell (task : TaskId) (notice : Notice) (reply : Reply)

/-- A task: how it ended, once it has, and who is told of its end. -/
structure Task where
  outcome : Option Reply
  notices : List Notice
deriving Inhabited

/-- A thread that waits for a moment. Of two that wait for the same moment, the one
with the lower number goes first. -/
structure Sleeper where
  due : Float
  number : Nat
  thread : Thread

structure Waiter where
  remaining : Nat
  thread : Thread

inductive Control where
  | idle
  | busy (thread : Thread) (focus : Focus)

/-- The state of a simulation. `outcome` is how the latest thread that belongs to no
task has ended. -/
structure Machine where
  world : World
  names : List (String × Value)
  callbacks : List Callback
  control : Control
  outcome : Option Reply
  ready : List Job
  sleepers : List Sleeper
  slept : Nat
  tasks : List Task
  waiters : List Waiter

/-- The moment at which a sleep that is asked for now ends. -/
def wakeTime (now : Float) (interval : Value) : Except Fault Float :=
  match interval.number? with
  | none => .error (.complaint (.notOrdered ">" interval.typeName "float"))
  | some (.real value) => .ok (now + (if 0.0 < value then value else 0.0))
  | some (.whole value) =>
    if value ≤ 0 then .ok (now + 0.0)
    else
      match Decimal.ofInt? value with
      | some amount => .ok (now + amount)
      | none => .error (.complaint .tooLargeForFloat)

namespace Machine

def initial (world : World) (names : List (String × Value)) : Machine :=
  { world, names, callbacks := [], control := .idle, outcome := none, ready := []
    sleepers := [], slept := 0, tasks := [], waiters := [] }

def go (machine : Machine) (thread : Thread) (next : World × Focus) : Machine :=
  { machine with world := next.1, control := .busy thread next.2 }

def enqueue (machine : Machine) (jobs : List Job) : Machine :=
  { machine with ready := machine.ready ++ jobs }

/-- A task joins a list, unless it stands there. -/
def enlist (tasks : List TaskId) (task : TaskId) : List TaskId :=
  if task ∈ tasks then tasks else tasks ++ [task]

def registerTask (world : World) (task : TaskId) : Notice → World
  | .loopEnded target id =>
    world.setScheduler target fun scheduler =>
      { scheduler with tasks := scheduler.tasks ++ [(id, task)] }
  | .handlerEnded target _ =>
    world.setDispatcher target fun dispatcher =>
      { dispatcher with background := enlist dispatcher.background task }
  | .release _ => world

def createTask (machine : Machine) (stack : List Frame) (focus : Focus)
    (notices : List Notice) : Machine × TaskId :=
  let task : TaskId := ⟨machine.tasks.length⟩
  let world := notices.foldl (fun world notice => registerTask world task notice) machine.world
  ({ machine with
      world
      tasks := machine.tasks ++ [⟨none, notices⟩]
      ready := machine.ready ++ [.go ⟨some task, stack⟩ focus] },
    task)

/-- Ends a thread. Everybody who asked for it is told of the end of a task, later. -/
def finish (machine : Machine) (owner : Option TaskId) (reply : Reply) : Machine :=
  match owner with
  | none => { machine with control := .idle, outcome := some reply }
  | some task =>
    let notices := ((machine.tasks[task.index]?).map (·.notices)).getD []
    { machine with
      control := .idle
      tasks := machine.tasks.modify task.index fun _ => ⟨some reply, []⟩
      ready := machine.ready ++ notices.map fun notice => .tell task notice reply }

def sleep (machine : Machine) (thread : Thread) (interval : Value) : Machine :=
  let world := machine.world.observe (.slept interval)
  match wakeTime world.now interval with
  | .error fault => machine.go thread (world, .raise fault)
  | .ok due =>
    { machine with
      world
      control := .idle
      sleepers := machine.sleepers ++ [⟨due, machine.slept, thread⟩]
      slept := machine.slept + 1 }

/-- Asks for notice of the end of a task; a task that has ended gives it in its turn. -/
def watch (notice : Notice) (machine : Machine) (task : TaskId) : Machine :=
  match (machine.tasks[task.index]?).bind (·.outcome) with
  | some reply => machine.enqueue [.tell task notice reply]
  | none =>
    { machine with
      tasks := machine.tasks.modify task.index fun record =>
        { record with notices := record.notices ++ [notice] } }

/-- Lists a task that is there already as the work of a handler, and asks for notice of
its end. -/
def adopt (machine : Machine) (thread : Thread) (task : TaskId) (target : Ref .dispatcher)
    (handle : Ref .handle) : Machine :=
  if task.index < machine.tasks.length then
    let notice := Notice.handlerEnded target handle
    (watch notice machine task).go thread (registerTask machine.world task notice, .nothing)
  else machine.go thread (machine.world, .raise (.complaint .foreignFuture))

def wait (machine : Machine) (thread : Thread) (tasks : List TaskId) : Machine :=
  let waiter := machine.waiters.length
  let machine :=
    { machine with
      control := .idle
      waiters := machine.waiters ++ [⟨tasks.length, thread⟩] }
  tasks.foldl (watch (.release waiter)) machine

def call (machine : Machine) (thread : Thread) (target : Value) (arguments : Arguments) :
    Machine :=
  match target with
  | .callback index =>
    let callback := machine.callbacks.getD index default
    let invocation := callback.invocations + 1
    let machine :=
      { machine with
        callbacks := machine.callbacks.modify index fun callback =>
          { callback with invocations := invocation } }
    match callback.style with
    | .plain => machine.go thread (machine.world, .run (callback.body invocation))
    | .coroutine =>
      machine.go thread (machine.world, .value (.awaitable (.body index invocation true)))
    | .awaitable =>
      machine.go thread (machine.world, .value (.awaitable (.body index invocation false)))
  | .method (.function .sleepers) =>
    machine.go thread (machine.world, .value (.int machine.sleepers.length))
  | target => machine.go thread (machine.world.callValue target arguments)

/-- Awaits a task: its result is there once it has ended. -/
def join (machine : Machine) (thread : Thread) (task : TaskId) : Machine :=
  match machine.tasks[task.index]? with
  | none => machine.go thread (machine.world, .raise (.complaint .foreignAwaited))
  | some ⟨some reply, _⟩ => machine.go thread (machine.world, .reply reply)
  | some ⟨none, _⟩ =>
    if thread.owner = some task then
      machine.go thread (machine.world, .raise (.complaint .awaitsItself))
    else
      machine.go thread (machine.world,
        .within (.program fun _ => .await (.future task) .finish) (.wait [task]))

def await (machine : Machine) (thread : Thread) (work : Work) : Machine :=
  match work with
  | .future task => machine.join thread task
  | .body index invocation _ =>
    let callback := machine.callbacks.getD index default
    machine.go thread (machine.world, .run (callback.body invocation))
  | work => machine.go thread (machine.world.begin work)

def resolve (machine : Machine) (name : String) : Reply :=
  match machine.names.lookup name with
  | some value => .ok value
  | none => .complain (.unresolvedName name)

def bind (machine : Machine) (name : String) (value : Value) : Machine :=
  { machine with names := (name, value) :: machine.names.filter fun entry => entry.1 ≠ name }

def run (machine : Machine) (thread : Thread) (program : Program) : Machine :=
  let world := machine.world
  match program with
  | .finish reply => machine.go thread (world, .reply reply)
  | .read value name next => machine.go thread (world, .run (next (world.property value name)))
  | .call target arguments next =>
    machine.go thread (world, .within (.program next) (.call target arguments))
  | .await work next => machine.go thread (world, .within (.program next) (.await work))
  | .lookup name next => machine.go thread (world, .run (next (machine.resolve name)))
  | .bind name value next => (machine.bind name value).go thread (world, .run next)
  | .report label reply next =>
    machine.go thread (world.observe (.reported label (world.viewReply reply)), .run next)
  | .define style body next =>
    let callback := Value.callback machine.callbacks.length
    let callbacks := machine.callbacks ++ [⟨style, body, 0⟩]
    let machine : Machine := { machine with callbacks }
    machine.go thread (world, .run (next callback))
  | .identify next =>
    machine.go thread
      ({ world with identities := world.identities + 1 }, .run (next world.identities))
  | .spawn callback next =>
    let (machine, _) := machine.createTask [.spawned] (.call callback .empty) []
    machine.go thread (machine.world, .run next)
  | .launch work next =>
    if world.looping then
      let (machine, task) := machine.createTask [] (.await work) []
      machine.go thread (machine.world, .run (next (.ok (.awaitable (.future task)))))
    else machine.go thread (world, .run (next (.complain .noEventLoop)))

def advance (machine : Machine) (thread : Thread) (focus : Focus) : Machine :=
  match focus with
  | .reply reply =>
    match thread.stack with
    | [] => machine.finish thread.owner reply
    | frame :: rest =>
      machine.go { thread with stack := rest } (machine.world.resume frame reply)
  | .within frame focus =>
    machine.go { thread with stack := frame :: thread.stack } (machine.world, focus)
  | .run program => machine.run thread program
  | .call target arguments => machine.call thread target arguments
  | .await work => machine.await thread work
  | .invoke handle =>
    match machine.world.callbackOf handle with
    | .ok callback => machine.go thread (machine.world, .call callback .empty)
    | .error fault => machine.go thread (machine.world, .raise fault)
  | .publish bus event => machine.go thread (machine.world, machine.world.publishTo bus event)
  | .sleep interval => machine.sleep thread interval
  | .start work notice =>
    let (machine, _) := machine.createTask [] (.await work) [notice]
    machine.go thread (machine.world, .nothing)
  | .adopt task target handle => machine.adopt thread task target handle
  | .wait tasks => machine.wait thread tasks

def tell (machine : Machine) (task : TaskId) (notice : Notice) (reply : Reply) : Machine :=
  match notice with
  | .loopEnded target id =>
    { machine with
      world := machine.world.setScheduler target fun scheduler =>
        { scheduler with tasks := scheduler.tasks.filter fun entry => entry.1 ≠ id } }
  | .handlerEnded target handle =>
    let world := machine.world.setDispatcher target fun dispatcher =>
      { dispatcher with background := dispatcher.background.erase task }
    { machine with world := world.noteOutcome handle reply }
  | .release waiter =>
    let machine : Machine :=
      { machine with
        waiters := machine.waiters.modify waiter fun record =>
          { record with remaining := record.remaining - 1 } }
    match machine.waiters[waiter]? with
    | some ⟨0, thread⟩ => machine.enqueue [.go thread .nothing]
    | _ => machine

def take (machine : Machine) : Option Machine :=
  match machine.ready with
  | [] => none
  | .go thread focus :: rest => some { machine with ready := rest, control := .busy thread focus }
  | .tell task notice reply :: rest =>
    some ({ machine with ready := rest }.tell task notice reply)

/-- The next state; nothing when all threads have ended or are suspended. -/
def step? (machine : Machine) : Option Machine :=
  match machine.control with
  | .busy thread focus => some (machine.advance thread focus)
  | .idle => machine.take

end Machine

end Microboard
