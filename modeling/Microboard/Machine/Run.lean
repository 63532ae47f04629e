import Microboard.Machine

/-!
# Runs

Running a machine: a single thread until it ends or suspends, the queue until it is
empty, and the clock from one sleeper to the next. Every run has a bound on the
number of its steps.
-/

namespace Microboard

def Sleeper.before (left right : Sleeper) : Bool :=
  left.due < right.due || (left.due == right.due && left.number < right.number)

namespace Machine

/-- A bound on the steps between two moments. -/
def patience : Nat := 100000000

def runThread : Nat → Machine → Machine
  | 0, machine => machine
  | fuel + 1, machine =>
    match machine.control with
    | .idle => machine
    | .busy thread focus => runThread fuel (machine.advance thread focus)

def settle : Nat → Machine → Machine
  | 0, machine => machine
  | fuel + 1, machine =>
    match machine.step? with
    | none => machine
    | some next => settle fuel next

def perform (machine : Machine) (program : Program) : Machine :=
  runThread patience
    { machine with control := .busy ⟨none, []⟩ (.run program), outcome := none }

def nextSleeper? (machine : Machine) : Option Sleeper :=
  machine.sleepers.foldl (fun best sleeper =>
    match best with
    | none => some sleeper
    | some found => if sleeper.before found then some sleeper else some found) none

/-- Wakes a sleeper: time goes on to its moment, and its thread joins the queue. -/
def wake (machine : Machine) (sleeper : Sleeper) : Machine :=
  let world := machine.world
  { machine with
    world := { world with now := if world.now < sleeper.due then sleeper.due else world.now }
    sleepers := machine.sleepers.filter fun other => other.number ≠ sleeper.number
    ready := machine.ready ++ [.go sleeper.thread .nothing] }

def wakeAndSettle (machine : Machine) (sleeper : Sleeper) : Machine :=
  settle patience (machine.wake sleeper)

/-- Wakes sleepers that are due at a moment, at most `limit` of them. Gives their
number, and whether the moment was reached. -/
def wakeUntil (target : Float) :
    (limit : Nat) → (count : Nat) → Machine → Machine × Nat × Bool
  | limit, count, machine =>
    match machine.nextSleeper? with
    | none => (machine, count, true)
    | some sleeper =>
      if sleeper.due ≤ target then
        match limit with
        | 0 => (machine, count, false)
        | limit + 1 => wakeUntil target limit (count + 1) (machine.wakeAndSettle sleeper)
      else (machine, count, true)

def advanceTo (machine : Machine) (target : Float) (limit : Nat) : Machine × Nat :=
  match wakeUntil target limit 0 machine with
  | (machine, count, true) =>
    ({ machine with world := { machine.world with now := target } }, count)
  | (machine, count, false) => (machine, count)

def wakeSome : (limit : Nat) → (count : Nat) → Machine → Machine × Nat
  | 0, count, machine => (machine, count)
  | limit + 1, count, machine =>
    match machine.nextSleeper? with
    | none => (machine, count)
    | some sleeper => wakeSome limit (count + 1) (machine.wakeAndSettle sleeper)

def outcomeOf (machine : Machine) (task : TaskId) : Option Reply :=
  (machine.tasks[task.index]?).bind (·.outcome)

def drive (task : TaskId) : (limit : Nat) → Machine → Machine
  | 0, machine => machine
  | limit + 1, machine =>
    match machine.outcomeOf task, machine.nextSleeper? with
    | none, some sleeper => drive task limit (machine.wakeAndSettle sleeper)
    | _, _ => machine

/-- Runs work as a task of its own until it has ended or nobody sleeps; at most 500
sleepers are woken. -/
def complete (machine : Machine) (work : Work) : Machine × Option Reply :=
  let (machine, task) := machine.createTask [] (.await work) []
  let machine := drive task 500 (settle patience machine)
  (machine, machine.outcomeOf task)

end Machine

end Microboard
