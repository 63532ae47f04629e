import Microboard.Machine.Run

/-!
# Runs of a machine

A run is any order in which a machine can go on: a running thread takes its next
turn, and between turns any job of the queue is taken, any sleeper wakes, or
somebody outside begins something new.  A run keeps the states that it has left,
the oldest first.
-/

namespace Microboard.Machine

def serve (machine : Machine) : Job → Machine
  | .go thread focus => { machine with control := .busy thread focus }
  | .tell task notice reply => machine.tell task notice reply

def jobOf (owner : Option TaskId) : Job → Bool
  | .go thread _ => thread.owner = owner
  | .tell .. => false

def runs (machine : Machine) (owner : Option TaskId) : Nat :=
  match machine.control with
  | .idle => 0
  | .busy thread _ => if thread.owner = owner then 1 else 0

/-- A waiter that has tasks to wait for holds a thread of an owner. -/
def waiterOf (owner : Option TaskId) (waiter : Waiter) : Bool :=
  waiter.remaining ≠ 0 && waiter.thread.owner = owner

/-- How many threads of an owner are running, queued, asleep or waiting. -/
def live (machine : Machine) (owner : Option TaskId) : Nat :=
  machine.runs owner + machine.ready.countP (jobOf owner) +
    machine.sleepers.countP (fun sleeper => sleeper.thread.owner = owner) +
    machine.waiters.countP (waiterOf owner)

/-- One way in which a machine can go on.  The order of the queue and of the clock is
left open.  A program from outside begins when the one before it has ended; work from
outside becomes a task.  Between turns the time and the trace may be set, and the event
loop may begin or cease to run. -/
inductive Move : Machine → Machine → Prop where
  | turn {machine : Machine} {thread : Thread} {focus : Focus}
      (busy : machine.control = .busy thread focus) :
      Move machine (machine.advance thread focus)
  | take {machine : Machine} {before after : List Job} {job : Job}
      (idle : machine.control = .idle) (queued : machine.ready = before ++ job :: after) :
      Move machine ({ machine with ready := before ++ after }.serve job)
  | wake {machine : Machine} {sleeper : Sleeper} (idle : machine.control = .idle)
      (asleep : sleeper ∈ machine.sleepers) : Move machine (machine.wake sleeper)
  | enter {machine : Machine} (program : Program) (idle : machine.control = .idle)
      (alone : machine.live none = 0) :
      Move machine
        { machine with control := .busy ⟨none, []⟩ (.run program), outcome := none }
  | launch {machine : Machine} (work : Work) (idle : machine.control = .idle) :
      Move machine (machine.createTask [] (.await work) []).1
  | clock {machine : Machine} (looping : Bool) (now : Float) (trace : List Entry)
      (idle : machine.control = .idle) :
      Move machine { machine with world := { machine.world with looping, now, trace } }

/-- Any number of moves, with the states that were left. -/
inductive Run (start : Machine) : List Machine → Machine → Prop where
  | refl : Run start [] start
  | move {past : List Machine} {machine next : Machine} (run : Run start past machine)
      (move : Move machine next) : Run start (past ++ [machine]) next

variable {start machine next : Machine} {past : List Machine}

theorem Run.last {last : Machine} (run : Run start (past ++ [last]) machine) :
    Run start past last ∧ Move last machine := by
  generalize left : past ++ [last] = states at run
  cases run with
  | refl => simp at left
  | move run move =>
      obtain ⟨rfl, rfl⟩ := List.append_singleton_inj.mp left
      exact ⟨run, move⟩

/-- What holds of all states that were left holds of those left before, and of the last. -/
theorem forall_snoc {kept : Machine → Prop} (all : ∀ state ∈ past ++ [machine], kept state) :
    (∀ state ∈ past, kept state) ∧ kept machine :=
  (List.forall_mem_append.mp all).imp_right List.forall_mem_singleton.mp

theorem forall_mem_before {kept : Machine → Prop} {first second third : List Machine}
    (all : ∀ state ∈ first ++ (second ++ third), kept state) :
    ∀ state ∈ first ++ second, kept state := by
  rw [← List.append_assoc] at all
  exact fun state member => all state (List.mem_append_left _ member)

/-- What a run shows grows by what the state that is left shows. -/
theorem filterMap_snoc {α : Type} (shown : Machine → Option α) (past : List Machine)
    (machine : Machine) :
    (past ++ [machine]).filterMap shown = past.filterMap shown ++ (shown machine).toList := by
  rw [List.filterMap_append]
  cases seen : shown machine <;> simp [seen]

theorem Move.of_busy {thread : Thread} {focus : Focus} (move : Move machine next)
    (busy : machine.control = .busy thread focus) :
    next = machine.advance thread focus := by
  cases move with
  | turn running =>
      rw [running] at busy
      cases busy
      rfl
  | take idle | wake idle | enter program idle | launch work idle | clock looping now trace idle =>
      rw [idle] at busy
      cases busy

/-- The machine's own order is one of the orders of a run. -/
theorem Move.of_step? (stepped : machine.step? = some next) : Move machine next := by
  cases control : machine.control with
  | busy thread focus =>
      simp only [step?, control, Option.some.injEq] at stepped
      exact stepped ▸ .turn control
  | idle =>
      simp only [step?, control, Machine.take] at stepped
      cases queue : machine.ready with
      | nil => simp [queue] at stepped
      | cons job rest =>
          have taken : next = { machine with ready := rest }.serve job := by
            cases job <;> simp_all [serve]
          exact taken ▸ .take control (show machine.ready = [] ++ job :: rest from queue)

theorem Run.trans {middle : Machine} {later : List Machine} (first : Run start past middle)
    (second : Run middle later machine) : Run start (past ++ later) machine := by
  induction second with
  | refl => simpa using first
  | move _ move induction =>
      rw [← List.append_assoc]
      exact induction.move move

theorem Run.first (run : Run start past machine) :
    past = [] ∧ machine = start ∨
      ∃ next later, past = start :: later ∧ Move start next ∧ Run next later machine := by
  induction run with
  | refl => exact .inl ⟨rfl, rfl⟩
  | @move past machine next run move induction =>
      apply Or.inr
      rcases induction with ⟨rfl, rfl⟩ | ⟨second, later, rfl, begins, rest⟩
      · exact ⟨next, [], rfl, move, .refl⟩
      · exact ⟨second, later ++ [machine], rfl, begins, rest.move move⟩

/-- A run in which a thread is running is over, or goes on with a turn of the thread. -/
theorem Run.turn {thread : Thread} {focus : Focus} (run : Run start past machine)
    (busy : start.control = .busy thread focus) :
    past = [] ∧ machine = start ∨
      ∃ later, past = start :: later ∧ Run (start.advance thread focus) later machine := by
  apply run.first.imp_right
  rintro ⟨next, later, rfl, move, rest⟩
  exact ⟨later, rfl, move.of_busy busy ▸ rest⟩

theorem Run.split {early late : List Machine} {state : Machine}
    (run : Run start (early ++ state :: late) machine) :
    Run start early state ∧ Run state (state :: late) machine := by
  induction early generalizing start with
  | nil =>
      rcases run.first with ⟨empty, -⟩ | ⟨next, later, same, -, -⟩
      · cases empty
      · cases same
        exact ⟨.refl, run⟩
  | cons first rest induction =>
      rcases run.first with ⟨empty, -⟩ | ⟨next, later, same, move, further⟩
      · cases empty
      · cases same
        obtain ⟨before, after⟩ := induction further
        exact ⟨Run.trans (.move .refl move) before, after⟩

/-- A state of a run is reached by a run, and the rest goes on from there. -/
theorem Run.through {state : Machine} (run : Run start past machine)
    (among : state ∈ past ++ [machine]) :
    ∃ early late, past = early ++ late ∧ Run start early state ∧ Run state late machine := by
  rcases List.mem_append.mp among with earlier | last
  · obtain ⟨early, late, rfl⟩ := List.append_of_mem earlier
    exact ⟨early, state :: late, rfl, run.split⟩
  · rw [List.mem_singleton.mp last]
    exact ⟨past, [], (List.append_nil past).symm, run, .refl⟩

def visited : Nat → Machine → List Machine
  | 0, _ => []
  | fuel + 1, machine =>
    match machine.step? with
    | none => []
    | some next => machine :: visited fuel next

theorem run_settle (fuel : Nat) (machine : Machine) :
    Run machine (visited fuel machine) (settle fuel machine) := by
  induction fuel generalizing machine with
  | zero => exact .refl
  | succ fuel induction =>
      cases stepped : machine.step? with
      | none =>
          simp only [settle, visited, stepped]
          exact .refl
      | some next =>
          simp only [settle, visited, stepped]
          exact Run.trans (.move .refl (.of_step? stepped)) (induction next)

def begun (program : Program) : Machine :=
  { initial (.initial true .empty) [] with control := .busy ⟨none, []⟩ (.run program) }

theorem run_begun (program : Program) (fuel : Nat) :
    Run (initial (.initial true .empty) [])
      ([initial (.initial true .empty) []] ++ visited fuel (begun program))
      (settle fuel (begun program)) :=
  Run.trans (.move .refl (.enter program rfl rfl)) (run_settle fuel (begun program))

/-- A program from outside begins. -/
def entered (machine : Machine) (program : Program) : Machine :=
  { machine with control := .busy ⟨none, []⟩ (.run program), outcome := none }

/-- Wakes the sleeper that has been asleep for the longest time. -/
def rouse (machine : Machine) : Machine :=
  (machine.sleepers.head?.map machine.wake).getD machine

def sampleBoard : BoardConfig :=
  ⟨"sample", ⟨"P", 1⟩, ⟨5, 5⟩, ["A", "B"], ⟨.whole 0, .whole 0⟩⟩

def building (next : Program) : Program :=
  .call (.type .board) ⟨[.clock .simulated, .boardConfig sampleBoard 0], []⟩ fun _ => next

/-- An ordinary fault that has no text: its number has 4301 digits. -/
def mute : Fault :=
  .raised .value [.int (Nat.pow (Nat.pow 10 100) 43)]

end Microboard.Machine
