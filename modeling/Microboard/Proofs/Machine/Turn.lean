import Microboard.Proofs.Machine.Move
import Microboard.Proofs.World.Calls

/-!
# Turns of a thread

What a turn of a running thread does to the world and to its own stack.  The
frames below a point of the stack stay as they are until everything above has
ended, and a turn keeps to every scope that the frames above and the call at hand
keep to.
-/

namespace Microboard

/-- The call or the awaited work that is at hand stays inside a scope. -/
def Focus.Permitted (scope : Scope) (world : World) : Focus → Prop
  | .call target arguments => target.Permitted scope world arguments
  | .await work => work.Within scope world
  | _ => True

namespace Machine

/-- A thread that does not run: it is in the queue, asleep, or waits for tasks. -/
inductive Parked (machine : Machine) (thread : Thread) : Focus → Prop where
  | queued {focus : Focus} (queued : .go thread focus ∈ machine.ready) :
      Parked machine thread focus
  | asleep {sleeper : Sleeper} (listed : sleeper ∈ machine.sleepers)
      (own : sleeper.thread = thread) : Parked machine thread .nothing
  | waits {waiter : Waiter} (listed : waiter ∈ machine.waiters)
      (pending : waiter.remaining ≠ 0) (own : waiter.thread = thread) :
      Parked machine thread .nothing

/-- A turn after which the thread still runs, or one that suspends it. The frames
above `base` stay inside the scope. -/
inductive Turn (scope : Scope) (machine : Machine) (owner : Option TaskId)
    (base : List Frame) : Machine → Prop where
  | goes {next : Machine} (above : List Frame) (focus : Focus)
      (steps : World.Steps scope machine.world next.world)
      (control : next.control = .busy ⟨owner, above ++ base⟩ focus)
      (frames : ∀ frame ∈ above, frame.Within scope) (inside : focus.Within scope) :
      Turn scope machine owner base next
  | parks {next : Machine} (above : List Frame)
      (steps : World.Steps scope machine.world next.world)
      (control : next.control = .idle) (parked : next.Parked ⟨owner, above ++ base⟩ .nothing)
      (frames : ∀ frame ∈ above, frame.Within scope) :
      Turn scope machine owner base next

variable {scope : Scope} {machine : Machine} {owner : Option TaskId} {base above : List Frame}

theorem Turn.of_conduct {next : World × Focus}
    (conduct : World.Conduct scope machine.world next)
    (frames : ∀ frame ∈ above, frame.Within scope) :
    Turn scope machine owner base (machine.go ⟨owner, above ++ base⟩ next) :=
  .goes above next.2 conduct.steps rfl frames conduct.focus

theorem Turn.same {next : Machine} {focus : Focus} (world : next.world = machine.world)
    (control : next.control = .busy ⟨owner, above ++ base⟩ focus)
    (frames : ∀ frame ∈ above, frame.Within scope) (inside : focus.Within scope) :
    Turn scope machine owner base next :=
  .goes above focus (world ▸ World.steps_refl _) control frames inside

theorem registerTask_steps (world : World) (task : TaskId) (notice : Notice) :
    World.Steps scope world (registerTask world task notice) := by
  cases notice with
  | loopEnded target id =>
      exact World.Steps.one (.setTasks world target fun scheduler =>
        scheduler.tasks ++ [(id, task)])
  | handlerEnded target handle =>
      exact World.Steps.one (.setBackground world target fun dispatcher =>
        enlist dispatcher.background task)
  | release waiter => exact World.steps_refl world

theorem createTask_steps (machine : Machine) (stack : List Frame) (focus : Focus)
    (notices : List Notice) :
    World.Steps scope machine.world (machine.createTask stack focus notices).1.world := by
  unfold createTask
  simp only
  generalize machine.world = world
  induction notices generalizing world with
  | nil => exact World.steps_refl world
  | cons notice rest induction => exact (registerTask_steps world _ notice).trans (induction _)

theorem watch_eq (notice : Notice) (machine : Machine) (task : TaskId) :
    ∃ tasks more, tasks.length = machine.tasks.length ∧
      (∀ thread focus, .go thread focus ∉ more) ∧
      watch notice machine task = { machine with tasks, ready := machine.ready ++ more } := by
  unfold watch
  cases ended : (machine.tasks[task.index]?).bind (·.outcome) with
  | some reply =>
      refine ⟨machine.tasks, [.tell task notice reply], rfl, ?_, rfl⟩
      intro thread focus member
      cases List.mem_singleton.mp member
  | none =>
      exact ⟨_, [], List.length_modify _ _ _, fun _ _ => List.not_mem_nil,
        by rw [List.append_nil]⟩

theorem watchAll_eq (notice : Notice) (machine : Machine) (tasks : List TaskId) :
    ∃ records more, records.length = machine.tasks.length ∧
      (∀ thread focus, .go thread focus ∉ more) ∧
      tasks.foldl (watch notice) machine =
        { machine with tasks := records, ready := machine.ready ++ more } := by
  induction tasks generalizing machine with
  | nil => exact ⟨machine.tasks, [], rfl, fun _ _ => List.not_mem_nil, by simp⟩
  | cons task rest induction =>
      obtain ⟨records, first, length, noneFirst, watched⟩ := watch_eq notice machine task
      obtain ⟨others, more, lengths, noneMore, done⟩ := induction (watch notice machine task)
      refine ⟨others, first ++ more, ?_, ?_, ?_⟩
      · rw [lengths, watched]
        exact length
      · intro thread focus member
        rcases List.mem_append.mp member with early | late
        · exact noneFirst thread focus early
        · exact noneMore thread focus late
      · rw [List.foldl_cons, done, watched]
        simp

/-- A thread that waits is listed with the number of tasks that it waits for. -/
theorem wait_eq (machine : Machine) (thread : Thread) (tasks : List TaskId) :
    ∃ records more, records.length = machine.tasks.length ∧
      (∀ thread focus, .go thread focus ∉ more) ∧
      machine.wait thread tasks =
        { machine with
          control := .idle
          tasks := records
          ready := machine.ready ++ more
          waiters := machine.waiters ++ [⟨tasks.length, thread⟩] } :=
  watchAll_eq (.release machine.waiters.length)
    { machine with
      control := .idle
      waiters := machine.waiters ++ [⟨tasks.length, thread⟩] } tasks

theorem wait_turn (thread : Thread) {tasks : List TaskId} (given : tasks ≠ []) :
    (machine.wait thread tasks).control = .idle ∧
      (machine.wait thread tasks).world = machine.world ∧
      (machine.wait thread tasks).Parked thread .nothing := by
  obtain ⟨records, more, -, -, waits⟩ := wait_eq machine thread tasks
  rw [waits]
  refine ⟨rfl, rfl, .waits (List.mem_append_right _ (List.mem_singleton_self _)) ?_ rfl⟩
  simpa using given

theorem run_turn (program : Program) (frames : ∀ frame ∈ above, frame.Within scope) :
    Turn scope machine owner base (machine.run ⟨owner, above ++ base⟩ program) := by
  cases program with
  | finish | read | call | await | lookup | bind | define =>
      exact .same rfl rfl frames (by trivial)
  | report label reply next =>
      exact .of_conduct ⟨World.steps_observe _ _, trivial⟩ frames
  | identify next => exact .of_conduct ⟨World.steps_counted _, trivial⟩ frames
  | spawn callback next =>
      exact .goes above _ (createTask_steps machine [.spawned] (.call callback .empty) []) rfl
        frames trivial
  | launch work next =>
      simp only [run]
      split
      · exact .goes above _ (createTask_steps machine [] (.await work) []) rfl frames trivial
      · exact .same rfl rfl frames trivial

theorem call_turn {target : Value} {arguments : Arguments}
    (closed : scope.Closed machine.world) (frames : ∀ frame ∈ above, frame.Within scope)
    (permitted : target.Permitted scope machine.world arguments) :
    Turn scope machine owner base (machine.call ⟨owner, above ++ base⟩ target arguments) := by
  unfold call
  split
  · simp only
    split <;> exact .same rfl rfl frames trivial
  · exact .same rfl rfl frames trivial
  · exact .of_conduct (World.callValue_conduct closed permitted) frames

/-- Whoever awaits a task is answered at once, or waits for it. -/
theorem join_cases (machine : Machine) (thread : Thread) (task : TaskId) :
    (∃ reply, machine.join thread task = machine.go thread (machine.world, .reply reply)) ∨
      machine.join thread task = machine.go thread (machine.world,
        .within (.program fun _ => .await (.future task) .finish) (.wait [task])) := by
  unfold join
  split
  · exact .inl ⟨_, rfl⟩
  · exact .inl ⟨_, rfl⟩
  · split
    · exact .inl ⟨_, rfl⟩
    · exact .inr rfl

/-- A future that is taken on is registered and watched, or there is no such task. -/
theorem adopt_cases (machine : Machine) (thread : Thread) (task : TaskId)
    (target : Ref .dispatcher) (handle : Ref .handle) :
    task.index < machine.tasks.length ∧
        machine.adopt thread task target handle =
          (watch (.handlerEnded target handle) machine task).go thread
            (registerTask machine.world task (.handlerEnded target handle), .nothing) ∨
      machine.tasks.length ≤ task.index ∧
        machine.adopt thread task target handle =
          machine.go thread (machine.world, .raise (.complaint .foreignFuture)) := by
  by_cases listed : task.index < machine.tasks.length
  · exact .inl ⟨listed, if_pos listed⟩
  · exact .inr ⟨Nat.le_of_not_lt listed, if_neg listed⟩

theorem await_turn {work : Work} (closed : scope.Closed machine.world)
    (frames : ∀ frame ∈ above, frame.Within scope)
    (permitted : work.Within scope machine.world) :
    Turn scope machine owner base (machine.await ⟨owner, above ++ base⟩ work) := by
  unfold await
  split
  next task =>
    rcases join_cases machine ⟨owner, above ++ base⟩ task with ⟨reply, answered⟩ | waits
    · rw [answered]
      exact .same rfl rfl frames trivial
    · rw [waits]
      exact .same rfl rfl frames ⟨trivial, List.cons_ne_nil task []⟩
  · exact .same rfl rfl frames trivial
  · exact .of_conduct (World.begin_conduct closed permitted) frames

theorem sleep_eq {interval : Value} {due : Float} (thread : Thread)
    (timed : wakeTime machine.world.now interval = .ok due) :
    machine.sleep thread interval =
      { machine with
        world := machine.world.observe (.slept interval)
        control := .idle
        sleepers := machine.sleepers ++ [⟨due, machine.slept, thread⟩]
        slept := machine.slept + 1 } := by
  simp only [sleep, World.observe, timed]

theorem sleep_turn (interval : Value) (frames : ∀ frame ∈ above, frame.Within scope) :
    Turn scope machine owner base (machine.sleep ⟨owner, above ++ base⟩ interval) := by
  have observed : World.Steps scope machine.world _ :=
    World.steps_observe machine.world (.slept interval)
  unfold sleep
  simp only
  split
  · exact .of_conduct ⟨observed, trivial⟩ frames
  · refine .parks above observed rfl ?_ frames
    exact .asleep (List.mem_append_right _ (List.mem_singleton_self _)) rfl

/-- A turn of a thread that does not return below the given frames. -/
theorem advance_turn {focus : Focus} (closed : scope.Closed machine.world)
    (frames : ∀ frame ∈ above, frame.Within scope) (inside : focus.Within scope)
    (permitted : focus.Permitted scope machine.world)
    (going : ∀ reply, focus = .reply reply → above ≠ []) :
    Turn scope machine owner base (machine.advance ⟨owner, above ++ base⟩ focus) := by
  cases focus with
  | reply reply =>
      cases above with
      | nil => exact absurd rfl (going reply rfl)
      | cons frame rest =>
          have rests : ∀ frame ∈ rest, frame.Within scope :=
            fun frame member => frames frame (List.mem_cons_of_mem _ member)
          exact .of_conduct
            (World.resume_conduct closed (frames frame List.mem_cons_self) reply) rests
  | within frame focus =>
      refine .goes (frame :: above) focus (World.steps_refl _) rfl ?_ inside.2
      intro other member
      rcases List.mem_cons.mp member with rfl | member
      · exact inside.1
      · exact frames other member
  | run program => exact run_turn program frames
  | call target arguments => exact call_turn closed frames permitted
  | await work => exact await_turn closed frames permitted
  | invoke handle =>
      simp only [advance]
      split <;> exact .same rfl rfl frames trivial
  | publish bus event =>
      exact .same rfl rfl frames (World.publishRest_within inside event _)
  | sleep interval => exact sleep_turn interval frames
  | start work notice =>
      exact .goes above _ (createTask_steps machine [] (.await work) [notice]) rfl frames trivial
  | adopt task target handle =>
      rcases adopt_cases machine ⟨owner, above ++ base⟩ task target handle with
        ⟨-, adopts⟩ | ⟨-, refuses⟩
      · rw [advance, adopts]
        have steps : World.Steps scope machine.world _ :=
          registerTask_steps machine.world task (.handlerEnded target handle)
        exact .goes above .nothing steps rfl frames trivial
      · rw [advance, refuses]
        exact .same rfl rfl frames trivial
  | wait tasks =>
      obtain ⟨control, world, parked⟩ := wait_turn ⟨owner, above ++ base⟩ inside
      exact .parks above (world ▸ World.steps_refl _) control parked frames

/-- Telling of an end changes the world, the queue and the waiters, and nothing else. -/
theorem tell_eq (machine : Machine) (task : TaskId) (notice : Notice) (reply : Reply) :
    ∃ world ready waiters,
      machine.tell task notice reply = { machine with world, ready, waiters } := by
  cases notice with
  | loopEnded target id => exact ⟨_, machine.ready, machine.waiters, rfl⟩
  | handlerEnded target handle => exact ⟨_, machine.ready, machine.waiters, rfl⟩
  | release waiter =>
      unfold tell
      simp only
      split
      next thread found => exact ⟨machine.world, _, _, rfl⟩
      next => exact ⟨machine.world, machine.ready, _, rfl⟩

theorem tell_steps (machine : Machine) (task : TaskId) (notice : Notice) (reply : Reply) :
    World.Steps scope machine.world (machine.tell task notice reply).world := by
  cases notice with
  | loopEnded target id =>
      exact World.Steps.one (.setTasks _ target fun scheduler =>
        scheduler.tasks.filter fun entry => entry.1 ≠ id)
  | handlerEnded target handle =>
      have struck : World.Steps scope machine.world _ :=
        World.Steps.one (.setBackground machine.world target fun dispatcher =>
          dispatcher.background.erase task)
      exact struck.trans (World.steps_noteOutcome _ _ _)
  | release waiter =>
      unfold tell
      simp only
      split <;> exact World.steps_refl _

end Machine

end Microboard
