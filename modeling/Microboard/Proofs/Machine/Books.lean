import Microboard.Proofs.Machine.Turn
import Microboard.Proofs.World.Sound

/-!
# The books of a machine

Every task has at most one thread, no two sleepers have one number, and a waiter is
released at most as often as it waits.  A run keeps the books in this order, so a
suspended thread goes on exactly once.
-/

namespace Microboard

def Job.releases (waiter : Nat) : Job → Bool
  | .go .. => false
  | .tell _ notice _ => notice = .release waiter

namespace Machine

/-- How often a waiter is still to be released. -/
def pending (machine : Machine) (waiter : Nat) : Nat :=
  machine.ready.countP (Job.releases waiter) +
    (machine.tasks.flatMap (·.notices)).count (.release waiter)

/-- For how many tasks a waiter still waits. -/
def remaining (machine : Machine) (waiter : Nat) : Nat :=
  ((machine.waiters[waiter]?).map (·.remaining)).getD 0

/-- The sleepers of a machine have numbers of their own. -/
structure Numbered (machine : Machine) : Prop where
  numbers : (machine.sleepers.map (·.number)).Nodup
  slept : ∀ sleeper ∈ machine.sleepers, sleeper.number < machine.slept

/-- What the books of every reachable machine have in common. -/
structure Sound (machine : Machine) : Prop where
  world : machine.world.Sound
  single : ∀ owner, machine.live owner ≤ 1
  owned : ∀ task, machine.live (some task) ≠ 0 → task.index < machine.tasks.length
  numbered : machine.Numbered
  awaited : ∀ waiter, machine.pending waiter ≤ machine.remaining waiter
  focus : ∀ thread focus, machine.control = .busy thread focus → focus.Within .everything
  queued : ∀ thread focus, .go thread focus ∈ machine.ready → focus.Within .everything

theorem sound_initial (looping : Bool) (registry : Registry) (names : List (String × Value)) :
    (initial (.initial looping registry) names).Sound where
  world := World.sound_initial looping registry
  single _ := Nat.zero_le _
  owned _ present := absurd rfl present
  numbered := ⟨List.Pairwise.nil, fun _ member => absurd member List.not_mem_nil⟩
  awaited _ := Nat.le_refl _
  focus _ _ busy := nomatch busy
  queued _ _ member := absurd member List.not_mem_nil

/-- What the books show of one turn of a thread: it goes on, it goes on beside a new
task or with notice asked of one, it falls asleep, it waits for tasks, or it ends. -/
inductive Booked (machine : Machine) (owner : Option TaskId) : Machine → Prop where
  | goes {next : Machine} {stack : List Frame} {focus : Focus}
      (control : next.control = .busy ⟨owner, stack⟩ focus)
      (ready : next.ready = machine.ready) (sleepers : next.sleepers = machine.sleepers)
      (slept : next.slept = machine.slept) (tasks : next.tasks = machine.tasks)
      (waiters : next.waiters = machine.waiters) : Booked machine owner next
  | starts {next : Machine} {stack first : List Frame} {focus begin : Focus}
      {notices : List Notice}
      (control : next.control = .busy ⟨owner, stack⟩ focus)
      (ready : next.ready =
        machine.ready ++ [.go ⟨some ⟨machine.tasks.length⟩, first⟩ begin])
      (sleepers : next.sleepers = machine.sleepers) (slept : next.slept = machine.slept)
      (tasks : next.tasks = machine.tasks ++ [⟨none, notices⟩])
      (waiters : next.waiters = machine.waiters)
      (silent : ∀ waiter, .release waiter ∉ notices)
      (fresh : ∀ frame ∈ first, frame = .spawned) : Booked machine owner next
  | adopts {next : Machine} {stack : List Frame} {focus : Focus} {task : TaskId}
      {notice : Notice} (control : next.control = .busy ⟨owner, stack⟩ focus)
      (ready : next.ready = (watch notice machine task).ready)
      (sleepers : next.sleepers = machine.sleepers) (slept : next.slept = machine.slept)
      (tasks : next.tasks = (watch notice machine task).tasks)
      (waiters : next.waiters = machine.waiters)
      (silent : ∀ waiter, notice ≠ .release waiter) : Booked machine owner next
  | sleeps {next : Machine} {stack : List Frame} {due : Float}
      (control : next.control = .idle) (ready : next.ready = machine.ready)
      (sleepers : next.sleepers = machine.sleepers ++ [⟨due, machine.slept, ⟨owner, stack⟩⟩])
      (slept : next.slept = machine.slept + 1) (tasks : next.tasks = machine.tasks)
      (waiters : next.waiters = machine.waiters) : Booked machine owner next
  | waits (stack : List Frame) (tasks : List TaskId) :
      Booked machine owner (machine.wait ⟨owner, stack⟩ tasks)
  | ends (reply : Reply) : Booked machine owner (machine.finish owner reply)

variable {machine next : Machine} {thread : Thread} {focus : Focus}

theorem advance_booked (machine : Machine) (thread : Thread) {focus : Focus}
    (inside : focus.Within .everything) :
    Booked machine thread.owner (machine.advance thread focus) := by
  cases focus with
  | reply reply =>
      simp only [advance]
      split
      · exact .ends reply
      · exact .goes rfl rfl rfl rfl rfl rfl
  | within frame focus => exact .goes rfl rfl rfl rfl rfl rfl
  | run program =>
      cases program with
      | spawn callback next =>
          refine .starts rfl rfl rfl rfl rfl rfl ?_ ?_
          · exact fun _ => List.not_mem_nil
          · exact fun _ => List.mem_singleton.mp
      | launch work next =>
          simp only [advance, run]
          split
          · refine .starts rfl rfl rfl rfl rfl rfl ?_ ?_
            · exact fun _ => List.not_mem_nil
            · exact fun _ member => absurd member List.not_mem_nil
          · exact .goes rfl rfl rfl rfl rfl rfl
      | _ => exact .goes rfl rfl rfl rfl rfl rfl
  | call target arguments =>
      simp only [advance, call]
      split
      · split <;> exact .goes rfl rfl rfl rfl rfl rfl
      · exact .goes rfl rfl rfl rfl rfl rfl
      · exact .goes rfl rfl rfl rfl rfl rfl
  | await work =>
      simp only [advance, await]
      split
      next task =>
        rcases join_cases machine thread task with ⟨reply, joins⟩ | joins <;> rw [joins] <;>
          exact .goes rfl rfl rfl rfl rfl rfl
      · exact .goes rfl rfl rfl rfl rfl rfl
      · exact .goes rfl rfl rfl rfl rfl rfl
  | invoke handle =>
      simp only [advance]
      split <;> exact .goes rfl rfl rfl rfl rfl rfl
  | publish bus event => exact .goes rfl rfl rfl rfl rfl rfl
  | sleep interval =>
      simp only [advance, sleep]
      split
      · exact .goes rfl rfl rfl rfl rfl rfl
      · exact .sleeps rfl rfl rfl rfl rfl rfl
  | start work notice =>
      refine .starts rfl rfl rfl rfl rfl rfl ?_ ?_
      · intro waiter member
        exact inside waiter (List.mem_singleton.mp member).symm
      · exact fun _ member => absurd member List.not_mem_nil
  | adopt task target handle =>
      rcases adopt_cases machine thread task target handle with ⟨-, adopts⟩ | ⟨-, refuses⟩
      · rw [advance, adopts]
        obtain ⟨records, more, -, -, watches⟩ :=
          watch_eq (.handlerEnded target handle) machine task
        refine .adopts rfl rfl ?_ ?_ rfl ?_ (fun _ => Notice.noConfusion) <;>
          exact watches ▸ rfl
      · rw [advance, refuses]
        exact .goes rfl rfl rfl rfl rfl rfl
  | wait tasks => exact .waits _ tasks

theorem watch_pending (notice : Notice) (machine : Machine) (task : TaskId) (other : Nat) :
    (watch notice machine task).pending other ≤
      machine.pending other + if notice = .release other then 1 else 0 := by
  unfold watch
  cases ended : (machine.tasks[task.index]?).bind (·.outcome) with
  | some reply =>
      by_cases same : notice = .release other
      · simp [pending, enqueue, Job.releases, same]
        omega
      · simp [pending, enqueue, Job.releases, same]
  | none =>
      simp only [pending]
      by_cases inside : task.index < machine.tasks.length
      · obtain ⟨before, record, after, listed, -, changed⟩ :=
          List.exists_of_modify (fun record : Task =>
            { record with notices := record.notices ++ [notice] }) inside
        rw [changed]
        simp only [listed, List.flatMap_append, List.flatMap_cons, List.count_append]
        by_cases same : notice = .release other
        · simp [same]
          omega
        · simp [same]
      · rw [List.modify_eq_self (Nat.le_of_not_lt inside)]
        omega

theorem watchAll_pending (waiter : Nat) (machine : Machine) (tasks : List TaskId)
    (other : Nat) :
    (tasks.foldl (watch (.release waiter)) machine).pending other ≤
      machine.pending other + if other = waiter then tasks.length else 0 := by
  induction tasks generalizing machine with
  | nil => simp
  | cons task rest induction =>
      have first := watch_pending (.release waiter) machine task other
      have others := induction (watch (.release waiter) machine task)
      rw [List.foldl_cons]
      by_cases same : other = waiter
      · simp only [same, if_true, List.length_cons] at *
        omega
      · simp only [same, Ne.symm same, Notice.release.injEq, if_false] at *
        omega

end Machine

end Microboard
