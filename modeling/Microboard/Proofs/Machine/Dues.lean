import Microboard.Proofs.Machine.Sound
import Microboard.Proofs.World.Enrolment

/-!
# Dues

A task that was started for a loop or for a handler owes an announcement of its end.
Until it has been heard, the announcement stands with the task or in the queue.
-/

namespace Microboard

theorem TaskId.index_ne {first second : TaskId} (different : first ≠ second) :
    first.index ≠ second.index := by
  intro same
  cases first
  cases second
  exact different (congrArg TaskId.mk same)

/-- The notice goes to a scheduler or to a dispatcher. -/
def Notice.announces : Notice → Bool
  | .release _ => false
  | _ => true

/-- Whoever is told of the end of a task exists. -/
def Notice.Present (world : World) : Notice → Prop
  | .loopEnded target _ => world.schedulers.Has target
  | .handlerEnded target _ => world.dispatchers.Has target
  | .release _ => True

/-- The notice that the turn at hand leaves with a task. -/
def Focus.noted? : Focus → Option Notice
  | .start _ notice => some notice
  | .adopt _ target handle => some (.handlerEnded target handle)
  | _ => none

def Job.announcement? (task : TaskId) : Job → Option Notice
  | .go .. => none
  | .tell other notice _ =>
    if other = task ∧ notice.announces = true then some notice else none

namespace Machine

def notices (machine : Machine) (task : TaskId) : List Notice :=
  ((machine.tasks[task.index]?).map (·.notices)).getD []

/-- The announcements of a task that have not been heard yet. -/
def dues (machine : Machine) (task : TaskId) : List Notice :=
  (machine.notices task).filter Notice.announces ++
    machine.ready.filterMap (Job.announcement? task)

def Ended (machine : Machine) (task : TaskId) : Prop :=
  (machine.outcomeOf task).isSome = true

/-- A task that has not ended will announce its end. -/
structure Announces (machine : Machine) (task : TaskId) (notice : Notice) : Prop where
  noted : notice ∈ machine.notices task
  unfinished : ¬ machine.Ended task

def enrols? (machine : Machine) : Option (Work × Ref .scheduler × Nat) :=
  match machine.control with
  | .idle => none
  | .busy _ focus => focus.enrols?

/-- A task is only started, or taken on, in the name of an object that exists. -/
def Present (machine : Machine) : Prop :=
  ∀ thread focus notice, machine.control = .busy thread focus → focus.noted? = some notice →
    notice.Present machine.world

instance (world : World) : (notice : Notice) → Decidable (notice.Present world)
  | .loopEnded target _ => inferInstanceAs (Decidable (world.schedulers.Has target))
  | .handlerEnded target _ => inferInstanceAs (Decidable (world.dispatchers.Has target))
  | .release _ => inferInstanceAs (Decidable True)

def evidentlyPresent (machine : Machine) : Bool :=
  match machine.control with
  | .busy _ focus => focus.noted?.all fun notice => decide (notice.Present machine.world)
  | .idle => true

theorem present_of_evident {past : List Machine} (evident : past.all evidentlyPresent = true) :
    ∀ state ∈ past, state.Present := by
  intro state member thread focus notice busy noted
  have seen := List.all_eq_true.mp evident state member
  simpa [evidentlyPresent, busy, noted] using seen

/-- A call of a callback runs it or gives its invocation back; any other call is an
operation of the world. -/
theorem call_cases (machine : Machine) (thread : Thread) (target : Value)
    (arguments : Arguments) :
    (∃ callbacks focus, focus.enrols? = none ∧
      machine.call thread target arguments =
        { machine with callbacks, control := .busy thread focus }) ∨
    machine.call thread target arguments =
      machine.go thread (machine.world.callValue target arguments) := by
  unfold call
  split
  · simp only
    split <;> exact .inl ⟨_, _, rfl, rfl⟩
  · exact .inl ⟨machine.callbacks, _, rfl, rfl⟩
  · exact .inr rfl

/-- What a turn of a thread does about tasks and their lists: nothing, but for the opening
of an operation, the registering of a loop, a new task, the taking on of a future, waiting,
and the end of a task. -/
inductive Deals (machine : Machine) (thread : Thread) : Focus → Machine → Prop where
  | quiet {focus : Focus} {next : Machine} (tasks : next.tasks = machine.tasks)
      (ready : next.ready = machine.ready)
      (errands : next.world.errands = machine.world.errands) (idle : next.enrols? = none) :
      Deals machine thread focus next
  | opens (frame : Frame) (focus : Focus) :
      Deals machine thread (.within frame focus)
        (machine.go { thread with stack := frame :: thread.stack } (machine.world, focus))
  | registers (target : Value) (arguments : Arguments) {scheduler : Ref .scheduler}
      {callback : Value} {new : World}
      (enrols : World.Enrols (machine.world.schedulers.get scheduler).table "forever" callback
        machine.world new) :
      Deals machine thread (.call target arguments)
        (machine.go thread (new, machine.world.starting scheduler))
  | creates {focus : Focus} (stack : List Frame) (begin : Focus) (program : Program) :
      Deals machine thread focus
        { (machine.createTask stack begin []).1 with control := .busy thread (.run program) }
  | starts (work : Work) (notice : Notice) :
      Deals machine thread (.start work notice) (machine.advance thread (.start work notice))
  | adopts {task : TaskId} (target : Ref .dispatcher) (handle : Ref .handle)
      (listed : task.index < machine.tasks.length) :
      Deals machine thread (.adopt task target handle)
        ((watch (.handlerEnded target handle) machine task).go thread
          (registerTask machine.world task (.handlerEnded target handle), .nothing))
  | waits (tasks : List TaskId) :
      Deals machine thread (.wait tasks) (machine.wait thread tasks)
  | ends (reply : Reply) :
      Deals machine thread (.reply reply) (machine.finish thread.owner reply)

theorem Deals.steady {machine : Machine} {thread other : Thread} {focus : Focus}
    {pair : World × Focus} (steady : World.Steady machine.world pair) :
    Deals machine thread focus (machine.go other pair) :=
  .quiet rfl rfl (congrArg Prod.fst steady.affairs) steady.focus

theorem advance_deals (machine : Machine) (thread : Thread) (focus : Focus) :
    Deals machine thread focus (machine.advance thread focus) := by
  cases focus with
  | reply reply =>
      simp only [advance]
      split
      · exact .ends reply
      · exact .steady (World.resume_steady reply)
  | within frame focus => exact .opens frame focus
  | run program =>
      cases program with
      | spawn callback program => exact .creates [.spawned] (.call callback .empty) program
      | launch work next =>
          simp only [advance, run]
          split
          · exact .creates [] (.await work) _
          · exact .quiet rfl rfl rfl rfl
      | _ => exact .quiet rfl rfl rfl rfl
  | call target arguments =>
      rcases call_cases machine thread target arguments with
        ⟨callbacks, focus, idle, same⟩ | same
      · rw [advance, same]
        exact .quiet rfl rfl rfl idle
      · rw [advance, same]
        have registers := World.callValue_registers machine.world target arguments
        generalize machine.world.callValue target arguments = pair at registers
        cases registers with
        | steady errands idle => exact .quiet rfl rfl errands idle
        | loop enrols => exact .registers target arguments enrols
  | await work =>
      cases work with
      | body index invocation coroutine => exact .quiet rfl rfl rfl rfl
      | future task =>
          rcases join_cases machine thread task with ⟨reply, joins⟩ | joins <;>
            rw [advance, await, joins] <;> exact .quiet rfl rfl rfl rfl
      | _ => exact .steady (World.begin_steady _)
  | invoke handle =>
      simp only [advance]
      split <;> exact .quiet rfl rfl rfl rfl
  | publish bus event => exact .steady ⟨rfl, World.publishRest_enrols _ _ _⟩
  | sleep interval =>
      simp only [advance, sleep]
      split <;> exact .quiet rfl rfl rfl rfl
  | start work notice => exact .starts work notice
  | adopt task target handle =>
      rcases adopt_cases machine thread task target handle with ⟨listed, adopts⟩ | ⟨-, refuses⟩
      · rw [advance, adopts]
        exact .adopts target handle listed
      · rw [advance, refuses]
        exact .quiet rfl rfl rfl rfl
  | wait tasks => exact .waits tasks

variable {machine next : Machine} {task : TaskId}

theorem due_of_noted {notice : Notice} (noted : notice ∈ machine.notices task)
    (loud : notice.announces = true) : notice ∈ machine.dues task :=
  List.mem_append_left _ (List.mem_filter.mpr ⟨noted, loud⟩)

/-- What is due depends on the records of the tasks and on the queue only, and there on
nothing but the announcements. -/
theorem dues_append {more : List Job} (tasks : next.tasks = machine.tasks)
    (ready : next.ready = machine.ready ++ more)
    (silent : more.filterMap (Job.announcement? task) = []) :
    next.dues task = machine.dues task := by
  simp only [dues, notices, tasks, ready, List.filterMap_append, silent, List.append_nil]

theorem dues_same (tasks : next.tasks = machine.tasks) (ready : next.ready = machine.ready) :
    next.dues task = machine.dues task := by
  simp only [dues, notices, tasks, ready]

theorem dues_watch {notice : Notice} (silent : notice.announces = false) (machine : Machine)
    (other task : TaskId) : (watch notice machine other).dues task = machine.dues task := by
  unfold watch
  cases ended : (machine.tasks[other.index]?).bind (·.outcome) with
  | some reply =>
      refine dues_append rfl rfl ?_
      simp [Job.announcement?, silent]
  | none =>
      simp only [dues, notices, List.getElem?_modify]
      cases found : machine.tasks[task.index]? with
      | none => rfl
      | some record =>
          by_cases same : other.index = task.index
          · simp [same, silent]
          · simp [same]

/-- A task of which notice is asked owes one announcement more. -/
theorem dues_watched {notice : Notice} (loud : notice.announces = true) {other : TaskId}
    (listed : other.index < machine.tasks.length) (task : TaskId) :
    ((watch notice machine other).dues task).Perm
      (if task = other then notice :: machine.dues task else machine.dues task) := by
  unfold watch
  cases ended : (machine.tasks[other.index]?).bind (·.outcome) with
  | some reply =>
      by_cases same : task = other
      · subst same
        simp only [dues, notices, enqueue, List.filterMap_append, if_true]
        simp [Job.announcement?, loud, ← List.append_assoc, List.perm_append_singleton]
      · simp [dues, notices, enqueue, Job.announcement?, same, Ne.symm same]
  | none =>
      by_cases same : task = other
      · subst same
        simp [dues, notices, List.getElem?_eq_getElem listed, loud, List.perm_middle]
      · have apart : other.index ≠ task.index := TaskId.index_ne (Ne.symm same)
        simp [dues, notices, apart, same]

theorem dues_watchAll (waiter : Nat) (machine : Machine) (tasks : List TaskId)
    (task : TaskId) :
    (tasks.foldl (watch (.release waiter)) machine).dues task = machine.dues task := by
  induction tasks generalizing machine with
  | nil => rfl
  | cons other rest induction => rw [List.foldl_cons, induction, dues_watch rfl]

theorem dues_wait (machine : Machine) (thread : Thread) (tasks : List TaskId)
    (task : TaskId) : (machine.wait thread tasks).dues task = machine.dues task :=
  dues_watchAll _ _ _ _

theorem notices_finish (machine : Machine) (owner : Option TaskId) (reply : Reply)
    (task : TaskId) :
    (machine.finish owner reply).notices task =
      if owner = some task then [] else machine.notices task := by
  cases owner with
  | none => rfl
  | some other =>
      simp only [finish, notices, List.getElem?_modify, Option.some.injEq]
      by_cases same : other = task
      · subst same
        cases found : machine.tasks[other.index]? <;> simp
      · simp [same, TaskId.index_ne same]

/-- A task that ends leaves its announcements to the queue. -/
theorem dues_finish (machine : Machine) (owner : Option TaskId) (reply : Reply)
    (task : TaskId) :
    ((machine.finish owner reply).dues task).Perm (machine.dues task) := by
  have told (other : TaskId) (notices : List Notice) :
      (notices.map fun notice => Job.tell other notice reply).filterMap
          (Job.announcement? task) =
        if other = task then notices.filter Notice.announces else [] := by
    induction notices with
    | nil => simp
    | cons notice rest induction =>
        by_cases same : other = task
        · cases loud : notice.announces <;> simp_all [Job.announcement?]
        · simp_all [Job.announcement?]
  simp only [dues, notices_finish]
  cases owner with
  | none => exact .refl _
  | some other =>
      simp only [finish, List.filterMap_append, Option.some.injEq]
      rw [told]
      by_cases same : other = task
      · subst same
        simp only [if_true, List.filter_nil, List.nil_append]
        exact List.perm_append_comm
      · simp [same]

/-- A new task owes what it was given to announce. -/
theorem dues_create (machine : Machine) (stack : List Frame) (focus : Focus)
    (given : List Notice) (task : TaskId) (listed : ∀ notice, notice ∈ machine.dues task →
      task.index < machine.tasks.length) :
    (machine.createTask stack focus given).1.dues task =
      if task = ⟨machine.tasks.length⟩ then given.filter Notice.announces
      else machine.dues task := by
  have queue : (machine.createTask stack focus given).1.ready.filterMap
      (Job.announcement? task) = machine.ready.filterMap (Job.announcement? task) := by
    simp [createTask, Job.announcement?]
  simp only [dues, queue]
  by_cases last : task = ⟨machine.tasks.length⟩
  · subst last
    have idle : machine.dues ⟨machine.tasks.length⟩ = [] := by
      apply List.eq_nil_iff_forall_not_mem.mpr
      intro notice member
      exact absurd (listed notice member) (Nat.lt_irrefl _)
    have rest := (List.append_eq_nil_iff.mp idle).2
    simp [rest, notices, createTask]
  · have apart : task.index ≠ machine.tasks.length := TaskId.index_ne last
    have same : (machine.createTask stack focus given).1.notices task =
        machine.notices task := by
      simp only [notices, createTask, List.getElem?_append]
      by_cases inside : task.index < machine.tasks.length
      · simp [inside]
      · have beyond : task.index - machine.tasks.length ≠ 0 := by omega
        simp [inside, beyond]
    simp [last, same]

end Machine

end Microboard
