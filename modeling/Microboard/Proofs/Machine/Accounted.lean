import Microboard.Proofs.Machine.Dues

/-!
# Tasks that are accounted for

Schedulers and dispatchers list exactly the tasks whose end they have not heard of yet,
and every loop is listed under a number of its own.
-/

namespace Microboard

def Notice.isLoop : Notice → Bool
  | .loopEnded .. => true
  | _ => false

namespace Machine

/-- The number under which a loop is about to be started has been given out, and no task
announces its end with it. -/
def Unowed (machine : Machine) (target : Ref .scheduler) (id : Nat) : Prop :=
  id < (machine.world.tables.get (machine.world.schedulers.get target).table).next ∧
    ∀ task, .loopEnded target id ∉ machine.dues task

/-- A scheduler lists the tasks whose announcement is due, and the numbers of loops tell
them apart.  A dispatcher lists no task twice, and none that it has heard of. -/
structure Accounted (machine : Machine) : Prop where
  tabled : machine.world.Tabled
  single : ∀ task, (machine.dues task).countP Notice.isLoop ≤ 1
  listed : ∀ task notice, notice ∈ machine.dues task → task.index < machine.tasks.length
  ended : ∀ task, machine.Ended task → machine.notices task = []
  loops : ∀ target id task, (id, task) ∈ (machine.world.schedulers.get target).tasks ↔
    .loopEnded target id ∈ machine.dues task
  handlers : ∀ target task, task ∈ (machine.world.dispatchers.get target).background →
    ∃ handle, .handlerEnded target handle ∈ machine.dues task
  once : ∀ target, (machine.world.dispatchers.get target).background.Nodup
  distinct : ∀ target id first second, .loopEnded target id ∈ machine.dues first →
    .loopEnded target id ∈ machine.dues second → first = second
  below : ∀ target id task, .loopEnded target id ∈ machine.dues task →
    id < (machine.world.tables.get (machine.world.schedulers.get target).table).next
  fresh : ∀ work target id, machine.enrols? = some (work, target, id) →
    machine.world.schedulers.Has target → machine.Unowed target id

variable {machine next : Machine} {task : TaskId}

/-- A task announces its end to one scheduler at the most. -/
theorem Accounted.due_eq (accounted : machine.Accounted) {first second : Notice}
    (left : first ∈ machine.dues task) (right : second ∈ machine.dues task)
    (one : first.isLoop = true) (two : second.isLoop = true) : first = second := by
  have short := accounted.single task
  rw [List.countP_eq_length_filter] at short
  have inFirst := List.mem_filter.mpr ⟨left, one⟩
  have inSecond := List.mem_filter.mpr ⟨right, two⟩
  generalize (machine.dues task).filter Notice.isLoop = loops at inFirst inSecond short
  match loops with
  | [] => exact absurd inFirst List.not_mem_nil
  | [only] => rw [List.mem_singleton.mp inFirst, List.mem_singleton.mp inSecond]
  | _ :: _ :: _ =>
      simp only [List.length_cons] at short
      omega

theorem Accounted.hasScheduler (accounted : machine.Accounted) {target : Ref .scheduler}
    {id : Nat} (due : .loopEnded target id ∈ machine.dues task) :
    machine.world.schedulers.Has target := by
  apply Decidable.byContradiction
  intro missing
  have member := (accounted.loops target id task).mpr due
  rw [Arena.get_of_not_has missing] at member
  exact absurd member List.not_mem_nil

/-- A scheduler lists no task that does not exist yet. -/
theorem Accounted.exists_loop (accounted : machine.Accounted) {target : Ref .scheduler} {id : Nat}
    (listed : (id, task) ∈ (machine.world.schedulers.get target).tasks) :
    task.index < machine.tasks.length :=
  accounted.listed task _ ((accounted.loops target id task).mp listed)

theorem Accounted.exists_handler (accounted : machine.Accounted) {target : Ref .dispatcher}
    (listed : task ∈ (machine.world.dispatchers.get target).background) :
    task.index < machine.tasks.length := by
  obtain ⟨handle, due⟩ := accounted.handlers target task listed
  exact accounted.listed task _ due

theorem Accounted.below_steps (accounted : machine.Accounted)
    (steps : World.Steps .everything machine.world next.world) {target : Ref .scheduler} {id : Nat}
    (has : machine.world.schedulers.Has target)
    (below : id < (machine.world.tables.get (machine.world.schedulers.get target).table).next) :
    id < (next.world.tables.get (next.world.schedulers.get target).table).next := by
  have table := (steps.grows.schedulers target has).2.table
  have more := (steps.grows.tables _ (accounted.tabled target has)).2.next
  rw [table]
  exact Nat.lt_of_lt_of_le below more

/-- What keeps the books: the dues stay as they are, and so do the lists of tasks. -/
theorem Accounted.same (accounted : machine.Accounted)
    (dues : ∀ task, (next.dues task).Perm (machine.dues task))
    (tasks : machine.tasks.length ≤ next.tasks.length)
    (ended : ∀ task, next.Ended task → next.notices task = [])
    (steps : World.Steps .everything machine.world next.world)
    (errands : next.world.errands = machine.world.errands)
    (fresh : ∀ work target id, next.enrols? = some (work, target, id) →
      next.world.schedulers.Has target → next.Unowed target id) : next.Accounted where
  tabled := accounted.tabled.steps steps
  single task := (dues task).countP_eq _ ▸ accounted.single task
  listed task notice member :=
    Nat.lt_of_lt_of_le (accounted.listed task notice ((dues task).mem_iff.mp member)) tasks
  ended := ended
  loops target id task := by
    have same := congrFun (congrArg Prod.fst errands) target
    simp only [World.errands] at same
    rw [same, (dues task).mem_iff]
    exact accounted.loops target id task
  handlers target task := by
    have same := congrFun (congrArg Prod.snd errands) target
    simp only [World.errands] at same
    simp only [same, (dues task).mem_iff]
    exact accounted.handlers target task
  once target := by
    have same := congrFun (congrArg Prod.snd errands) target
    simp only [World.errands] at same
    exact same ▸ accounted.once target
  distinct target id first second left right :=
    accounted.distinct target id first second ((dues first).mem_iff.mp left)
      ((dues second).mem_iff.mp right)
  below target id task due := by
    have earlier := (dues task).mem_iff.mp due
    exact accounted.below_steps steps (accounted.hasScheduler earlier)
      (accounted.below target id task earlier)
  fresh := fresh

theorem ended_same (accounted : machine.Accounted) (tasks : next.tasks = machine.tasks)
    (task : TaskId) (ended : next.Ended task) : next.notices task = [] := by
  simp only [Ended, outcomeOf, notices, tasks] at *
  exact accounted.ended task ended

/-- Nothing happens to the tasks, and nothing new is about to be started. -/
theorem Accounted.goes (accounted : machine.Accounted)
    (dues : ∀ task, next.dues task = machine.dues task) (tasks : next.tasks = machine.tasks)
    (steps : World.Steps .everything machine.world next.world)
    (errands : next.world.errands = machine.world.errands)
    (idle : next.enrols? = none) : next.Accounted := by
  refine accounted.same (fun task => .of_eq (dues task)) (Nat.le_of_eq (by rw [tasks]))
    (ended_same accounted tasks) steps errands ?_
  intro work target id found
  rw [idle] at found
  cases found

theorem Accounted.finish (accounted : machine.Accounted) (owner : Option TaskId)
    (reply : Reply) : (machine.finish owner reply).Accounted := by
  refine accounted.same (dues_finish machine owner reply) ?_ ?_ ?_ ?_ ?_
  · cases owner <;> simp [Machine.finish]
  · intro task ended
    rw [notices_finish]
    cases owner with
    | none => exact accounted.ended task ended
    | some other =>
        by_cases same : other = task
        · simp [same]
        · simp only [Option.some.injEq, same, if_false]
          apply accounted.ended task
          simpa [Ended, outcomeOf, Machine.finish, TaskId.index_ne same] using ended
  · cases owner <;> exact World.steps_refl _
  · cases owner <;> rfl
  · intro work target id found
    cases owner <;> cases found

theorem Accounted.unborn (accounted : machine.Accounted) :
    machine.dues ⟨machine.tasks.length⟩ = [] := by
  apply List.eq_nil_iff_forall_not_mem.mpr
  intro notice member
  exact absurd (accounted.listed _ notice member) (Nat.lt_irrefl _)

theorem Accounted.ended_create (accounted : machine.Accounted) {given : List Notice}
    (tasks : next.tasks = machine.tasks ++ [⟨none, given⟩]) (task : TaskId)
    (ended : next.Ended task) : next.notices task = [] := by
  simp only [Ended, outcomeOf, notices, tasks, List.getElem?_append] at ended ⊢
  by_cases inside : task.index < machine.tasks.length
  · simp only [inside, if_true] at ended ⊢
    exact accounted.ended task ended
  · simp only [inside, if_false] at ended ⊢
    by_cases last : task.index - machine.tasks.length = 0 <;> simp [last] at ended

/-- A task without announcements joins the others. -/
theorem Accounted.launch (accounted : machine.Accounted) (stack : List Frame) (focus : Focus)
    (control : Control) (idle : ∀ thread focus, control = .busy thread focus →
      focus.enrols? = none) :
    { (machine.createTask stack focus []).1 with control }.Accounted := by
  refine accounted.same ?_ ?_ ?_ (World.steps_refl _) rfl ?_
  · intro task
    apply List.Perm.of_eq
    have due := dues_create machine stack focus [] task (accounted.listed task)
    refine Eq.trans due ?_
    by_cases last : task = ⟨machine.tasks.length⟩
    · simp [last, accounted.unborn]
    · simp [last]
  · simp [createTask]
  · exact accounted.ended_create rfl
  · intro work target id found
    cases control with
    | idle => cases found
    | busy thread focus =>
        have none := idle thread focus rfl
        simp only [enrols?] at found
        rw [none] at found
        cases found

theorem mem_registerTask {world : World} {notice : Notice} (present : notice.Present world)
    (task other : TaskId) (target : Ref .scheduler) (id : Nat) :
    (id, other) ∈ ((registerTask world task notice).schedulers.get target).tasks ↔
      (id, other) ∈ (world.schedulers.get target).tasks ∨
        other = task ∧ notice = .loopEnded target id := by
  cases notice with
  | loopEnded named number =>
      by_cases same : target = named
      · subst same
        simp only [registerTask, World.setScheduler, Arena.get_modify_self _ present,
          List.mem_append, List.mem_singleton, Prod.mk.injEq, Notice.loopEnded.injEq, true_and]
        constructor
        · rintro (earlier | ⟨rfl, rfl⟩)
          · exact .inl earlier
          · exact .inr ⟨rfl, rfl⟩
        · rintro (earlier | ⟨rfl, rfl⟩)
          · exact .inl earlier
          · exact .inr ⟨rfl, rfl⟩
      · simp [registerTask, World.setScheduler, Arena.get_modify_of_ne _ _ same, Ne.symm same]
  | _ => simp [registerTask, World.setDispatcher]

theorem mem_enlist {tasks : List TaskId} {other : TaskId} :
    other ∈ enlist tasks task ↔ other ∈ tasks ∨ other = task := by
  unfold enlist
  split
  next listed =>
    refine ⟨.inl, ?_⟩
    rintro (earlier | rfl)
    · exact earlier
    · exact listed
  next => rw [List.mem_append, List.mem_singleton]

theorem nodup_enlist {tasks : List TaskId} (once : tasks.Nodup) : (enlist tasks task).Nodup := by
  unfold enlist
  split
  next => exact once
  next unlisted =>
    refine List.nodup_append.mpr ⟨once, List.pairwise_singleton _ _, ?_⟩
    rintro _ member _ last rfl
    exact unlisted (List.mem_singleton.mp last ▸ member)

theorem background_registerTask (world : World) (notice : Notice) (task : TaskId)
    (target : Ref .dispatcher) :
    (∃ handle, notice = .handlerEnded target handle) ∧
        ((registerTask world task notice).dispatchers.get target).background =
          enlist (world.dispatchers.get target).background task ∨
      ((registerTask world task notice).dispatchers.get target).background =
        (world.dispatchers.get target).background := by
  cases notice with
  | handlerEnded named handle =>
      by_cases same : target = named
      · subst same
        by_cases has : world.dispatchers.Has target
        · refine .inl ⟨⟨handle, rfl⟩, ?_⟩
          simp only [registerTask, World.setDispatcher, Arena.get_modify_self _ has]
        · apply Or.inr
          simp only [registerTask, World.setDispatcher]
          rw [Arena.get_of_not_has has,
            Arena.get_of_not_has fun later => has (Arena.has_modify.mp later)]
      · apply Or.inr
        simp only [registerTask, World.setDispatcher, Arena.get_modify_of_ne _ _ same]
  | _ => exact .inr rfl

theorem mem_background_registerTask {world : World} {notice : Notice} {other : TaskId}
    {target : Ref .dispatcher}
    (listed : other ∈ ((registerTask world task notice).dispatchers.get target).background) :
    other ∈ (world.dispatchers.get target).background ∨
      other = task ∧ ∃ handle, notice = .handlerEnded target handle := by
  rcases background_registerTask world notice task target with ⟨own, background⟩ | background
  · rw [background, mem_enlist] at listed
    exact listed.imp_right fun same => ⟨same, own⟩
  · exact .inl (background ▸ listed)

theorem nodup_background_registerTask {world : World} {target : Ref .dispatcher}
    (once : (world.dispatchers.get target).background.Nodup) (task : TaskId) (notice : Notice) :
    ((registerTask world task notice).dispatchers.get target).background.Nodup := by
  rcases background_registerTask world notice task target with ⟨-, background⟩ | background
  · exact background ▸ nodup_enlist once
  · exact background ▸ once

/-- Once a notice is due, its task stands on the list of whoever will hear of it. -/
theorem Accounted.joins (accounted : machine.Accounted) (task : TaskId) {notice : Notice}
    (present : notice.Present machine.world)
    (world : next.world = registerTask machine.world task notice)
    (due : ∀ other, (next.dues other).Perm
      (if other = task then notice :: machine.dues other else machine.dues other))
    (more : machine.tasks.length ≤ next.tasks.length) (listed : task.index < next.tasks.length)
    (ended : ∀ other, next.Ended other → next.notices other = [])
    (unowed : ∀ target id, notice = .loopEnded target id →
      machine.Unowed target id ∧ machine.dues task = [])
    (idle : next.enrols? = none) : next.Accounted := by
  have steps : World.Steps .everything machine.world next.world :=
    world ▸ registerTask_steps machine.world task notice
  have mem {other : TaskId} {another : Notice} : another ∈ next.dues other ↔
      another ∈ machine.dues other ∨ other = task ∧ notice = another := by
    rw [(due other).mem_iff]
    by_cases same : other = task
    · simp [same, or_comm, eq_comm]
    · simp [same]
  constructor
  case tabled => exact accounted.tabled.steps steps
  case single =>
    intro other
    rw [(due other).countP_eq]
    split
    next same =>
      subst same
      cases notice with
      | loopEnded target id =>
          rw [(unowed target id rfl).2]
          exact List.countP_le_length
      | _ => exact accounted.single other
    · exact accounted.single other
  case listed =>
    intro other another member
    rcases mem.mp member with earlier | ⟨rfl, -⟩
    · exact Nat.lt_of_lt_of_le (accounted.listed other another earlier) more
    · exact listed
  case ended => exact ended
  case loops =>
    intro target id other
    rw [world, mem_registerTask present, accounted.loops, mem]
  case handlers =>
    intro target other member
    rw [world] at member
    rcases mem_background_registerTask member with earlier | ⟨rfl, handle, same⟩
    · obtain ⟨handle, before⟩ := accounted.handlers target other earlier
      exact ⟨handle, mem.mpr (.inl before)⟩
    · exact ⟨handle, mem.mpr (.inr ⟨rfl, same⟩)⟩
  case once =>
    intro target
    rw [world]
    exact nodup_background_registerTask (accounted.once target) _ _
  case distinct =>
    intro target id first second left right
    rcases mem.mp left with left | ⟨rfl, same⟩
    · rcases mem.mp right with right | ⟨rfl, same⟩
      · exact accounted.distinct target id first second left right
      · exact absurd left ((unowed target id same).1.2 first)
    · rcases mem.mp right with right | ⟨rfl, -⟩
      · exact absurd right ((unowed target id same).1.2 second)
      · rfl
  case below =>
    intro target id other member
    rcases mem.mp member with earlier | ⟨rfl, same⟩
    · exact accounted.below_steps steps (accounted.hasScheduler earlier)
        (accounted.below target id other earlier)
    · have given := (unowed target id same).1.1
      subst same
      exact accounted.below_steps steps present given
  case fresh =>
    intro work target id found
    rw [idle] at found
    cases found

/-- A task that is started joins the list of whoever is told of its end. -/
theorem Accounted.start (accounted : machine.Accounted) {thread : Thread} {work : Work}
    {notice : Notice} (busy : machine.control = .busy thread (.start work notice))
    (present : notice.Present machine.world) (loud : notice.announces = true) :
    (machine.advance thread (.start work notice)).Accounted := by
  have tasks : (machine.advance thread (.start work notice)).tasks =
      machine.tasks ++ [⟨none, [notice]⟩] := rfl
  refine accounted.joins ⟨machine.tasks.length⟩ present rfl ?_ ?_ ?_
    (accounted.ended_create tasks) ?_ rfl
  · intro other
    have due := dues_create machine [] (.await work) [notice] other (accounted.listed other)
    rw [List.filter_cons_of_pos loud, List.filter_nil] at due
    refine .of_eq (Eq.trans due ?_)
    by_cases last : other = ⟨machine.tasks.length⟩
    · simp [last, accounted.unborn]
    · simp [last]
  · rw [tasks, List.length_append]
    exact Nat.le_add_right _ _
  · rw [tasks, List.length_append]
    exact Nat.lt_succ_self _
  · rintro target id rfl
    refine ⟨accounted.fresh work target id ?_ present, accounted.unborn⟩
    simp [enrols?, busy, Focus.enrols?]

theorem mem_tell (machine : Machine) (task : TaskId) (notice : Notice) (reply : Reply)
    (target : Ref .scheduler) (id : Nat) (other : TaskId) :
    (id, other) ∈ ((machine.tell task notice reply).world.schedulers.get target).tasks ↔
      (id, other) ∈ (machine.world.schedulers.get target).tasks ∧
        notice ≠ .loopEnded target id := by
  cases notice with
  | loopEnded named number =>
      by_cases same : target = named
      · subst same
        by_cases has : machine.world.schedulers.Has target
        · simp only [tell, World.setScheduler, Arena.get_modify_self _ has, List.mem_filter,
            decide_eq_true_eq, ne_eq, Notice.loopEnded.injEq, true_and]
          exact and_congr_right fun _ => not_congr eq_comm
        · have missing : (machine.world.schedulers.get target).tasks = [] :=
            congrArg Scheduler.tasks (Arena.get_of_not_has has)
          have still : ((machine.tell task (.loopEnded target number)
              reply).world.schedulers.get target).tasks = [] := by
            refine congrArg Scheduler.tasks (Arena.get_of_not_has ?_)
            exact fun later => has (Arena.has_modify.mp later)
          simp [missing, still]
      · simp [tell, World.setScheduler, Arena.get_modify_of_ne _ _ same, Ne.symm same]
  | handlerEnded named handle =>
      have kept : (machine.tell task (.handlerEnded named handle) reply).world.schedulers =
          machine.world.schedulers :=
        (World.noteOutcome_parts _ handle reply).1
      simp [kept]
  | release waiter =>
      have kept : (machine.tell task (.release waiter) reply).world = machine.world := by
        simp only [tell]
        split <;> rfl
      simp [kept]

theorem background_tell (machine : Machine) (task : TaskId) (notice : Notice) (reply : Reply)
    (target : Ref .dispatcher) :
    (∃ handle, notice = .handlerEnded target handle) ∧
        ((machine.tell task notice reply).world.dispatchers.get target).background =
          (machine.world.dispatchers.get target).background.erase task ∨
      (∀ handle, notice ≠ .handlerEnded target handle) ∧
        ((machine.tell task notice reply).world.dispatchers.get target).background =
          (machine.world.dispatchers.get target).background := by
  cases notice with
  | loopEnded named number =>
      refine .inr ⟨?_, rfl⟩
      intro handle equal
      cases equal
  | handlerEnded named handle =>
      have struck : (machine.tell task (.handlerEnded named handle) reply).world.dispatchers =
          machine.world.dispatchers.modify named fun dispatcher =>
            { dispatcher with background := dispatcher.background.erase task } :=
        (World.noteOutcome_parts _ handle reply).2
      rw [struck]
      by_cases same : target = named
      · subst same
        refine .inl ⟨⟨handle, rfl⟩, ?_⟩
        by_cases has : machine.world.dispatchers.Has target
        · rw [Arena.get_modify_self _ has]
        · rw [Arena.get_of_not_has has,
            Arena.get_of_not_has fun later => has (Arena.has_modify.mp later)]
          rfl
      · refine .inr ⟨fun _ equal => same ?_, ?_⟩
        · cases equal
          rfl
        · rw [Arena.get_modify_of_ne _ _ same]
  | release waiter =>
      refine .inr ⟨?_, ?_⟩
      · intro handle equal
        cases equal
      · simp only [tell]
        split <;> rfl

theorem mem_background_tell {machine : Machine} (task other : TaskId) (notice : Notice)
    (reply : Reply) {target : Ref .dispatcher}
    (once : (machine.world.dispatchers.get target).background.Nodup) :
    other ∈ ((machine.tell task notice reply).world.dispatchers.get target).background ↔
      other ∈ (machine.world.dispatchers.get target).background ∧
        (other = task → ∀ handle, notice ≠ .handlerEnded target handle) := by
  rcases background_tell machine task notice reply target with ⟨own, struck⟩ | ⟨others, same⟩
  · obtain ⟨handle, rfl⟩ := own
    rw [struck, once.mem_erase_iff, and_comm]
    refine and_congr_right fun _ => ⟨fun apart equal => absurd equal apart, ?_⟩
    exact fun apart equal => apart equal handle rfl
  · rw [same]
    exact (and_iff_left fun _ => others).symm

theorem nodup_background_tell {machine : Machine} (task : TaskId) (notice : Notice)
    (reply : Reply) {target : Ref .dispatcher}
    (once : (machine.world.dispatchers.get target).background.Nodup) :
    ((machine.tell task notice reply).world.dispatchers.get target).background.Nodup := by
  rcases background_tell machine task notice reply target with ⟨-, struck⟩ | ⟨-, same⟩
  · exact struck ▸ once.erase task
  · exact same ▸ once

/-- An announcement that is heard is no longer due. -/
theorem dues_heard {before after : List Job} {notice : Notice} {reply : Reply}
    (loud : notice.announces = true)
    (queued : machine.ready = before ++ .tell task notice reply :: after) (other : TaskId) :
    (machine.dues other).Perm
      (if other = task then notice :: { machine with ready := before ++ after }.dues other
        else { machine with ready := before ++ after }.dues other) := by
  by_cases same : other = task
  · subst same
    simp only [dues, queued, notices, List.filterMap_append, List.filterMap_cons,
      Job.announcement?, loud, and_self, if_true, ← List.append_assoc]
    exact List.perm_middle
  · simp [dues, queued, notices, Job.announcement?, same, Ne.symm same]

/-- Hearing an announcement changes nothing but the world. -/
theorem tell_loud (machine : Machine) (task : TaskId) {notice : Notice} (reply : Reply)
    (loud : notice.announces = true) :
    ∃ world, machine.tell task notice reply = { machine with world } := by
  cases notice with
  | loopEnded target id => exact ⟨_, rfl⟩
  | handlerEnded target handle => exact ⟨_, rfl⟩
  | release waiter => cases loud

/-- Whoever hears an announcement strikes the task off its list. -/
theorem Accounted.tell (accounted : machine.Accounted) {before after : List Job}
    {notice : Notice} {reply : Reply} (loud : notice.announces = true)
    (idle : machine.control = .idle)
    (queued : machine.ready = before ++ .tell task notice reply :: after) :
    ({ machine with ready := before ++ after }.tell task notice reply).Accounted := by
  have left := dues_heard loud queued
  generalize struck : { machine with ready := before ++ after } = middle at left
  have world : middle.world = machine.world := struck ▸ rfl
  have once (target : Ref .dispatcher) :
      (middle.world.dispatchers.get target).background.Nodup := world ▸ accounted.once target
  have tasks (target : Ref .scheduler) (id : Nat) (other : TaskId) :=
    mem_tell middle task notice reply target id other
  have background (target : Ref .dispatcher) (other : TaskId) :=
    mem_background_tell task other notice reply (once target)
  have still (target : Ref .dispatcher) := nodup_background_tell task notice reply (once target)
  have steps : World.Steps .everything machine.world (middle.tell task notice reply).world :=
    struck ▸ tell_steps { machine with ready := before ++ after } task notice reply
  obtain ⟨later, told⟩ := tell_loud middle task reply loud
  rw [told] at steps tasks background still ⊢
  have due (other : TaskId) : (machine.dues other).Perm
      (if other = task then notice :: ({ middle with world := later } : Machine).dues other
        else ({ middle with world := later } : Machine).dues other) := left other
  have heard : notice ∈ machine.dues task := (due task).mem_iff.mpr (by simp)
  have mem {other : TaskId} {notice' : Notice} : notice' ∈ machine.dues other ↔
      other = task ∧ notice' = notice ∨
        notice' ∈ ({ middle with world := later } : Machine).dues other := by
    rw [(due other).mem_iff]
    by_cases same : other = task <;> simp [same]
  constructor
  case tabled => exact accounted.tabled.steps steps
  case single =>
    intro other
    have earlier := accounted.single other
    rw [(due other).countP_eq] at earlier
    split at earlier
    · rw [List.countP_cons] at earlier
      exact Nat.le_trans (Nat.le_add_right _ _) earlier
    · exact earlier
  case listed =>
    intro other notice' member
    subst struck
    exact accounted.listed other notice' (mem.mpr (.inr member))
  case ended =>
    subst struck
    exact accounted.ended
  case loops =>
    intro target id other
    rw [tasks, world, accounted.loops, mem]
    constructor
    · rintro ⟨⟨rfl, same⟩ | still, apart⟩
      · exact absurd same.symm apart
      · exact still
    · intro still
      refine ⟨.inr still, ?_⟩
      rintro rfl
      obtain rfl := accounted.distinct target id other task (mem.mpr (.inr still)) heard
      have twice := accounted.single other
      rw [(due other).countP_eq, if_pos rfl, List.countP_cons] at twice
      have again :
          0 < (({ middle with world := later } : Machine).dues other).countP Notice.isLoop :=
        List.countP_pos_iff.mpr ⟨.loopEnded target id, still, rfl⟩
      simp only [Notice.isLoop, if_true] at twice
      omega
  case handlers =>
    intro target other listed
    obtain ⟨earlier, apart⟩ := (background target other).mp listed
    obtain ⟨handle, before⟩ := accounted.handlers target other (world ▸ earlier)
    rcases mem.mp before with ⟨same, announced⟩ | still
    · exact absurd announced.symm (apart same handle)
    · exact ⟨handle, still⟩
  case once => exact still
  case distinct =>
    intro target id first second left right
    exact accounted.distinct target id first second (mem.mpr (.inr left)) (mem.mpr (.inr right))
  case below =>
    intro target id other member
    have earlier := mem.mpr (.inr member)
    exact accounted.below_steps steps (accounted.hasScheduler earlier)
      (accounted.below target id other earlier)
  case fresh =>
    intro work target id found
    subst struck
    simp [enrols?, idle] at found

theorem outcome_createTask (machine : Machine) (stack : List Frame) (focus : Focus)
    (notices : List Notice) (task : TaskId) :
    (machine.createTask stack focus notices).1.outcomeOf task = machine.outcomeOf task := by
  simp only [outcomeOf, createTask, List.getElem?_append]
  by_cases inside : task.index < machine.tasks.length
  · simp [inside]
  · by_cases last : task.index - machine.tasks.length = 0 <;> simp [inside, last]

theorem outcome_watch (notice : Notice) (machine : Machine) (other task : TaskId) :
    (watch notice machine other).outcomeOf task = machine.outcomeOf task := by
  unfold watch
  split
  · rfl
  · simp only [outcomeOf, List.getElem?_modify]
    cases found : machine.tasks[task.index]? with
    | none => rfl
    | some record => by_cases same : other.index = task.index <;> simp [same]

theorem outcome_watchAll (notice : Notice) (machine : Machine) (tasks : List TaskId)
    (task : TaskId) :
    (tasks.foldl (watch notice) machine).outcomeOf task = machine.outcomeOf task := by
  induction tasks generalizing machine with
  | nil => rfl
  | cons other rest induction => rw [List.foldl_cons, induction, outcome_watch]

/-- Whoever waits leaves no notice with a task that has ended. -/
theorem notices_watch (notice : Notice) (machine : Machine) (other : TaskId)
    (ended : machine.Ended task) :
    (watch notice machine other).notices task = machine.notices task := by
  unfold watch
  split
  · rfl
  next running =>
    simp only [notices, List.getElem?_modify]
    have apart : other.index ≠ task.index := by
      intro same
      simp only [Ended, outcomeOf, ← same, running] at ended
      cases ended
    cases found : machine.tasks[task.index]? <;> simp [apart]

theorem notices_watchAll (notice : Notice) (machine : Machine) (tasks : List TaskId)
    (ended : machine.Ended task) :
    (tasks.foldl (watch notice) machine).notices task = machine.notices task := by
  induction tasks generalizing machine with
  | nil => rfl
  | cons other rest induction =>
      have still : (watch notice machine other).Ended task := by
        rw [Ended, outcome_watch]
        exact ended
      rw [List.foldl_cons, induction _ still, notices_watch notice machine other ended]

theorem Accounted.wait (accounted : machine.Accounted) (thread : Thread)
    (tasks : List TaskId) : (machine.wait thread tasks).Accounted := by
  obtain ⟨records, more, length, -, waits⟩ := wait_eq machine thread tasks
  refine accounted.same
    (fun task => .of_eq (dues_wait machine thread tasks task)) ?_ ?_ ?_ ?_ ?_
  · rw [waits]
    exact Nat.le_of_eq length.symm
  · intro task ended
    have before : machine.Ended task := by
      have same := outcome_watchAll (.release machine.waiters.length)
        { machine with
          control := .idle
          waiters := machine.waiters ++ [⟨tasks.length, thread⟩] } tasks task
      rw [Ended, Machine.wait, same] at ended
      exact ended
    exact (notices_watchAll (.release machine.waiters.length)
      { machine with
        control := .idle
        waiters := machine.waiters ++ [⟨tasks.length, thread⟩] } tasks before).trans
      (accounted.ended task before)
  · rw [waits]
  · rw [waits]
  · intro work target id found
    rw [waits] at found
    cases found

/-- A future that is taken on joins the list of the dispatcher that will hear of it. -/
theorem Accounted.adopt (accounted : machine.Accounted) (thread : Thread)
    {target : Ref .dispatcher} (has : machine.world.dispatchers.Has target)
    (handle : Ref .handle) (listed : task.index < machine.tasks.length) :
    ((watch (.handlerEnded target handle) machine task).go thread
      (registerTask machine.world task (.handlerEnded target handle), .nothing)).Accounted := by
  obtain ⟨records, queue, length, -, watches⟩ :=
    watch_eq (.handlerEnded target handle) machine task
  have tasks : (watch (.handlerEnded target handle) machine task).tasks = records :=
    congrArg Machine.tasks watches
  have present : (Notice.handlerEnded target handle).Present machine.world := has
  refine accounted.joins task present rfl (dues_watched rfl listed) ?_ ?_ ?_ ?_ rfl
  · exact Nat.le_of_eq (tasks ▸ length.symm)
  · exact Nat.lt_of_lt_of_eq listed (tasks ▸ length.symm)
  · intro other ended
    have before : machine.Ended other := by
      rw [Ended, ← outcome_watch (.handlerEnded target handle) machine task other]
      exact ended
    exact (notices_watch _ machine task before).trans (accounted.ended other before)
  · intro scheduler id same
    cases same

/-- A call keeps the books: the loop that it registers has a number of its own. -/
theorem Accounted.registers (accounted : machine.Accounted) {thread : Thread}
    {target : Ref .scheduler} {callback : Value} {new : World}
    (steps : World.Steps .everything machine.world new)
    (enrols : World.Enrols (machine.world.schedulers.get target).table "forever" callback
      machine.world new) :
    (machine.go thread (new, machine.world.starting target)).Accounted := by
  refine accounted.same (fun _ => .refl _) (Nat.le_refl _) accounted.ended steps
    enrols.errands ?_
  intro work other id found has
  cases found
  have listed : machine.world.schedulers.Has target := enrols.schedulers ▸ has
  have row : new.tables.get (new.schedulers.get target).table =
      (machine.world.tables.get (machine.world.schedulers.get target).table).insert
        machine.world.handles.fresh := by
    rw [enrols.schedulers, enrols.tables,
      Arena.get_modify_self _ (accounted.tabled target listed)]
  constructor
  · change _ < (new.tables.get (new.schedulers.get target).table).next
    rw [row]
    exact Nat.lt_succ_self _
  · intro task due
    exact absurd (accounted.below target _ task due) (Nat.lt_irrefl _)

/-- A turn of the running thread keeps the books. -/
theorem Accounted.advance (accounted : machine.Accounted) (sound : machine.Sound)
    (present : machine.Present) {thread : Thread} {focus : Focus}
    (busy : machine.control = .busy thread focus) :
    (machine.advance thread focus).Accounted := by
  have steps : World.Steps .everything machine.world (machine.advance thread focus).world :=
    (advance_steps (sound.focus _ _ busy) (orderly_everything machine _ _ busy)).1
  have deals := advance_deals machine thread focus
  generalize machine.advance thread focus = next at deals steps
  cases deals with
  | quiet tasks ready errands idle =>
      exact accounted.goes (fun _ => dues_same tasks ready) tasks steps errands idle
  | opens frame focus =>
      refine accounted.same (fun _ => .refl _) (Nat.le_refl _) accounted.ended steps rfl ?_
      intro work target id found
      refine accounted.fresh work target id ?_
      rw [enrols?, busy]
      exact found
  | registers target arguments enrols => exact accounted.registers steps enrols
  | creates stack begin program =>
      refine accounted.launch stack begin _ ?_
      intro other running same
      cases same
      rfl
  | starts work notice =>
      have loud : notice.announces = true := by
        cases notice with
        | release waiter => exact absurd rfl (sound.focus _ _ busy waiter)
        | _ => rfl
      exact accounted.start busy (present _ _ _ busy rfl) loud
  | adopts target handle listed =>
      exact accounted.adopt thread (present _ _ _ busy rfl) handle listed
  | waits tasks => exact accounted.wait thread tasks
  | ends reply => exact accounted.finish thread.owner reply

theorem Accounted.release (accounted : machine.Accounted) {before after : List Job}
    {waiter : Nat} {reply : Reply} (idle : machine.control = .idle)
    (queued : machine.ready = before ++ .tell task (.release waiter) reply :: after) :
    ({ machine with ready := before ++ after }.tell task (.release waiter) reply).Accounted := by
  have left (other : TaskId) :
      ({ machine with ready := before ++ after } : Machine).dues other = machine.dues other := by
    simp [dues, queued, notices, Job.announcement?, Notice.announces]
  simp only [Machine.tell]
  split
  next thread found =>
    refine accounted.goes ?_ rfl (World.steps_refl _) rfl (by simp [enrols?, enqueue, idle])
    intro other
    refine Eq.trans ?_ (left other)
    simp [dues, notices, enqueue, Job.announcement?]
  · exact accounted.goes left rfl (World.steps_refl _) rfl (by simp [enrols?, idle])

/-- No thread rests while it is about to start a loop. -/
def Calm (machine : Machine) : Prop :=
  machine.Rests fun _ focus => focus.enrols? = none

theorem begins_calm : Begins fun _ focus => focus.enrols? = none :=
  ⟨fun _ _ => rfl, fun _ _ => rfl, fun _ _ => rfl⟩

theorem Calm.move (calm : machine.Calm) (move : Move machine next) : next.Calm := by
  cases control : machine.control with
  | idle => exact (calm.idle begins_calm control move).1
  | busy thread focus =>
      rw [move.of_busy control]
      exact calm.advance begins_calm fun _ => rfl

/-- Every move keeps the books. -/
theorem Accounted.move (accounted : machine.Accounted) (calm : machine.Calm)
    (sound : machine.Sound) (present : machine.Present) (move : Move machine next) :
    next.Accounted := by
  have steps := move.steps sound.focus (orderly_everything machine)
  cases move with
  | turn busy => exact accounted.advance sound present busy
  | @take before after job idle queued =>
      cases job with
      | go thread focus =>
          refine accounted.goes ?_ rfl steps rfl ?_
          · intro task
            have silent : Job.announcement? task (.go thread focus) = none := rfl
            simp [dues, notices, serve, queued, silent]
          · exact calm.queued thread focus (by simp [queued])
      | tell task notice reply =>
          cases notice with
          | release waiter => exact accounted.release idle queued
          | loopEnded | handlerEnded => exact accounted.tell rfl idle queued
  | wake idle asleep =>
      refine accounted.goes ?_ rfl steps rfl (by simp [enrols?, Machine.wake, idle])
      intro task
      simp [dues, notices, Machine.wake, Job.announcement?]
  | enter program idle alone =>
      exact accounted.goes (fun _ => rfl) rfl steps rfl rfl
  | launch work idle =>
      refine accounted.launch [] (.await work) machine.control ?_
      intro thread focus busy
      rw [idle] at busy
      cases busy
  | clock looping now trace idle =>
      refine accounted.goes (fun _ => rfl) rfl steps rfl ?_
      simp [enrols?, idle]

theorem due_of_taken {before after : List Job} {job : Job} {notice : Notice}
    (queued : machine.ready = before ++ job :: after)
    (due : notice ∈ ({ machine with ready := before ++ after } : Machine).dues task) :
    notice ∈ machine.dues task := by
  simp only [dues, queued, List.filterMap_append, List.filterMap_cons, List.mem_append] at due ⊢
  rcases due with own | earlier | later
  · exact .inl own
  · exact .inr (.inl earlier)
  · apply Or.inr
    apply Or.inr
    split
    · exact later
    · exact List.mem_cons_of_mem _ later

theorem due_of_tell {told notice : Notice} {other : TaskId} {reply : Reply}
    (due : notice ∈ (machine.tell other told reply).dues task) : notice ∈ machine.dues task := by
  cases loud : told.announces with
  | true =>
      obtain ⟨world, same⟩ := tell_loud machine other reply loud
      rw [same] at due
      exact due
  | false =>
      cases told with
      | loopEnded | handlerEnded => cases loud
      | release waiter =>
          simp only [tell] at due
          split at due
          · simpa [dues, notices, enqueue, Job.announcement?] using due
          · exact due

/-- Whatever is due was due before, or its task has just been started or taken on. -/
theorem Move.due (move : Move machine next) {notice : Notice} (due : notice ∈ next.dues task)
    (listed : ∀ notice, notice ∈ machine.dues task → task.index < machine.tasks.length) :
    notice ∈ machine.dues task ∨
      (∃ thread work, machine.control = .busy thread (.start work notice) ∧
        task = ⟨machine.tasks.length⟩ ∧ next = machine.advance thread (.start work notice)) ∨
      ∃ thread target handle, machine.control = .busy thread (.adopt task target handle) ∧
        notice = .handlerEnded target handle ∧ task.index < machine.tasks.length := by
  have created {stack : List Frame} {focus : Focus} (due : notice ∈
      (machine.createTask stack focus []).1.dues task) : notice ∈ machine.dues task := by
    rw [dues_create machine stack focus [] task listed] at due
    split at due
    · exact absurd due List.not_mem_nil
    · exact due
  cases move with
  | @turn thread focus busy =>
      have deals := advance_deals machine thread focus
      generalize advanced : machine.advance thread focus = next at deals due
      cases deals with
      | quiet tasks ready => exact .inl (dues_same tasks ready ▸ due)
      | opens frame focus | registers target arguments enrols => exact .inl due
      | creates stack begin program => exact .inl (created due)
      | waits tasks => exact .inl (dues_wait machine thread tasks task ▸ due)
      | ends reply =>
          exact .inl ((dues_finish machine thread.owner reply task).mem_iff.mp due)
      | starts work other =>
          have changed := dues_create machine [] (.await work) [other] task listed
          have due : notice ∈ (machine.createTask [] (.await work) [other]).1.dues task := due
          rw [changed] at due
          split at due
          next last =>
            have same := List.mem_singleton.mp (List.mem_filter.mp due).1
            subst same
            exact .inr (.inl ⟨thread, work, busy, last, advanced⟩)
          next => exact .inl due
      | @adopts other target handle inside =>
          have loud : (Notice.handlerEnded target handle).announces = true := rfl
          have changed := (dues_watched loud inside task).mem_iff.mp due
          split at changed
          next same =>
            subst same
            rcases List.mem_cons.mp changed with rfl | earlier
            · exact .inr (.inr ⟨thread, target, handle, busy, rfl, inside⟩)
            · exact .inl earlier
          next => exact .inl changed
  | @take before after job idle queued =>
      apply Or.inl
      apply due_of_taken queued
      cases job with
      | go thread focus => exact due
      | tell other told reply => exact due_of_tell due
  | wake idle asleep =>
      apply Or.inl
      simpa [dues, notices, Machine.wake, Job.announcement?] using due
  | enter program idle alone | clock looping now trace idle => exact .inl due
  | launch work idle => exact .inl (created due)

/-- Whoever is about to start a loop was about to before, or has just listed it. -/
theorem Move.enrols (move : Move machine next) (calm : machine.Calm) {work : Work}
    {target : Ref .scheduler} {id : Nat} (found : next.enrols? = some (work, target, id)) :
    machine.enrols? = some (work, target, id) ∧ next.world = machine.world ∨
      work = .loop target machine.world.handles.fresh ∧
        id = (machine.world.tables.get (machine.world.schedulers.get target).table).next ∧
        ∃ callback, World.Enrols (machine.world.schedulers.get target).table "forever" callback
          machine.world next.world := by
  have resting {after : Machine} (same : after.control = machine.control)
      (idle : machine.control = .idle) : after.enrols? = none := by
    simp [enrols?, same, idle]
  cases move with
  | @turn thread focus busy =>
      have deals := advance_deals machine thread focus
      generalize machine.advance thread focus = next at deals found
      cases deals with
      | quiet tasks ready errands idle =>
          rw [idle] at found
          cases found
      | opens frame focus =>
          refine .inl ⟨?_, rfl⟩
          rw [enrols?, busy]
          exact found
      | @registers target' arguments scheduler callback new enrols =>
          cases found
          exact .inr ⟨rfl, rfl, callback, enrols⟩
      | creates | starts | adopts => cases found
      | waits tasks =>
          obtain ⟨records, more, -, -, waits⟩ := wait_eq machine thread tasks
          rw [waits] at found
          cases found
      | ends reply => cases owner : thread.owner <;> rw [owner] at found <;> cases found
  | @take before after job idle queued =>
      cases job with
      | go thread focus =>
          have none := calm.queued thread focus (by simp [queued])
          simp [enrols?, serve, none] at found
      | tell task notice reply =>
          obtain ⟨world, ready, waiters, same⟩ :=
            tell_eq { machine with ready := before ++ after } task notice reply
          rw [resting (by simp only [serve, same]) idle] at found
          cases found
  | wake idle | clock looping now trace idle | launch work idle =>
      have none := (resting rfl idle).symm.trans found
      cases none
  | enter program idle alone => cases found

variable {looping : Bool} {registry : Registry} {names : List (String × Value)}
variable {past : List Machine}

theorem accounted_initial : (initial (.initial looping registry) names).Accounted where
  tabled _ has := absurd has (Nat.not_lt_zero _)
  single _ := Nat.zero_le _
  listed _ _ member := absurd member List.not_mem_nil
  ended _ _ := rfl
  loops _ _ _ := ⟨fun member => absurd member List.not_mem_nil,
    fun due => absurd due List.not_mem_nil⟩
  handlers _ _ member := absurd member List.not_mem_nil
  once _ := List.nodup_nil
  distinct _ _ _ _ due := absurd due List.not_mem_nil
  below _ _ _ due := absurd due List.not_mem_nil
  fresh _ _ _ found := nomatch found

theorem calm_initial : (initial (.initial looping registry) names).Calm :=
  ⟨fun _ _ member => absurd member List.not_mem_nil,
    fun _ member => absurd member List.not_mem_nil,
    fun _ member => absurd member List.not_mem_nil⟩

/-- In every run whose tasks are started for objects that exist, the lists of tasks are
those whose end is still to be heard of. -/
theorem Run.accounted (run : Run (initial (.initial looping registry) names) past machine)
    (present : ∀ state ∈ past, state.Present) : machine.Accounted ∧ machine.Calm := by
  induction run with
  | refl => exact ⟨accounted_initial, calm_initial⟩
  | @move past machine next run move induction =>
      obtain ⟨earlier, last⟩ := forall_snoc present
      obtain ⟨accounted, calm⟩ := induction earlier
      have sound := run.sound (sound_initial looping registry names)
      exact ⟨accounted.move calm sound last move, calm.move move⟩

/-- What a task owes now it has owed from its beginning, or it has been taken on since. -/
theorem Run.due_cases {start : Machine} {before : List Machine} {notice : Notice}
    (reached : Run (initial (.initial looping registry) names) before start)
    (run : Run start past machine) (present : ∀ state ∈ before ++ past, state.Present)
    (due : notice ∈ machine.dues task) (listed : task.index < start.tasks.length) :
    notice ∈ start.dues task ∨
      ∃ state ∈ past, ∃ thread target handle, notice = .handlerEnded target handle ∧
        state.control = .busy thread (.adopt task target handle) := by
  induction run with
  | refl => exact .inl due
  | @move past machine next run move induction =>
      have earlier := forall_mem_before present
      have whole := reached.trans run
      rcases move.due due ((whole.accounted earlier).1.listed _) with
        still | ⟨-, -, -, rfl, -⟩ | ⟨thread, target, handle, busy, same, -⟩
      · refine (induction earlier still).imp_right ?_
        rintro ⟨state, member, adopted⟩
        exact ⟨state, List.mem_append_left _ member, adopted⟩
      · have sound := reached.sound (sound_initial looping registry names)
        exact absurd listed (Nat.not_lt_of_le (run.tasks sound))
      · exact .inr ⟨machine, List.mem_append_right _ (List.mem_singleton_self _), thread, target,
          handle, same, busy⟩

/-- A task owes no scheduler what it has not owed it from its beginning. -/
theorem Run.due {start : Machine} {before : List Machine} {notice : Notice}
    (reached : Run (initial (.initial looping registry) names) before start)
    (run : Run start past machine) (present : ∀ state ∈ before ++ past, state.Present)
    (due : notice ∈ machine.dues task) (loop : notice.isLoop = true)
    (listed : task.index < start.tasks.length) : notice ∈ start.dues task := by
  rcases reached.due_cases run present due listed with
    earlier | ⟨state, member, thread, target, handle, rfl, adopts⟩
  · exact earlier
  · cases loop

end Machine

end Microboard
