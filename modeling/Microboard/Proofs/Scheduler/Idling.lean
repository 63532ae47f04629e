import Microboard.Proofs.Machine.Creations
import Microboard.Proofs.Machine.Listening
import Microboard.Proofs.Scheduler.Ending

/-!
# Waiting until a scheduler is idle

Every task that a scheduler lists runs the loop of one handle that was registered with it.
The table lacks the number of such a handle exactly when the handle has been destroyed, so
whoever waits until the scheduler is idle waits for the loops that have been stopped.  When
the call returns they have ended and are listed no more, whatever happens meanwhile.
-/

namespace Microboard

namespace World

variable {world : World} {scheduler : Ref .scheduler} {task : TaskId}

theorem mem_endingTasks : task ∈ world.endingTasks scheduler ↔
    ∃ id, (id, task) ∈ (world.schedulers.get scheduler).tasks ∧
      (world.tables.get (world.schedulers.get scheduler).table).find? id = none := by
  simp only [endingTasks, List.mem_map, List.mem_filter, Option.isNone_iff_eq_none]
  constructor
  · rintro ⟨⟨id, other⟩, ⟨listed, missing⟩, rfl⟩
    exact ⟨id, listed, missing⟩
  · rintro ⟨id, listed, missing⟩
    exact ⟨(id, task), ⟨listed, missing⟩, rfl⟩

/-- A call that is about to start the loop of a scheduler registers with this scheduler. -/
theorem registrar_of_enrols {method : Method} {arguments : Arguments} {shelf : Ref .table}
    {work : Work} {id : Nat} (lists : world.lists? method = some shelf)
    (found : (world.callMethod method arguments).2.enrols? = some (work, scheduler, id)) :
    world.registrar? method = some scheduler := by
  have loops (target : Ref .scheduler) (callback : Value)
      (found : (world.startLoop target callback).2.enrols? = some (work, scheduler, id)) :
      target = scheduler := by
    rcases startLoop_cases world target callback with ⟨fault, failed⟩ | ⟨new, -, started⟩
    · rw [failed] at found
      cases found
    · rw [started] at found
      cases found
      rfl
  have handlers (target : Ref .dispatcher) (button handler : Value) :
      (world.registerHandler target button handler).2.enrols? = none := by
    rcases registerHandler_cases world target button handler with
      ⟨fault, failed⟩ | ⟨known, new, -, -, enlisted⟩
    · rw [failed]
      rfl
    · rw [enlisted]
      rfl
  cases Lists.of_lists? lists with
  | create =>
      simp only [callMethod, callTable] at found
      rcases createHandle_cases world shelf (arguments.get 0 "callback")
          (arguments.get 1 "kind").plain with ⟨fault, failed⟩ | ⟨trace, -, created⟩
      · rw [failed] at found
        cases found
      · rw [created] at found
        cases found
  | register target => exact congrArg some (loops _ _ found)
  | forever target => exact congrArg some (loops _ _ found)
  | handle | onButtonPressed => cases (handlers _ _ _).symm.trans found

end World

namespace Machine

variable {looping : Bool} {registry : Registry} {names : List (String × Value)}
variable {start machine next : Machine} {past : List Machine} {scheduler : Ref .scheduler}
variable {handle : Ref .handle} {task : TaskId}

/-- The handle that the call at hand registers with a scheduler. -/
def enrolled? (scheduler : Ref .scheduler) (machine : Machine) : Option (Ref .handle) :=
  match machine.control with
  | .busy _ (.call (.method method) _) =>
    if machine.world.registrar? method = some scheduler ∧
        machine.world.schedulers.Has scheduler then
      machine.created? (machine.world.schedulers.get scheduler).table
    else none
  | _ => none

/-- All handles that have been registered with a scheduler, the oldest first. -/
def enrolments (scheduler : Ref .scheduler) (past : List Machine) : List (Ref .handle) :=
  past.filterMap (enrolled? scheduler)

theorem created?_of_enrolled? (enrolled : machine.enrolled? scheduler = some handle) :
    machine.world.schedulers.Has scheduler ∧
      machine.created? (machine.world.schedulers.get scheduler).table = some handle := by
  unfold enrolled? at enrolled
  split at enrolled
  · split at enrolled
    next registers => exact ⟨registers.2, enrolled⟩
    next => cases enrolled
  · cases enrolled

/-- Whatever is registered with a scheduler is created by its table. -/
theorem Run.enrolments_created (run : Run start past machine) (sound : start.Sound)
    (member : handle ∈ enrolments scheduler past) :
    machine.world.schedulers.Has scheduler ∧
      handle ∈ creations (machine.world.schedulers.get scheduler).table past := by
  induction run with
  | refl => exact absurd member List.not_mem_nil
  | @move past machine next run move induction =>
      rw [enrolments, filterMap_snoc, List.mem_append, Option.mem_toList] at member
      obtain ⟨has, created⟩ : machine.world.schedulers.Has scheduler ∧
          handle ∈ creations (machine.world.schedulers.get scheduler).table
            (past ++ [machine]) := by
        rw [creations, filterMap_snoc, List.mem_append, Option.mem_toList]
        rcases member with earlier | last
        · exact (induction earlier).imp_right .inl
        · exact (created?_of_enrolled? last).imp_right .inr
      obtain ⟨still, grows⟩ := (move.grows (run.sound sound)).schedulers scheduler has
      rw [grows.table]
      exact ⟨still, created⟩

/-- A call after which a loop is about to be started registers the handle of the loop. -/
theorem Move.enrolled {work : Work} {id : Nat} {callback : Value} (move : Move machine next)
    (filed : machine.world.Filed) (tabled : machine.world.Tabled)
    (has : machine.world.schedulers.Has scheduler)
    (found : next.enrols? = some (work, scheduler, id))
    (enrols : World.Enrols (machine.world.schedulers.get scheduler).table "forever" callback
      machine.world next.world) :
    machine.enrolled? scheduler = some machine.world.handles.fresh := by
  rcases move.size with same | ⟨thread, method, arguments, shelf, busy, lists⟩
  · have more := enrols.issues.size
    omega
  · rw [move.of_method busy fun function same => by subst same; cases lists] at found enrols
    have registrar := World.registrar_of_enrols lists found
    simp only [enrolled?, busy]
    rw [if_pos ⟨registrar, has⟩, created?_of_call busy]
    exact if_pos ((enrols.issues.listed_fresh filed).mpr ⟨rfl, tabled scheduler has⟩)

/-- A handle has been registered with a scheduler, and this is its number. -/
structure Enrolled (scheduler : Ref .scheduler) (past : List Machine) (machine : Machine)
    (handle : Ref .handle) (id : Nat) : Prop where
  listed : handle ∈ enrolments scheduler past
  has : machine.world.handles.Has handle
  number : machine.world.number handle = id

/-- By induction on the run: the tasks of a scheduler run the loops of what has been
registered with it. -/
theorem Run.backed (run : Run (initial (.initial looping registry) names) past machine)
    (present : ∀ state ∈ past, state.Present) :
    Backed scheduler (Enrolled scheduler past machine) machine := by
  induction run with
  | refl => exact ⟨fun _ _ due => absurd due List.not_mem_nil, fun _ _ found => nomatch found⟩
  | @move past machine next run move induction =>
      obtain ⟨earlier, last⟩ := forall_snoc present
      obtain ⟨accounted, calm⟩ := run.accounted earlier
      have sound := run.sound (sound_initial looping registry names)
      refine (induction earlier).move accounted calm sound last move ?_ ?_
      · intro _ handle id enrolled
        obtain ⟨still, grows⟩ := (move.grows sound).handles handle enrolled.has
        refine ⟨?_, still, grows.id.trans enrolled.number⟩
        rw [enrolments, filterMap_snoc]
        exact List.mem_append_left _ enrolled.listed
      · intro id callback has number found enrols
        have enrolled := move.enrolled run.filed accounted.tabled has found enrols
        refine ⟨?_, enrols.handles ▸ Arena.has_push_fresh _ _, ?_⟩
        · rw [enrolments, filterMap_snoc, enrolled]
          exact List.mem_append_right _ (List.mem_singleton_self _)
        · rw [World.number, enrols.handles, Arena.get_push_fresh, number]
          rfl

theorem noted_of_due {notice : Notice} (courteous : machine.Courteous)
    (due : notice ∈ machine.dues task) : machine.Noted task notice := by
  rcases List.mem_append.mp due with noted | queued
  · exact .inr (List.mem_filter.mp noted).1
  · obtain ⟨job, told, announces⟩ := List.mem_filterMap.mp queued
    cases job with
    | go => cases announces
    | tell other notice' reply =>
        obtain rfl : other = task := by
          by_contra differs
          simp [Job.announcement?, differs] at announces
        exact .inl (courteous.told other notice' reply told)

/-- What is known of the tasks that a scheduler lists. -/
structure Manned (scheduler : Ref .scheduler) (past : List Machine) (machine : Machine) :
    Prop where
  owned : ∀ id task, (id, task) ∈ (machine.world.schedulers.get scheduler).tasks →
    ∃ handle ∈ enrolments scheduler past, machine.world.number handle = id ∧
      (∀ other ∈ enrolments scheduler past, machine.world.number other = id →
        other = handle) ∧
      ∃ phase, LoopGoes scheduler handle task machine phase
  single : ∀ id other first second,
    (id, first) ∈ (machine.world.schedulers.get scheduler).tasks →
    (other, second) ∈ (machine.world.schedulers.get scheduler).tasks →
    (id = other ↔ first = second)
  missing : ∀ handle ∈ enrolments scheduler past,
    (machine.world.tables.get (machine.world.schedulers.get scheduler).table).find?
      (machine.world.number handle) = none ↔ machine.world.Destroyed handle

theorem Run.manned (run : Run (initial (.initial looping registry) names) past machine)
    (present : ∀ state ∈ past, state.Present)
    (sole : Sole (machine.world.schedulers.get scheduler).table past) :
    Manned scheduler past machine := by
  have sound := sound_initial looping registry names
  obtain ⟨accounted, -⟩ := run.accounted present
  have inventory := run.inventory sole
  have created {handle : Ref .handle} (member : handle ∈ enrolments scheduler past) :=
    (run.enrolments_created sound member).2
  constructor
  case owned =>
    intro id task listed
    have due := (accounted.loops scheduler id task).mp listed
    obtain ⟨handle, phase, enrolled, goes⟩ := (run.backed present).running task id due
    refine ⟨handle, enrolled.listed, enrolled.number, ?_, phase, goes⟩
    intro other member same
    exact inventory.number_inj (created member) (created enrolled.listed)
      (same.trans enrolled.number.symm)
  case single =>
    intro id other first second left right
    have one := (accounted.loops scheduler id first).mp left
    have two := (accounted.loops scheduler other second).mp right
    constructor
    · rintro rfl
      exact accounted.distinct scheduler id first second one two
    · rintro rfl
      cases accounted.due_eq one two rfl rfl
      rfl
  case missing =>
    intro handle member
    have numbered := run.numbering (machine.world.schedulers.get scheduler).table
    constructor
    · intro missing
      apply Classical.byContradiction
      intro lives
      rw [inventory.find?_of_alive run.filed numbered (created member) lives] at missing
      cases missing
    · exact inventory.find?_of_destroyed run.filed numbered (created member)

/-- The end of a task that was to be announced has come, or is still to be announced. -/
theorem Run.due_or_ended (reached : Run (initial (.initial looping registry) names) past start)
    {later : List Machine} (run : Run start later machine) {notice : Notice}
    (loud : notice.announces = true) (due : notice ∈ start.dues task) :
    machine.Ended task ∨ notice ∈ machine.dues task := by
  have noted := noted_of_due reached.courteous due
  apply (noted.run run (reached.sound (sound_initial looping registry names))).imp_right
  exact fun still => due_of_noted still loud

/-- The tasks that are waited for are those of the handles that have been destroyed. -/
theorem Manned.stopped (manned : Manned scheduler past machine) (task : TaskId) :
    task ∈ machine.world.endingTasks scheduler ↔
      ∃ handle ∈ enrolments scheduler past, machine.world.Destroyed handle ∧
        (machine.world.number handle, task) ∈
          (machine.world.schedulers.get scheduler).tasks := by
  rw [World.mem_endingTasks]
  constructor
  · rintro ⟨id, listed, missing⟩
    obtain ⟨handle, member, rfl, -⟩ := manned.owned id task listed
    exact ⟨handle, member, (manned.missing handle member).mp missing, listed⟩
  · rintro ⟨handle, member, destroyed, listed⟩
    exact ⟨_, listed, (manned.missing handle member).mpr destroyed⟩

theorem Manned.spares (manned : Manned scheduler past machine)
    (member : handle ∈ enrolments scheduler past)
    (active : (machine.world.handles.get handle).isActive = true)
    (listed : (machine.world.number handle, task) ∈
      (machine.world.schedulers.get scheduler).tasks) :
    task ∉ machine.world.endingTasks scheduler := by
  intro among
  obtain ⟨other, given, destroyed, ending⟩ := (manned.stopped task).mp among
  obtain ⟨owner, -, -, only, -⟩ := manned.owned _ task listed
  have same := (manned.single _ _ task task ending listed).mpr rfl
  have single : other = handle := (only other given same).trans (only handle member rfl).symm
  subst single
  simp only [World.Destroyed, Handle.isDestroyed, Handle.isActive, decide_eq_true_eq]
    at destroyed active
  rw [active] at destroyed
  cases destroyed

/-- When the call returns, all that the tasks had to announce has been heard. -/
theorem Run.heard_ending {thread : Thread} {later : List Machine}
    (run : Run (initial (.initial looping registry) names) past start)
    (busy : start.control = .busy thread (.await (.loopsIdle scheduler)))
    (onward : PromptRun start later machine)
    (present : ∀ state ∈ past ++ later, state.Present)
    (going : ∀ state ∈ later, ¬ state.Returns thread.owner thread.stack)
    (returns : machine.Returns thread.owner thread.stack) :
    ∀ task ∈ start.world.endingTasks scheduler, machine.Announced task := by
  obtain ⟨accounted, -⟩ := run.accounted (List.forall_mem_append.mp present).1
  have exist : ∀ task ∈ start.world.endingTasks scheduler,
      task.index < start.tasks.length := by
    intro task ending
    obtain ⟨id, listed, -⟩ := World.mem_endingTasks.mp ending
    exact accounted.exists_loop listed
  have listens : ListensAt thread (start.world.endingTasks scheduler) machine :=
    PromptRun.listens run (.enters busy rfl) exist onward present
      fun state member same => going state member ⟨_, same⟩
  have sound := (run.trans onward.run).sound (sound_initial looping registry names)
  exact listens.announced sound returns

/-- Whoever was listed once has ended and is listed no more, unless it was still listed
later and has not been heard of since. -/
theorem Run.struck_off {middle : Machine} {id : Nat} {late later : List Machine}
    (reached : Run (initial (.initial looping registry) names) past start)
    (rest : Run start late middle) (onward : Run middle later machine)
    (present : ∀ state ∈ past ++ late ++ later, state.Present)
    (listed : (id, task) ∈ (start.world.schedulers.get scheduler).tasks)
    (heard : (id, task) ∈ (middle.world.schedulers.get scheduler).tasks → machine.Announced task) :
    machine.Ended task ∧
      ∀ id, (id, task) ∉ (machine.world.schedulers.get scheduler).tasks := by
  have initially := sound_initial looping registry names
  have presentMiddle := (List.forall_mem_append.mp present).1
  have whole := reached.trans rest
  obtain ⟨accountedStart, -⟩ := reached.accounted (List.forall_mem_append.mp presentMiddle).1
  obtain ⟨accountedMiddle, -⟩ := whole.accounted presentMiddle
  obtain ⟨accounted, -⟩ := (whole.trans onward).accounted present
  have due := (accountedStart.loops scheduler id task).mp listed
  have created := accountedStart.exists_loop listed
  have silent (id : Nat) : .loopEnded scheduler id ∉ machine.dues task := by
    intro still
    have before := whole.due onward present still rfl
      (Nat.lt_of_lt_of_le created (rest.tasks (reached.sound initially)))
    cases accountedStart.due_eq (reached.due rest presentMiddle before rfl created) due rfl rfl
    have nothing := heard ((accountedMiddle.loops scheduler _ task).mpr before)
    cases nothing _ still
  constructor
  · exact (reached.due_or_ended (rest.trans onward) rfl due).resolve_right (silent _)
  · exact fun id listed => silent id ((accounted.loops scheduler id task).mp listed)

/-- What a thread does that waits until a scheduler is idle, and what has been done when it
goes on. -/
structure IdleWait (scheduler : Ref .scheduler) (thread : Thread) (past : List Machine)
    (machine : Machine) (waited : List TaskId) : Prop where
  asks : ∀ next, Move machine next →
    next = machine.go thread (machine.world, World.waitFor waited)
  stopped : ∀ task, task ∈ waited ↔ ∃ handle ∈ enrolments scheduler past,
    machine.world.Destroyed handle ∧
      (machine.world.number handle, task) ∈ (machine.world.schedulers.get scheduler).tasks
  spares : ∀ handle ∈ enrolments scheduler past,
    (machine.world.handles.get handle).isActive = true →
    ∀ task, (machine.world.number handle, task) ∈
      (machine.world.schedulers.get scheduler).tasks → task ∉ waited
  idle : (∀ handle ∈ enrolments scheduler past, machine.world.Destroyed handle →
      ∀ task, (machine.world.number handle, task) ∉
        (machine.world.schedulers.get scheduler).tasks) →
    ∀ next, Move machine next → next = machine.go thread (machine.world, .nothing)
  ends : ∀ later final, PromptRun machine later final → (∀ state ∈ later, state.Present) →
    (∀ state ∈ later, ¬ state.Returns thread.owner thread.stack) →
    final.Returns thread.owner thread.stack →
    ∀ handle ∈ enrolments scheduler past, machine.world.Destroyed handle →
    ∀ state ∈ past ++ [machine], ∀ task, (machine.world.number handle, task) ∈
      (state.world.schedulers.get scheduler).tasks →
    final.Ended task ∧ ∀ id, (id, task) ∉ (final.world.schedulers.get scheduler).tasks

/-- In a run that destroys the handles of a scheduler through its own table only, waiting
until the scheduler is idle waits for the loops that have been stopped, and for them only.
The queue is served from its head while the call waits; all else is left open. -/
theorem wait_idle_ends_stopped_loops
    (run : Run (initial (.initial looping registry) names) past machine)
    (present : ∀ state ∈ past, state.Present)
    (sole : Sole (machine.world.schedulers.get scheduler).table past) :
    Manned scheduler past machine ∧
      ∀ thread, machine.control = .busy thread (.await (.loopsIdle scheduler)) →
        ∃ waited, IdleWait scheduler thread past machine waited := by
  have manned := run.manned present sole
  refine ⟨manned, fun thread busy => ⟨machine.world.endingTasks scheduler, ?_⟩⟩
  have asks (next : Machine) (move : Move machine next) : next = machine.go thread
      (machine.world, World.waitFor (machine.world.endingTasks scheduler)) :=
    move.of_busy busy
  constructor
  case asks => exact asks
  case stopped => exact manned.stopped
  case spares => exact fun handle member active task listed => manned.spares member active listed
  case idle =>
    intro quiet next move
    have empty : machine.world.endingTasks scheduler = [] := by
      apply List.eq_nil_iff_forall_not_mem.mpr
      intro task among
      obtain ⟨handle, member, destroyed, listed⟩ := (manned.stopped task).mp among
      exact quiet handle member destroyed task listed
    rw [asks next move, empty]
    rfl
  case ends =>
    intro later final onward presentLater going returns handle member destroyed
      state among task listed
    have everywhere : ∀ state ∈ past ++ later, state.Present :=
      List.forall_mem_append.mpr ⟨present, presentLater⟩
    have heard := run.heard_ending busy onward everywhere going returns
    obtain ⟨early, late, rfl, reached, rest⟩ := run.through among
    refine reached.struck_off rest onward.run everywhere listed fun still => heard task ?_
    exact (manned.stopped task).mpr ⟨handle, member, destroyed, still⟩

/-- A program that registers two loops, cancels the first one and waits. -/
def lingering : Program :=
  .call (.type .scheduler) ⟨[.clock .simulated, .int 0], []⟩ fun _ =>
    .define .plain (fun _ => .finish .nothing) fun callback =>
      .call (.method (.scheduler ⟨0⟩ .register)) (.single callback) fun _ =>
        .call (.method (.scheduler ⟨0⟩ .register)) (.single callback) fun _ =>
          .call (.method (.scheduler ⟨0⟩ .cancel)) (.single (.handle ⟨0⟩)) fun _ =>
            .await (.loopsIdle ⟨0⟩) .finish

def lingered : List Machine :=
  [initial (.initial true .empty) []] ++ visited 27 (begun lingering)

/-- The program is about to wait. -/
def lapsed : Machine := settle 27 (begun lingering)

/-- Both loops sleep, and the program waits for the first one. -/
def lulled : Machine := settle 10 lapsed

theorem promptRun_lapsed : PromptRun lapsed
    (visited 10 lapsed ++ ([lulled] ++ visited 6 lulled.rouse)) (settle 6 lulled.rouse) :=
  (promptRun_settle 10 lapsed).trans <|
    (PromptRun.wake rfl (.head _)).trans (promptRun_settle 6 lulled.rouse)

theorem wait_idle_ends_stopped_loops_lingering :
    Manned ⟨0⟩ lingered lapsed ∧
      lapsed.control = .busy ⟨none, [.program .finish]⟩ (.await (.loopsIdle ⟨0⟩)) ∧
      enrolments ⟨0⟩ lingered = [⟨0⟩, ⟨1⟩] ∧ lapsed.world.Destroyed ⟨0⟩ ∧
      (settle 6 lulled.rouse).Returns none [.program .finish] ∧
      (settle 6 lulled.rouse).Ended ⟨0⟩ ∧
      (∀ id, (id, ⟨0⟩) ∉ ((settle 6 lulled.rouse).world.schedulers.get ⟨0⟩).tasks) ∧
      (2, ⟨1⟩) ∈ ((settle 6 lulled.rouse).world.schedulers.get ⟨0⟩).tasks := by
  have run : Run (initial (.initial true .empty) []) lingered lapsed := run_begun lingering 27
  have sole : Sole (lapsed.world.schedulers.get ⟨0⟩).table lingered := sole_of_evident rfl
  obtain ⟨manned, waits⟩ := wait_idle_ends_stopped_loops run (present_of_evident rfl) sole
  obtain ⟨waited, wait⟩ := waits ⟨none, [.program .finish]⟩ rfl
  obtain ⟨ended, gone⟩ := wait.ends _ _ promptRun_lapsed (present_of_evident rfl)
    (going_of_evident rfl) ⟨_, rfl⟩ ⟨0⟩ (.head _) rfl lapsed
    (List.mem_append_right _ (List.mem_singleton_self _)) ⟨0⟩ (.head _)
  exact ⟨manned, rfl, rfl, rfl, ⟨_, rfl⟩, ended, gone, .head _⟩

end Machine

end Microboard
