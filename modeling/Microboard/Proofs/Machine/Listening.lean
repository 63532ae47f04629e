import Microboard.Proofs.Machine.Choices
import Microboard.Proofs.Machine.Precedence
import Microboard.Proofs.Machine.Telling

/-!
# Waiting for announcements

A thread that waits for tasks goes on only when their schedulers have heard of their ends,
if the queue is served from its head: a release stands behind what a scheduler is told of
the same task.
-/

namespace Microboard

/-- A job is taken from the head of the queue, if at all. -/
def Choice.prompt : Choice → Bool
  | .take place => place = 0
  | _ => true

namespace Machine

variable {start machine next : Machine} {past : List Machine} {choice : Choice}
variable {thread : Thread} {tasks : List TaskId} {task : TaskId} {waiter : Nat}

/-- A run in which the queue is served from its head, first in, first out. -/
inductive PromptRun (start : Machine) : List Machine → Machine → Prop where
  | refl : PromptRun start [] start
  | move {past : List Machine} {machine next : Machine} {choice : Choice}
      (run : PromptRun start past machine) (follows : machine.follow? choice = some next)
      (prompt : choice.prompt = true) : PromptRun start (past ++ [machine]) next

theorem PromptRun.run (prompt : PromptRun start past machine) : Run start past machine := by
  induction prompt with
  | refl => exact .refl
  | move run follows prompt induction => exact induction.move (.of_follow? follows)

theorem PromptRun.trans {middle : Machine} {later : List Machine}
    (first : PromptRun start past middle) (second : PromptRun middle later machine) :
    PromptRun start (past ++ later) machine := by
  induction second with
  | refl => simpa using first
  | move run follows prompt induction =>
      rw [← List.append_assoc]
      exact induction.move follows prompt

/-- The machine itself serves its queue from the head. -/
theorem follow?_of_step? (stepped : machine.step? = some next) :
    ∃ choice, machine.follow? choice = some next ∧ choice.prompt = true := by
  cases control : machine.control with
  | busy thread focus =>
      simp only [step?, control] at stepped
      exact ⟨.turn, (follow?_turn control).trans stepped, rfl⟩
  | idle =>
      simp only [step?, control, Machine.take] at stepped
      refine ⟨.take 0, ?_, rfl⟩
      rw [follow?_take control]
      cases queue : machine.ready with
      | nil => simp [queue] at stepped
      | cons job rest => cases job <;> simpa [queue, control, serve] using stepped

theorem promptRun_settle (fuel : Nat) (machine : Machine) :
    PromptRun machine (visited fuel machine) (settle fuel machine) := by
  induction fuel generalizing machine with
  | zero => exact .refl
  | succ fuel induction =>
      cases stepped : machine.step? with
      | none =>
          simp only [settle, visited, stepped]
          exact .refl
      | some next =>
          obtain ⟨choice, follows, prompt⟩ := follow?_of_step? stepped
          simp only [settle, visited, stepped]
          exact PromptRun.trans (.move .refl follows prompt) (induction next)

/-- Which sleeper wakes is left open. -/
theorem PromptRun.wake {sleeper : Sleeper} (idle : machine.control = .idle)
    (asleep : sleeper ∈ machine.sleepers) : PromptRun machine [machine] (machine.wake sleeper) := by
  obtain ⟨place, found⟩ := List.mem_iff_getElem?.mp asleep
  have follows : machine.follow? (.wake place) = some (machine.wake sleeper) := by
    rw [follow?_wake idle, found]
    rfl
  exact .move .refl follows rfl

/-- A task still has to release a waiter. -/
def Owes (machine : Machine) (waiter : Nat) (task : TaskId) : Prop :=
  .release waiter ∈ machine.notices task ∨
    ∃ reply, .tell task (.release waiter) reply ∈ machine.ready

/-- No scheduler is still to hear of the end of a task. -/
def Announced (machine : Machine) (task : TaskId) : Prop :=
  ∀ notice ∈ machine.dues task, notice.isLoop = false

theorem Owes.pending (owes : machine.Owes waiter task) : 0 < machine.pending waiter := by
  rcases owes with noted | ⟨reply, queued⟩
  · exact pending_of_noted noted
  · have due : 0 < machine.ready.countP (Job.releases waiter) :=
      List.countP_pos_iff.mpr ⟨_, queued, by simp [Job.releases]⟩
    unfold Machine.pending
    omega

theorem Owes.mono (owes : machine.Owes waiter task)
    (notices : machine.notices task ⊆ next.notices task) (ready : machine.ready ⊆ next.ready) :
    next.Owes waiter task :=
  owes.imp (fun noted => notices noted) fun ⟨reply, queued⟩ => ⟨reply, ready queued⟩

theorem Owes.create (owes : machine.Owes waiter task) (stack : List Frame) (focus : Focus)
    (given : List Notice) : (machine.createTask stack focus given).1.Owes waiter task := by
  refine owes.mono ?_ (List.subset_append_left _ _)
  intro notice noted
  obtain ⟨record, found, kept⟩ := mem_notices.mp noted
  have inside := (List.getElem?_eq_some_iff.mp found).1
  exact mem_notices.mpr ⟨record, (List.getElem?_append_left inside).trans found, kept⟩

theorem Owes.finish (owes : machine.Owes waiter task) (owner : Option TaskId) (reply : Reply) :
    (machine.finish owner reply).Owes waiter task := by
  cases owner with
  | none => exact owes
  | some other =>
      rcases owes with noted | ⟨given, queued⟩
      · by_cases own : other = task
        · subst own
          refine .inr ⟨reply, List.mem_append_right _ ?_⟩
          exact List.mem_map.mpr ⟨.release waiter, noted, rfl⟩
        · apply Or.inl
          rwa [notices_finish, if_neg (by simpa using own)]
      · exact .inr ⟨given, List.mem_append_left _ queued⟩

theorem Owes.watch (owes : machine.Owes waiter task) (other : Notice) (watched : TaskId) :
    (Machine.watch other machine watched).Owes waiter task := by
  unfold Machine.watch
  split
  · exact owes.mono (List.Subset.refl _) (List.subset_append_left _ _)
  · refine owes.mono ?_ (List.Subset.refl _)
    intro notice noted
    obtain ⟨record, found, kept⟩ := mem_notices.mp noted
    by_cases same : watched.index = task.index
    · exact mem_notices.mpr ⟨{ record with notices := record.notices ++ [other] },
        by simp [found, same], List.mem_append_left _ kept⟩
    · exact mem_notices.mpr ⟨record, by simp [found, same], kept⟩

theorem Owes.watchAll (owes : machine.Owes waiter task) (other : Notice) (others : List TaskId) :
    (others.foldl (Machine.watch other) machine).Owes waiter task := by
  induction others generalizing machine with
  | nil => exact owes
  | cons first rest induction => exact induction (owes.watch other first)

theorem owes_watch (waiter : Nat) (listed : task.index < machine.tasks.length) :
    (watch (.release waiter) machine task).Owes waiter task := by
  unfold watch
  split
  next reply ended => exact .inr ⟨reply, List.mem_append_right _ (List.mem_singleton_self _)⟩
  next => exact .inl (by simp [notices, listed])

/-- Whoever waits for tasks is to be released by each of them. -/
theorem owes_watchAll (waiter : Nat)
    (listed : ∀ task ∈ tasks, task.index < machine.tasks.length) :
    ∀ task ∈ tasks, (tasks.foldl (watch (.release waiter)) machine).Owes waiter task :=
  watchAll_all (fun machine task => machine.Owes waiter task) (.release waiter)
    (fun _ _ inside => owes_watch waiter inside)
    (fun _ _ other owes => owes.watch (.release waiter) other) listed

theorem Owes.advance {focus : Focus} (owes : machine.Owes waiter task) :
    (machine.advance thread focus).Owes waiter task := by
  have same {next : Machine} (tasks : next.tasks = machine.tasks)
      (ready : next.ready = machine.ready) : next.Owes waiter task := by
    unfold Owes notices at *
    rwa [tasks, ready]
  have deals := advance_deals machine thread focus
  generalize machine.advance thread focus = next at deals
  cases deals with
  | quiet tasks ready => exact same tasks ready
  | opens | registers => exact same rfl rfl
  | creates stack begin program => exact owes.create stack begin []
  | starts work notice => exact owes.create [] (.await work) [notice]
  | @adopts task target handle listed => exact owes.watch (.handlerEnded target handle) task
  | waits tasks =>
      apply Owes.watchAll
      exact owes
  | ends reply => exact owes.finish thread.owner reply

theorem tasks_tell (machine : Machine) (other : TaskId) (notice : Notice) (reply : Reply) :
    (machine.tell other notice reply).tasks = machine.tasks := by
  obtain ⟨world, ready, waiters, same⟩ := tell_eq machine other notice reply
  rw [same]

theorem ready_subset_tell (machine : Machine) (other : TaskId) (notice : Notice)
    (reply : Reply) : machine.ready ⊆ (machine.tell other notice reply).ready := by
  cases loud : notice.announces with
  | true =>
      obtain ⟨world, same⟩ := tell_loud machine other reply loud
      rw [same]
      exact List.Subset.refl _
  | false =>
      cases notice with
      | loopEnded | handlerEnded => cases loud
      | release waiter =>
          simp only [tell]
          split
          · exact List.subset_append_left _ _
          · exact List.Subset.refl _

/-- The head of the queue releases somebody only when no scheduler is to hear of the task. -/
theorem Courteous.announced {rest : List Job} {reply : Reply} (courteous : machine.Courteous)
    (accounted : machine.Accounted)
    (queued : machine.ready = .tell task (.release waiter) reply :: rest) :
    machine.Announced task := by
  have ended : machine.Ended task := by
    apply courteous.told task (.release waiter) reply
    rw [queued]
    exact List.mem_cons_self
  have later := courteous.queued
  rw [queued] at later
  have silent : ∀ job ∈ machine.ready, job.closes task = false := by
    intro job member
    rw [queued] at member
    rcases List.mem_cons.mp member with rfl | after
    · exact Job.Silent.tell rfl task reply task
    · exact List.rel_of_pairwise_cons later after task (by simp [Job.frees])
  intro notice due
  rw [dues, accounted.ended task ended, List.filter_nil, List.nil_append] at due
  obtain ⟨job, member, told⟩ := List.mem_filterMap.mp due
  have quiet := silent job member
  cases job with
  | go => cases told
  | tell other said reply =>
      simp only [Job.announcement?] at told
      split at told
      next own =>
        cases told
        simpa [Job.closes, own.1] using quiet
      next => cases told

/-- A task releases a waiter after a scheduler that was to hear of it has done so. -/
theorem Owes.follow (owes : machine.Owes waiter task) (courteous : machine.Courteous)
    (accounted : machine.Accounted) (follows : machine.follow? choice = some next)
    (prompt : choice.prompt = true) : next.Owes waiter task ∨ machine.Announced task := by
  unfold follow? at follows
  split at follows
  next thread focus busy =>
    cases follows
    exact .inl owes.advance
  next place idle =>
    obtain ⟨job, found, rfl⟩ := Option.map_eq_some_iff.mp follows
    obtain rfl : place = 0 := by simpa [Choice.prompt] using prompt
    obtain ⟨rest, queued⟩ : ∃ rest, machine.ready = job :: rest := by
      cases queue : machine.ready with
      | nil => simp [queue] at found
      | cons first rest =>
          rw [queue] at found
          cases found
          exact ⟨rest, rfl⟩
    rw [queued, List.eraseIdx_cons_zero]
    rcases owes with noted | ⟨reply, told⟩
    · refine .inl (.inl ?_)
      cases job with
      | go => exact noted
      | tell other notice reply =>
          simp only [serve, notices, tasks_tell]
          exact noted
    · rw [queued] at told
      rcases List.mem_cons.mp told with rfl | later
      · exact .inr (courteous.announced accounted queued)
      · refine .inl (.inr ⟨reply, ?_⟩)
        cases job with
        | go => exact later
        | tell other notice reply' => exact ready_subset_tell _ other notice reply' later
  next place idle =>
    obtain ⟨sleeper, found, rfl⟩ := Option.map_eq_some_iff.mp follows
    exact .inl (owes.mono (List.Subset.refl _) (List.subset_append_left _ _))
  next program idle =>
    split at follows
    next alone =>
      cases follows
      exact .inl owes
    · cases follows
  next work idle =>
    cases follows
    exact .inl (owes.create [] (.await work) [])
  next looping now trace idle =>
    cases follows
    exact .inl owes
  · cases follows

theorem Announced.move (heard : machine.Announced task) (move : Move machine next)
    (accounted : machine.Accounted) (listed : task.index < machine.tasks.length) :
    next.Announced task := by
  intro notice due
  rcases move.due due (accounted.listed task) with
    earlier | ⟨-, -, -, rfl, -⟩ | ⟨_, target, handle, -, rfl, -⟩
  · exact heard notice earlier
  · exact absurd listed (Nat.lt_irrefl _)
  · rfl

/-- The shapes that a machine has while a thread waits for tasks, until no scheduler is to
hear of them any more. -/
inductive ListensAt (thread : Thread) (tasks : List TaskId) (machine : Machine) : Prop where
  | enters {work : Work} (busy : machine.control = .busy thread (.await work))
      (begins : machine.await thread work =
        machine.go thread (machine.world, World.waitFor tasks)) :
      ListensAt thread tasks machine
  | asks (busy : machine.control = .busy thread (.wait tasks)) :
      ListensAt thread tasks machine
  | held {waiter : Nat} {record : Waiter} (listed : machine.waiters[waiter]? = some record)
      (own : record.thread = thread) (waits : record.remaining ≠ 0)
      (owes : ∀ task ∈ tasks, machine.Owes waiter task ∨ machine.Announced task) :
      ListensAt thread tasks machine
  | freed (parked : machine.Parked thread .nothing)
      (heard : ∀ task ∈ tasks, machine.Announced task) : ListensAt thread tasks machine
  | goes (busy : machine.control = .busy thread .nothing)
      (heard : ∀ task ∈ tasks, machine.Announced task) : ListensAt thread tasks machine

theorem ListensAt.asked (given : tasks ≠ [])
    (listed : ∀ task ∈ tasks, task.index < machine.tasks.length) :
    ListensAt thread tasks (machine.wait thread tasks) := by
  have owed : ∀ task ∈ tasks, (machine.wait thread tasks).Owes machine.waiters.length task :=
    owes_watchAll machine.waiters.length listed
  exact .held (waiters_wait machine thread tasks) rfl (by simpa using given)
    fun task member => .inl (owed task member)

/-- A thread that waits for tasks is released when their schedulers have heard of them. -/
theorem ListensAt.follow (listens : ListensAt thread tasks machine) (sound : machine.Sound)
    (courteous : machine.Courteous) (accounted : machine.Accounted)
    (listed : ∀ task ∈ tasks, task.index < machine.tasks.length)
    (waiting : machine.control ≠ .busy thread .nothing)
    (follows : machine.follow? choice = some next) (prompt : choice.prompt = true) :
    ListensAt thread tasks next := by
  have move := Move.of_follow? follows
  cases listens with
  | enters busy begins =>
      rw [move.of_busy busy, advance, begins]
      cases tasks with
      | nil => exact .goes rfl fun _ member => absurd member List.not_mem_nil
      | cons first rest => exact .asks rfl
  | asks busy =>
      rw [move.of_busy busy]
      exact .asked (sound.focus _ _ busy) listed
  | @held waiter record found own waits owes =>
      have later (task : TaskId) (member : task ∈ tasks) :
          next.Owes waiter task ∨ next.Announced task := by
        have heard (now : machine.Announced task) := now.move move accounted (listed task member)
        rcases owes task member with owed | now
        · exact (owed.follow courteous accounted follows prompt).imp_right heard
        · exact .inr (heard now)
      rcases move.held sound found waits with ⟨after, still, same, more⟩ | ⟨parked, done⟩
      · exact .held still (same.trans own) more later
      · refine .freed (own ▸ parked) fun task member => (later task member).resolve_left ?_
        intro owed
        have awaited := (sound.move move).awaited waiter
        have due := owed.pending
        omega
  | freed parked heard =>
      have later (task : TaskId) (member : task ∈ tasks) :=
        (heard task member).move move accounted (listed task member)
      rcases parked.move move sound with still | busy
      · exact .freed still later
      · exact .goes busy later
  | goes busy heard => exact absurd busy waiting

variable {looping : Bool} {registry : Registry} {names : List (String × Value)}
variable {before : List Machine} {owner : Option TaskId} {base : List Frame}

/-- By induction on the run: whoever waits still listens, or has heard everything. -/
theorem PromptRun.listens (reached : Run (initial (.initial looping registry) names) before start)
    (listens : ListensAt thread tasks start)
    (listed : ∀ task ∈ tasks, task.index < start.tasks.length)
    (run : PromptRun start past machine)
    (present : ∀ state ∈ before ++ past, state.Present)
    (going : ∀ state ∈ past, state.control ≠ .busy thread .nothing) :
    ListensAt thread tasks machine := by
  induction run with
  | refl => exact listens
  | move prompt follows served induction =>
      have earlier := forall_mem_before present
      obtain ⟨goingBefore, waiting⟩ := forall_snoc going
      have whole := reached.trans prompt.run
      have initially := sound_initial looping registry names
      refine (induction earlier goingBefore).follow (whole.sound initially) whole.courteous
        (whole.accounted earlier).1 ?_ waiting follows served
      intro task member
      exact Nat.lt_of_lt_of_le (listed task member)
        (prompt.run.tasks (reached.sound initially))

theorem ListensAt.announced (listens : ListensAt ⟨owner, base⟩ tasks machine)
    (sound : machine.Sound) (returns : machine.Returns owner base) :
    ∀ task ∈ tasks, machine.Announced task := by
  obtain ⟨reply, replies⟩ := returns
  have suspended {focus : Focus} (parked : machine.Parked ⟨owner, base⟩ focus) : False :=
    parked.alone sound replies rfl
  cases listens with
  | enters busy | asks busy =>
      rw [busy] at replies
      cases replies
  | held listed own waits =>
      exact (suspended (.waits (List.mem_of_getElem? listed) waits own)).elim
  | freed parked => exact (suspended parked).elim
  | goes busy heard => exact heard

end Machine

end Microboard
