import Microboard.Proofs.Machine.Accounted
import Microboard.Proofs.Machine.Follow

/-!
# Waiting for tasks

A thread that waits for tasks goes on only when all of them have ended: every task that
has not is still to release it.
-/

namespace Microboard

/-- What becomes of the record of a task: an end is final, and until it has ended a task
keeps its notices. -/
structure Task.Succeeds (old new : Task) : Prop where
  ended : old.outcome.isSome = true → new.outcome.isSome = true
  noted : ∀ notice ∈ old.notices, new.outcome.isSome = true ∨ notice ∈ new.notices

namespace Task.Succeeds

theorem refl (record : Task) : record.Succeeds record :=
  ⟨id, fun _ member => .inr member⟩

theorem trans {first second third : Task} (left : first.Succeeds second)
    (right : second.Succeeds third) : first.Succeeds third where
  ended done := right.ended (left.ended done)
  noted notice member := by
    rcases left.noted notice member with done | kept
    · exact .inl (right.ended done)
    · exact right.noted notice kept

end Task.Succeeds

namespace Machine

variable {machine next : Machine} {thread : Thread} {tasks : List TaskId} {task : TaskId}

theorem watch_record {index : Nat} {record : Task} (notice : Notice) (other : TaskId)
    (found : machine.tasks[index]? = some record) :
    ∃ later, (watch notice machine other).tasks[index]? = some later ∧
      record.Succeeds later := by
  unfold watch
  split
  · exact ⟨record, found, .refl record⟩
  · simp only [List.getElem?_modify, found]
    by_cases same : other.index = index
    · refine ⟨{ record with notices := record.notices ++ [notice] }, by simp [same], id, ?_⟩
      exact fun notice member => .inr (List.mem_append_left _ member)
    · exact ⟨record, by simp [same], .refl record⟩

theorem watchAll_record {index : Nat} {record : Task} (notice : Notice) (others : List TaskId)
    (found : machine.tasks[index]? = some record) :
    ∃ later, (others.foldl (watch notice) machine).tasks[index]? = some later ∧
      record.Succeeds later := by
  induction others generalizing machine record with
  | nil => exact ⟨record, found, .refl record⟩
  | cons other rest induction =>
      obtain ⟨middle, listed, first⟩ := watch_record notice other found
      obtain ⟨later, last, others⟩ := induction listed
      exact ⟨later, last, first.trans others⟩

theorem finish_record {index : Nat} {record : Task} (owner : Option TaskId) (reply : Reply)
    (found : machine.tasks[index]? = some record) :
    ∃ later, (machine.finish owner reply).tasks[index]? = some later ∧
      record.Succeeds later := by
  cases owner with
  | none => exact ⟨record, found, .refl record⟩
  | some other =>
      simp only [finish, List.getElem?_modify, found]
      by_cases same : other.index = index
      · exact ⟨⟨some reply, []⟩, by simp [same], fun _ => rfl, fun _ _ => .inl rfl⟩
      · exact ⟨record, by simp [same], .refl record⟩

/-- No move takes back an end or loses a notice. -/
theorem Move.record {index : Nat} {record : Task} (move : Move machine next)
    (sound : machine.Sound) (found : machine.tasks[index]? = some record) :
    ∃ later, next.tasks[index]? = some later ∧ record.Succeeds later := by
  have same {next : Machine} (tasks : next.tasks[index]? = machine.tasks[index]?) :
      ∃ later, next.tasks[index]? = some later ∧ record.Succeeds later :=
    ⟨record, tasks.trans found, .refl record⟩
  have inside := (List.getElem?_eq_some_iff.mp found).1
  cases move with
  | @turn thread focus busy =>
      have booked := advance_booked machine thread (sound.focus _ _ busy)
      generalize machine.advance thread focus = next at booked
      cases booked with
      | goes _ _ _ _ tasks | sleeps _ _ _ _ tasks => exact same (by rw [tasks])
      | starts _ _ _ _ tasks => exact same (by rw [tasks, List.getElem?_append_left inside])
      | @adopts _ _ _ task notice _ _ _ _ tasks => exact tasks ▸ watch_record notice task found
      | waits stack tasks => exact watchAll_record _ tasks found
      | ends reply => exact finish_record _ reply found
  | @take before after job idle queued =>
      cases job with
      | go thread focus => exact same rfl
      | tell other told reply =>
          obtain ⟨world, ready, waiters, kept⟩ :=
            tell_eq { machine with ready := before ++ after } other told reply
          simp only [serve, kept]
          exact same rfl
  | wake | enter | clock => exact same rfl
  | launch work idle =>
      exact same (by simp [createTask, List.getElem?_append_left inside])

/-- The task has ended, or it will give a notice. -/
def Noted (machine : Machine) (task : TaskId) (notice : Notice) : Prop :=
  machine.Ended task ∨ notice ∈ machine.notices task

theorem ended_iff : machine.Ended task ↔
    ∃ record, machine.tasks[task.index]? = some record ∧ record.outcome.isSome = true := by
  cases found : machine.tasks[task.index]? <;> simp [Ended, outcomeOf, found]

theorem mem_notices {notice : Notice} : notice ∈ machine.notices task ↔
    ∃ record, machine.tasks[task.index]? = some record ∧ notice ∈ record.notices := by
  cases found : machine.tasks[task.index]? <;> simp [notices, found]

theorem Ended.listed (ended : machine.Ended task) : task.index < machine.tasks.length := by
  obtain ⟨record, found, -⟩ := ended_iff.mp ended
  exact (List.getElem?_eq_some_iff.mp found).1

theorem Ended.move (ended : machine.Ended task) (move : Move machine next)
    (sound : machine.Sound) : next.Ended task := by
  obtain ⟨record, found, done⟩ := ended_iff.mp ended
  obtain ⟨later, listed, succeeds⟩ := move.record sound found
  exact ended_iff.mpr ⟨later, listed, succeeds.ended done⟩

theorem Noted.after {notice : Notice} (noted : machine.Noted task notice)
    (records : ∀ record, machine.tasks[task.index]? = some record →
      ∃ later, next.tasks[task.index]? = some later ∧ record.Succeeds later) :
    next.Noted task notice := by
  rcases noted with ended | member
  · obtain ⟨record, found, done⟩ := ended_iff.mp ended
    obtain ⟨later, listed, succeeds⟩ := records record found
    exact .inl (ended_iff.mpr ⟨later, listed, succeeds.ended done⟩)
  · obtain ⟨record, found, kept⟩ := mem_notices.mp member
    obtain ⟨later, listed, succeeds⟩ := records record found
    apply (succeeds.noted notice kept).imp
    · exact fun done => ended_iff.mpr ⟨later, listed, done⟩
    · exact fun still => mem_notices.mpr ⟨later, listed, still⟩

theorem Noted.move {notice : Notice} (noted : machine.Noted task notice)
    (move : Move machine next) (sound : machine.Sound) : next.Noted task notice :=
  noted.after fun _ found => move.record sound found

theorem Noted.run {start : Machine} {past : List Machine} {notice : Notice}
    (noted : start.Noted task notice) (run : Run start past machine) (sound : start.Sound) :
    machine.Noted task notice := by
  induction run with
  | refl => exact noted
  | move run move induction => exact induction.move move (run.sound sound)

theorem Ended.run {start : Machine} {past : List Machine} (ended : start.Ended task)
    (run : Run start past machine) (sound : start.Sound) : machine.Ended task := by
  induction run with
  | refl => exact ended
  | move run move induction => exact induction.move move (run.sound sound)

theorem noted_watch (notice : Notice) (listed : task.index < machine.tasks.length) :
    (watch notice machine task).Noted task notice := by
  cases ended : (machine.tasks[task.index]?).bind (·.outcome) with
  | some reply =>
      apply Or.inl
      rw [Ended, outcome_watch, outcomeOf, ended]
      rfl
  | none =>
      apply Or.inr
      unfold watch
      rw [ended]
      simp [notices, listed]

theorem length_watch (notice : Notice) (machine : Machine) (task : TaskId) :
    (watch notice machine task).tasks.length = machine.tasks.length := by
  obtain ⟨records, more, length, -, watched⟩ := watch_eq notice machine task
  rw [watched]
  exact length

/-- What asking a task brings about, and asking others keeps, holds of all that are asked. -/
theorem watchAll_all (holds : Machine → TaskId → Prop) (notice : Notice)
    (first : ∀ machine task, task.index < machine.tasks.length →
      holds (watch notice machine task) task)
    (kept : ∀ machine task other, holds machine task → holds (watch notice machine other) task)
    (listed : ∀ task ∈ tasks, task.index < machine.tasks.length) :
    ∀ task ∈ tasks, holds (tasks.foldl (watch notice) machine) task := by
  have still (machine : Machine) (others : List TaskId) (task : TaskId)
      (now : holds machine task) : holds (others.foldl (watch notice) machine) task := by
    induction others generalizing machine with
    | nil => exact now
    | cons other rest induction => exact induction _ (kept machine task other now)
  induction tasks generalizing machine with
  | nil => exact fun _ member => absurd member List.not_mem_nil
  | cons other rest induction =>
      intro task member
      rw [List.foldl_cons]
      rcases List.mem_cons.mp member with rfl | later
      · exact still _ rest task (first machine task (listed task List.mem_cons_self))
      · refine induction ?_ task later
        intro other among
        rw [length_watch]
        exact listed other (List.mem_cons_of_mem _ among)

/-- All tasks that are waited for have ended or will give notice. -/
theorem noted_watchAll (notice : Notice)
    (listed : ∀ task ∈ tasks, task.index < machine.tasks.length) :
    ∀ task ∈ tasks, (tasks.foldl (watch notice) machine).Noted task notice :=
  watchAll_all (fun machine task => machine.Noted task notice) notice
    (fun _ _ inside => noted_watch notice inside)
    (fun _ _ other noted => noted.after fun _ found => watch_record notice other found) listed

theorem waiters_wait (machine : Machine) (thread : Thread) (tasks : List TaskId) :
    (machine.wait thread tasks).waiters[machine.waiters.length]? =
      some ⟨tasks.length, thread⟩ := by
  obtain ⟨records, more, -, -, waits⟩ := wait_eq machine thread tasks
  rw [waits]
  simp

/-- The shapes that a machine has while a thread waits for tasks, until it goes on. -/
inductive AwaitsAt (thread : Thread) (tasks : List TaskId) (machine : Machine) : Prop where
  | asks (busy : machine.control = .busy thread (.wait tasks)) :
      AwaitsAt thread tasks machine
  | held {waiter : Nat} {record : Waiter} (listed : machine.waiters[waiter]? = some record)
      (own : record.thread = thread) (waits : record.remaining ≠ 0)
      (noted : ∀ task ∈ tasks, machine.Noted task (.release waiter)) :
      AwaitsAt thread tasks machine
  | freed (parked : machine.Parked thread .nothing)
      (ended : ∀ task ∈ tasks, machine.Ended task) : AwaitsAt thread tasks machine
  | goes (busy : machine.control = .busy thread .nothing)
      (ended : ∀ task ∈ tasks, machine.Ended task) : AwaitsAt thread tasks machine

theorem pending_of_noted {waiter : Nat} (noted : .release waiter ∈ machine.notices task) :
    0 < machine.pending waiter := by
  obtain ⟨record, found, kept⟩ := mem_notices.mp noted
  have due : 0 < (machine.tasks.flatMap (·.notices)).count (.release waiter) := by
    apply List.count_pos_iff.mpr
    exact List.mem_flatMap.mpr ⟨record, List.mem_of_getElem? found, kept⟩
  unfold pending
  omega

/-- A waiter whom nobody is to release any more waits for no task. -/
theorem Sound.released (sound : machine.Sound) {waiter : Nat}
    (done : machine.remaining waiter = 0) (noted : machine.Noted task (.release waiter)) :
    machine.Ended task := by
  rcases noted with ended | member
  · exact ended
  · have awaited := sound.awaited waiter
    have due := pending_of_noted member
    omega

theorem AwaitsAt.asked (given : tasks ≠ [])
    (listed : ∀ task ∈ tasks, task.index < machine.tasks.length) :
    AwaitsAt thread tasks (machine.wait thread tasks) := by
  refine .held (waiters_wait machine thread tasks) rfl (by simpa using given) ?_
  exact noted_watchAll (.release machine.waiters.length) listed

theorem tell_other {waiter other : Nat} (task : TaskId) (reply : Reply)
    (different : other ≠ waiter) :
    (machine.tell task (.release other) reply).waiters[waiter]? = machine.waiters[waiter]? := by
  simp only [tell]
  split <;> simp [enqueue, List.getElem?_modify_ne _ _ different]

/-- A waiter stays as it is until somebody releases it. -/
theorem Move.waiter {waiter : Nat} {record : Waiter} (move : Move machine next)
    (sound : machine.Sound) (found : machine.waiters[waiter]? = some record) :
    next.waiters[waiter]? = some record ∨
      ∃ before after task reply,
        machine.ready = before ++ .tell task (.release waiter) reply :: after ∧
        next = { machine with ready := before ++ after }.tell task (.release waiter) reply := by
  have inside := (List.getElem?_eq_some_iff.mp found).1
  cases move with
  | @turn thread focus busy =>
      apply Or.inl
      have booked := advance_booked machine thread (sound.focus _ _ busy)
      generalize machine.advance thread focus = next at booked
      cases booked with
      | goes _ _ _ _ _ waiters | starts _ _ _ _ _ waiters | adopts _ _ _ _ _ waiters
      | sleeps _ _ _ _ _ waiters =>
          exact waiters ▸ found
      | waits stack tasks =>
          obtain ⟨records, more, -, -, waits⟩ := wait_eq machine ⟨thread.owner, stack⟩ tasks
          rw [waits]
          exact (List.getElem?_append_left inside).trans found
      | ends reply => cases thread.owner <;> exact found
  | @take before after job idle queued =>
      cases job with
      | go thread focus => exact .inl found
      | tell task notice reply =>
          cases loud : notice.announces with
          | true =>
              obtain ⟨world, same⟩ :=
                tell_loud { machine with ready := before ++ after } task reply loud
              simp only [serve, same]
              exact .inl found
          | false =>
              cases notice with
              | loopEnded | handlerEnded => cases loud
              | release other =>
                  by_cases same : other = waiter
                  · subst same
                    exact .inr ⟨before, after, task, reply, queued, rfl⟩
                  · exact .inl ((tell_other task reply same).trans found)
  | wake | enter | clock | launch => exact .inl found

/-- A waiter that waits for tasks keeps its thread until there are none that it waits for. -/
theorem Move.held {waiter : Nat} {record : Waiter} (move : Move machine next)
    (sound : machine.Sound) (found : machine.waiters[waiter]? = some record)
    (waits : record.remaining ≠ 0) :
    (∃ later, next.waiters[waiter]? = some later ∧ later.thread = record.thread ∧
      later.remaining ≠ 0) ∨
    next.Parked record.thread .nothing ∧ next.remaining waiter = 0 := by
  rcases move.waiter sound found with same | ⟨before, after, task, reply, queued, rfl⟩
  · exact .inl ⟨record, same, rfl, waits⟩
  · have released : { machine with ready := before ++ after }.tell task (.release waiter)
        reply = _ := tell_release task reply found
    have fewer : ({ machine with ready := before ++ after }.tell task (.release waiter)
        reply).waiters[waiter]? = some { record with remaining := record.remaining - 1 } := by
      rw [released]
      simp [found]
    by_cases last : record.remaining ≤ 1
    · refine .inr ⟨.queued ?_, ?_⟩
      · rw [released]
        simp [last]
      · rw [remaining, fewer]
        simp
        omega
    · refine .inl ⟨_, fewer, rfl, ?_⟩
      simp
      omega

/-- Until a waiting thread goes on, every move leaves it waiting; when it goes on, the
tasks have ended. -/
theorem AwaitsAt.move (awaits : AwaitsAt thread tasks machine) (move : Move machine next)
    (sound : machine.Sound) (listed : ∀ task ∈ tasks, task.index < machine.tasks.length)
    (waiting : machine.control ≠ .busy thread .nothing) : AwaitsAt thread tasks next := by
  cases awaits with
  | asks busy =>
      rw [move.of_busy busy]
      exact .asked (sound.focus _ _ busy) listed
  | @held waiter record found own waits noted =>
      have later (task : TaskId) (member : task ∈ tasks) :=
        (noted task member).move move sound
      rcases move.held sound found waits with ⟨after, listed, same, still⟩ | ⟨parked, done⟩
      · exact .held listed (same.trans own) still later
      · refine .freed (own ▸ parked) ?_
        exact fun task member => (sound.move move).released done (later task member)
  | freed parked ended =>
      have later (task : TaskId) (member : task ∈ tasks) :=
        (ended task member).move move sound
      rcases parked.move move sound with still | busy
      · exact .freed still later
      · exact .goes busy later
  | goes busy ended => exact absurd busy waiting

/-- The thread does nothing but ask for the end of tasks. -/
def Idles (thread : Thread) (tasks : List TaskId) (machine : Machine) : Prop :=
  ∀ other focus, machine.control = .busy other focus → other.owner = thread.owner →
    other = thread ∧ focus = .wait tasks

theorem AwaitsAt.idles (awaits : AwaitsAt thread tasks machine) (sound : machine.Sound)
    (waiting : machine.control ≠ .busy thread .nothing) : Idles thread tasks machine := by
  intro other focus busy own
  cases awaits with
  | asks asking =>
      rw [asking] at busy
      cases busy
      exact ⟨rfl, rfl⟩
  | held listed same waits =>
      have parked : machine.Parked thread .nothing :=
        .waits (List.mem_of_getElem? listed) waits same
      exact absurd own (parked.alone sound busy)
  | freed parked => exact absurd own (parked.alone sound busy)
  | goes goes => exact absurd goes waiting

theorem AwaitsAt.ended (awaits : AwaitsAt thread tasks machine) (sound : machine.Sound)
    (goes : machine.control = .busy thread .nothing) : ∀ task ∈ tasks, machine.Ended task := by
  cases awaits with
  | asks asking =>
      rw [asking] at goes
      cases goes
  | held listed same waits =>
      have parked : machine.Parked thread .nothing :=
        .waits (List.mem_of_getElem? listed) waits same
      exact absurd rfl (parked.alone sound goes)
  | freed parked => exact absurd rfl (parked.alone sound goes)
  | goes _ ended => exact ended

/-- A waiting thread still waits, or all tasks had ended when it went on. -/
theorem Run.awaits {start : Machine} {past : List Machine} (run : Run start past machine)
    (sound : start.Sound) (awaits : AwaitsAt thread tasks start)
    (listed : ∀ task ∈ tasks, task.index < start.tasks.length) :
    AwaitsAt thread tasks machine ∧ (∀ state ∈ past, Idles thread tasks state) ∨
      ∃ waiting resumed later, past = waiting ++ resumed :: later ∧
        Run start waiting resumed ∧ resumed.control = .busy thread .nothing ∧
        (∀ task ∈ tasks, resumed.Ended task) ∧ (∀ state ∈ waiting, Idles thread tasks state) ∧
        Run (resumed.advance thread .nothing) later machine := by
  induction run with
  | refl => exact .inl ⟨awaits, fun _ member => absurd member List.not_mem_nil⟩
  | @move past machine next run move induction =>
      have kept := run.sound sound
      rcases induction with
        ⟨still, idle⟩ | ⟨waiting, resumed, later, rfl, first, goes, ended, idle, rest⟩
      · by_cases goes : machine.control = .busy thread .nothing
        · refine .inr ⟨past, machine, [], rfl, run, goes, still.ended kept goes, idle, ?_⟩
          rw [move.of_busy goes]
          exact .refl
        · apply Or.inl
          refine ⟨still.move move kept ?_ goes, ?_⟩
          · intro task member
            exact Nat.lt_of_lt_of_le (listed task member) (run.tasks sound)
          · intro state member
            rcases List.mem_append.mp member with earlier | last
            · exact idle state earlier
            · exact List.mem_singleton.mp last ▸ still.idles kept goes
      · refine .inr ⟨waiting, resumed, later ++ [machine], by simp, first, goes, ended, idle, ?_⟩
        exact rest.move move

/-- Nothing runs in the name of a task that has ended. -/
def Retired (machine : Machine) : Prop :=
  ∀ task, machine.Ended task → machine.live (some task) = 0

theorem retired_initial (looping : Bool) (registry : Registry) (names : List (String × Value)) :
    (initial (.initial looping registry) names).Retired := by
  intro task ended
  cases ended

theorem Retired.move (retired : machine.Retired) (move : Move machine next)
    (sound : machine.Sound) : next.Retired := by
  intro task ended
  have before (earlier : machine.Ended task) : next.live (some task) = 0 :=
    (move.gone sound (retired task earlier) earlier.listed).1
  have same (tasks : next.tasks = machine.tasks) : next.live (some task) = 0 :=
    before (by simpa [Ended, outcomeOf, tasks] using ended)
  have grown {given : List Notice} (tasks : next.tasks = machine.tasks ++ [⟨none, given⟩]) :
      next.live (some task) = 0 := by
    apply before
    obtain ⟨record, found, done⟩ := ended_iff.mp ended
    rw [tasks, List.getElem?_append] at found
    split at found
    · exact ended_iff.mpr ⟨record, found, done⟩
    · have fresh := List.mem_singleton.mp (List.mem_of_getElem? found)
      subst fresh
      cases done
  cases move with
  | @turn thread focus busy =>
      have booked := advance_booked machine thread (sound.focus _ _ busy)
      generalize advanced : machine.advance thread focus = after at *
      cases booked with
      | goes _ _ _ _ tasks | sleeps _ _ _ _ tasks => exact same tasks
      | starts _ _ _ _ tasks => exact grown tasks
      | @adopts _ _ _ other notice _ _ _ _ tasks =>
          apply before
          rw [Ended, ← outcome_watch notice machine other task]
          simpa only [Ended, outcomeOf, tasks] using ended
      | waits stack tasks =>
          apply before
          rw [Ended, Machine.wait, outcome_watchAll] at ended
          exact ended
      | ends reply =>
          by_cases own : thread.owner = some task
          · rw [own]
            exact live_finish sound reply (show machine.control =
              .busy ⟨some task, thread.stack⟩ focus from own ▸ busy)
          · apply before
            cases owner : thread.owner with
            | none =>
                rw [owner] at ended
                exact ended
            | some other =>
                have apart : other ≠ task := fun equal => own (by rw [owner, equal])
                simpa [Ended, outcomeOf, finish, owner, TaskId.index_ne apart] using ended
  | @take earlier later job idle queued =>
      cases job with
      | go thread focus => exact same rfl
      | tell other told reply =>
          obtain ⟨world, ready, waiters, kept⟩ :=
            tell_eq { machine with ready := earlier ++ later } other told reply
          exact same (by simp only [serve, kept])
  | wake | enter | clock => exact same rfl
  | launch work idle => exact grown rfl

theorem Run.retired {start : Machine} {past : List Machine} (run : Run start past machine)
    (sound : start.Sound) (retired : start.Retired) : machine.Retired := by
  induction run with
  | refl => exact retired
  | move run move induction => exact induction.move move (run.sound sound)

end Machine

end Microboard
