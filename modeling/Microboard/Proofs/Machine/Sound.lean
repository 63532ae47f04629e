import Microboard.Proofs.Machine.Books
import Microboard.Proofs.Machine.Rests

/-!
# Reachable machines

Every move of a run keeps the books of a machine in order, and its world sound.
-/

namespace Microboard.Machine

variable {machine next : Machine} {owner : Option TaskId} {thread : Thread} {focus : Focus}

def Orderly (destroys : Ref .table → Ref .handle → Prop) (machine : Machine) : Prop :=
  ∀ thread focus, machine.control = .busy thread focus →
    focus.Permitted (.destroying destroys) machine.world

theorem orderly_everything (machine : Machine) : machine.Orderly fun _ _ => True := by
  intro thread focus _
  cases focus with
  | call target arguments => exact target.permitted_everything machine.world arguments
  | await work => exact work.within_destroying machine.world
  | _ => trivial

/-- Whatever a turn leads to, it changes the world by permitted steps, and what comes
next can be done. -/
theorem advance_steps {destroys : Ref .table → Ref .handle → Prop}
    (inside : focus.Within .everything)
    (permitted : focus.Permitted (.destroying destroys) machine.world) :
    World.Steps (.destroying destroys) machine.world (machine.advance thread focus).world ∧
      ∀ after focus', (machine.advance thread focus).control = .busy after focus' →
        focus'.Within .everything := by
  obtain ⟨owner, stack⟩ := thread
  by_cases returns : ∃ reply, focus = .reply reply ∧ stack = []
  · obtain ⟨reply, rfl, rfl⟩ := returns
    cases owner <;> exact ⟨World.steps_refl _, fun _ _ busy => nomatch busy⟩
  · have turn : Turn (.destroying destroys) machine owner []
        (machine.advance ⟨owner, stack ++ []⟩ focus) := by
      refine advance_turn (Scope.destroying_closed _) (fun frame _ => frame.within_destroying)
        (Focus.within_destroying inside) permitted fun reply same empty => ?_
      exact returns ⟨reply, same, empty⟩
    rw [List.append_nil] at turn
    cases turn with
    | goes above focus' steps control frames inside' =>
        refine ⟨steps, ?_⟩
        intro after other busy
        rw [control] at busy
        cases busy
        exact Focus.within_destroying inside'
    | parks above steps control =>
        refine ⟨steps, ?_⟩
        intro after other busy
        rw [control] at busy
        cases busy

/-- While no thread runs, nothing happens that would need a permission. -/
theorem Move.steps_of_idle {scope : Scope} (move : Move machine next)
    (idle : machine.control = .idle) : World.Steps scope machine.world next.world := by
  cases move with
  | turn busy =>
      rw [idle] at busy
      cases busy
  | @take before after job _ queued =>
      cases job with
      | go thread focus => exact World.steps_refl _
      | tell task notice reply =>
          exact tell_steps { machine with ready := before ++ after } task notice reply
  | wake => exact World.Steps.one (.history machine.world _ _ _ _ machine.world.trace)
  | enter program => exact World.steps_refl _
  | launch work => exact createTask_steps machine [] (.await work) []
  | clock looping now trace =>
      exact World.Steps.one (.history machine.world _ _ looping now trace)

theorem Move.steps {destroys : Ref .table → Ref .handle → Prop} (move : Move machine next)
    (inside : ∀ thread focus, machine.control = .busy thread focus →
      focus.Within .everything)
    (orderly : machine.Orderly destroys) :
    World.Steps (.destroying destroys) machine.world next.world := by
  cases control : machine.control with
  | idle => exact move.steps_of_idle control
  | busy thread focus =>
      rw [move.of_busy control]
      exact (advance_steps (inside _ _ control) (orderly _ _ control)).1

theorem tell_release {waiter : Nat} {record : Waiter} (task : TaskId) (reply : Reply)
    (listed : machine.waiters[waiter]? = some record) :
    machine.tell task (.release waiter) reply =
      { machine with
        ready := machine.ready ++
          if record.remaining ≤ 1 then [.go record.thread .nothing] else []
        waiters := machine.waiters.modify waiter fun record =>
          { record with remaining := record.remaining - 1 } } := by
  have found : (machine.waiters.modify waiter fun record =>
      { record with remaining := record.remaining - 1 })[waiter]? =
        some { record with remaining := record.remaining - 1 } := by
    rw [List.getElem?_modify_eq, listed]
    rfl
  by_cases last : record.remaining ≤ 1
  · have exhausted : record.remaining - 1 = 0 := by omega
    simp only [tell, found, exhausted, last, if_true, enqueue]
  · obtain ⟨more, left⟩ : ∃ more, record.remaining - 1 = more + 1 :=
      ⟨record.remaining - 2, by omega⟩
    simp only [tell, found, left, last, if_false, List.append_nil]

/-- A release hands a thread from its waiter to the queue, or keeps it waiting. -/
theorem tell_live {waiter : Nat} (task : TaskId) (reply : Reply)
    (waits : machine.remaining waiter ≠ 0) :
    (machine.tell task (.release waiter) reply).live owner = machine.live owner := by
  cases listed : machine.waiters[waiter]? with
  | none => simp [remaining, listed] at waits
  | some record =>
      have unfinished : record.remaining ≠ 0 := by simpa [remaining, listed] using waits
      obtain ⟨before, other, after, split, place, changed⟩ :=
        List.exists_of_modify (fun record : Waiter =>
          { record with remaining := record.remaining - 1 })
          (List.getElem?_eq_some_iff.mp listed).1
      have same : other = record := by
        rw [split, ← place] at listed
        simpa using listed
      subst same
      rw [tell_release task reply listed, changed]
      unfold live
      rw [split]
      simp only [runs, List.countP_append, List.countP_cons]
      by_cases last : other.remaining ≤ 1
      · have exhausted : other.remaining - 1 = 0 := by omega
        simp [last, exhausted, waiterOf, jobOf, unfinished]
        omega
      · have remains : other.remaining - 1 ≠ 0 := by omega
        simp [last, remains, waiterOf, unfinished]

theorem countP_jobOf_eq_zero {jobs : List Job}
    (silent : ∀ thread focus, .go thread focus ∉ jobs) : jobs.countP (jobOf owner) = 0 := by
  apply List.countP_eq_zero.mpr
  intro job member
  cases job with
  | go thread focus => exact absurd member (silent thread focus)
  | tell => simp [jobOf]

/-- How the number of an owner's threads may change: it grows only when there was none,
and then the owner is nobody or a new task. -/
def Balanced (machine next : Machine) (owner : Option TaskId) : Prop :=
  next.live owner ≤ machine.live owner ∨
    machine.live owner = 0 ∧ next.live owner ≤ 1 ∧
      ∀ task, owner = some task →
        machine.tasks.length ≤ task.index ∧ task.index < next.tasks.length

theorem balanced_fresh (sound : machine.Sound)
    (grown : next.live owner = machine.live owner +
      if some ⟨machine.tasks.length⟩ = owner then 1 else 0)
    (listed : machine.tasks.length < next.tasks.length) : Balanced machine next owner := by
  by_cases fresh : some ⟨machine.tasks.length⟩ = owner
  · have absent : machine.live owner = 0 := Nat.eq_zero_of_not_pos fun positive => by
      have earlier := sound.owned ⟨machine.tasks.length⟩ (fresh ▸ Nat.ne_of_gt positive)
      exact absurd earlier (Nat.lt_irrefl _)
    refine .inr ⟨absent, by simp [grown, absent, fresh], ?_⟩
    intro task same
    rw [← fresh] at same
    cases same
    exact ⟨Nat.le_refl _, listed⟩
  · exact .inl (by simp [grown, fresh])

theorem Booked.balanced {stack : List Frame} {runner : Option TaskId}
    (booked : Booked machine runner next) (sound : machine.Sound)
    (busy : machine.control = .busy ⟨runner, stack⟩ focus) : Balanced machine next owner := by
  cases booked with
  | goes control ready sleepers slept tasks waiters =>
      apply Or.inl
      apply Nat.le_of_eq
      simp only [live, runs, control, busy, ready, sleepers, waiters]
  | @starts next stack' first focus' begin notices control ready sleepers slept tasks waiters =>
      have grown : next.live owner = machine.live owner +
          if some ⟨machine.tasks.length⟩ = owner then 1 else 0 := by
        simp only [live, runs, control, busy, ready, sleepers, waiters, List.countP_append,
          List.countP_singleton, jobOf, decide_eq_true_eq]
        omega
      exact balanced_fresh sound grown (by simp [tasks])
  | @adopts next stack' focus' task notice control ready sleepers slept tasks waiters =>
      obtain ⟨records, more, -, silent, watches⟩ := watch_eq notice machine task
      rw [watches] at ready
      apply Or.inl
      apply Nat.le_of_eq
      simp only [live, runs, control, busy, ready, sleepers, waiters, List.countP_append,
        countP_jobOf_eq_zero silent, Nat.add_zero]
  | sleeps control ready sleepers slept tasks waiters =>
      apply Or.inl
      apply Nat.le_of_eq
      simp only [live, runs, control, busy, ready, sleepers, waiters, List.countP_append,
        List.countP_singleton, decide_eq_true_eq]
      omega
  | waits stack' tasks =>
      obtain ⟨records, more, -, silent, waits⟩ := wait_eq machine ⟨runner, stack'⟩ tasks
      apply Or.inl
      simp only [waits, live, runs, busy, List.countP_append, countP_jobOf_eq_zero silent,
        List.countP_singleton, waiterOf]
      by_cases same : runner = owner
      · simp [same]
        split <;> omega
      · simp [same]
  | ends reply =>
      apply Or.inl
      have silent (task : TaskId) (notices : List Notice) : ∀ thread focus,
          .go thread focus ∉ notices.map fun notice => Job.tell task notice reply := by
        simp
      cases runner with
      | none =>
          simp only [live, runs, busy, finish]
          omega
      | some task =>
          simp only [live, runs, busy, finish, List.countP_append,
            countP_jobOf_eq_zero (silent task _)]
          omega

theorem countP_awake {sleepers : List Sleeper} {sleeper : Sleeper} (asleep : sleeper ∈ sleepers)
    (owns : Sleeper → Bool) :
    (sleepers.filter fun other => other.number ≠ sleeper.number).countP owns +
      (if owns sleeper then 1 else 0) ≤ sleepers.countP owns := by
  obtain ⟨before, after, rfl⟩ := List.append_of_mem asleep
  have kept (part : List Sleeper) :
      (part.filter fun other => other.number ≠ sleeper.number).countP owns ≤ part.countP owns :=
    List.filter_sublist.countP_le
  have left := kept before
  have right := kept after
  simp only [List.filter_append, List.countP_append, List.filter_cons, List.countP_cons,
    ne_eq, not_true_eq_false, decide_false, Bool.false_eq_true, if_false] at *
  omega

/-- Nobody runs in the name of a task that is not alive. -/
theorem not_running_of_gone {task : TaskId} (absent : machine.live (some task) = 0)
    (thread : Thread) (focus : Focus) (busy : machine.control = .busy thread focus) :
    thread.owner ≠ some task := by
  intro own
  simp [live, runs, busy, own] at absent

/-- A release that is queued is one of those that its waiter still waits for. -/
theorem Sound.remaining_ne (sound : machine.Sound) {waiter : Nat} {job : Job}
    (queued : job ∈ machine.ready) (releases : job.releases waiter = true) :
    machine.remaining waiter ≠ 0 := by
  have counted : 0 < machine.ready.countP (Job.releases waiter) :=
    List.countP_pos_iff.mpr ⟨job, queued, releases⟩
  have due : 0 < machine.pending waiter := Nat.add_pos_left counted _
  exact Nat.ne_of_gt (Nat.lt_of_lt_of_le due (sound.awaited waiter))

theorem Move.balanced (move : Move machine next) (owner : Option TaskId)
    (sound : machine.Sound) : Balanced machine next owner := by
  cases move with
  | @turn thread focus busy =>
      exact (advance_booked machine thread (sound.focus thread focus busy)).balanced sound busy
  | @take before after job idle queued =>
      apply Or.inl
      cases job with
      | go thread focus =>
          apply Nat.le_of_eq
          simp only [live, runs, serve, idle, queued, List.countP_append, List.countP_cons, jobOf,
            decide_eq_true_eq]
          omega
      | tell task notice reply =>
          have left : { machine with ready := before ++ after }.live owner =
              machine.live owner := by
            simp only [live, runs, queued, List.countP_append, List.countP_cons, jobOf]
            simp
          refine Nat.le_of_eq (Eq.trans ?_ left)
          cases notice with
          | loopEnded target id => rfl
          | handlerEnded target handle => rfl
          | release waiter =>
              have queues : .tell task (.release waiter) reply ∈ machine.ready := by
                simp [queued]
              exact tell_live task reply (sound.remaining_ne queues (by simp [Job.releases]))
  | @wake sleeper idle asleep =>
      apply Or.inl
      have away := countP_awake asleep fun sleeper => sleeper.thread.owner = owner
      simp only [live, runs, Machine.wake, idle, List.countP_append, List.countP_singleton, jobOf]
      by_cases own : sleeper.thread.owner = owner
      · simp only [own, decide_true, if_true] at away ⊢
        omega
      · simp only [own, decide_false, Bool.false_eq_true, if_false] at away ⊢
        omega
  | enter program idle alone =>
      by_cases outside : owner = none
      · refine .inr ⟨outside ▸ alone, ?_, by simp [outside]⟩
        simp only [live, runs, idle, outside] at *
        simp
        omega
      · apply Or.inl
        apply Nat.le_of_eq
        simp [live, runs, idle, Ne.symm outside]
  | launch work idle =>
      refine balanced_fresh sound ?_ (by simp [createTask])
      simp only [live, runs, createTask, List.countP_append, List.countP_singleton, jobOf,
        decide_eq_true_eq]
      omega
  | clock looping now trace idle => exact .inl (Nat.le_refl _)

theorem Move.tasks (move : Move machine next) (sound : machine.Sound) :
    machine.tasks.length ≤ next.tasks.length := by
  cases move with
  | @turn thread focus busy =>
      have booked := advance_booked machine thread (sound.focus thread focus busy)
      generalize machine.advance thread focus = next at booked
      cases booked with
      | goes _ _ _ _ tasks | sleeps _ _ _ _ tasks => exact Nat.le_of_eq (by rw [tasks])
      | starts _ _ _ _ tasks => simp [tasks]
      | @adopts _ _ _ task notice _ _ _ _ tasks =>
          obtain ⟨records, more, length, -, watches⟩ := watch_eq notice machine task
          exact Nat.le_of_eq (by rw [tasks, watches]; exact length.symm)
      | waits stack tasks =>
          obtain ⟨records, more, length, -, waits⟩ := wait_eq machine ⟨thread.owner, stack⟩ tasks
          exact Nat.le_of_eq (by rw [waits]; exact length.symm)
      | ends reply => cases thread.owner <;> simp [finish]
  | @take before after job idle queued =>
      cases job with
      | go thread focus => exact Nat.le_refl _
      | tell task notice reply =>
          obtain ⟨world, ready, waiters, told⟩ :=
            tell_eq { machine with ready := before ++ after } task notice reply
          simp [serve, told]
  | wake idle asleep | enter program idle alone | clock looping now trace idle =>
      exact Nat.le_refl _
  | launch work idle => simp [createTask]

theorem finish_pending (reply : Reply) (waiter : Nat) :
    (machine.finish owner reply).pending waiter = machine.pending waiter := by
  cases owner with
  | none => rfl
  | some task =>
      have told (notices : List Notice) :
          (notices.map fun notice => Job.tell task notice reply).countP (Job.releases waiter) =
            notices.count (.release waiter) := by
        rw [List.countP_map, List.count]
        apply List.countP_congr
        intro notice _
        simp [Job.releases]
      by_cases listed : task.index < machine.tasks.length
      · obtain ⟨before, record, after, split, place, changed⟩ :=
          List.exists_of_modify (fun _ : Task => (⟨some reply, []⟩ : Task)) listed
        have found : machine.tasks[task.index]? = some record := by
          rw [split, ← place]
          simp
        simp only [finish, pending, found, changed, Option.map_some, Option.getD_some,
          List.countP_append, told]
        rw [split]
        simp only [List.flatMap_append, List.flatMap_cons, List.count_append, List.count_nil]
        omega
      · have missing : machine.tasks[task.index]? = none :=
          List.getElem?_eq_none (Nat.le_of_not_lt listed)
        simp [finish, pending, missing, List.modify_eq_self (Nat.le_of_not_lt listed)]

theorem wait_pending (machine : Machine) (thread : Thread) (tasks : List TaskId)
    (waiter : Nat) :
    (machine.wait thread tasks).pending waiter ≤
      machine.pending waiter + if waiter = machine.waiters.length then tasks.length else 0 :=
  watchAll_pending machine.waiters.length
    { machine with
      control := .idle
      waiters := machine.waiters ++ [⟨tasks.length, thread⟩] } tasks waiter

theorem wait_remaining (machine : Machine) (thread : Thread) (tasks : List TaskId)
    (waiter : Nat) :
    (machine.wait thread tasks).remaining waiter =
      if waiter = machine.waiters.length then tasks.length else machine.remaining waiter := by
  obtain ⟨records, more, -, -, waits⟩ := wait_eq machine thread tasks
  rw [waits]
  rcases Nat.lt_trichotomy waiter machine.waiters.length with inside | rfl | outside
  · simp [remaining, List.getElem?_append_left inside, Nat.ne_of_lt inside]
  · simp [remaining]
  · have listed : (machine.waiters ++ [⟨tasks.length, thread⟩])[waiter]? = none :=
      List.getElem?_eq_none (by rw [List.length_append]; exact outside)
    have before : machine.waiters[waiter]? = none :=
      List.getElem?_eq_none (Nat.le_of_lt outside)
    rw [if_neg (Nat.ne_of_gt outside), remaining, remaining, listed, before]

theorem Booked.awaited {runner : Option TaskId} (booked : Booked machine runner next)
    (sound : machine.Sound) (waiter : Nat) : next.pending waiter ≤ next.remaining waiter := by
  have before := sound.awaited waiter
  cases booked with
  | goes control ready sleepers slept tasks waiters
  | sleeps control ready sleepers slept tasks waiters =>
      simpa only [pending, remaining, ready, tasks, waiters] using before
  | starts control ready sleepers slept tasks waiters silent =>
      simpa [pending, remaining, ready, tasks, waiters, List.count_eq_zero.mpr (silent waiter),
        Job.releases] using before
  | @adopts _ _ _ task notice control ready sleepers slept tasks waiters silent =>
      have due := watch_pending notice machine task waiter
      rw [if_neg (silent waiter), Nat.add_zero] at due
      simp only [pending, remaining, ready, tasks, waiters] at before due ⊢
      exact Nat.le_trans due before
  | waits stack tasks =>
      rw [wait_remaining]
      apply Nat.le_trans (wait_pending machine _ tasks waiter)
      by_cases last : waiter = machine.waiters.length
      · have unwaited : machine.remaining waiter = 0 := by simp [remaining, last]
        simp only [last, if_true] at *
        omega
      · simpa only [last, if_false, Nat.add_zero] using before
  | ends reply =>
      rw [finish_pending]
      cases runner <;> exact before

theorem tell_release_books {released : Nat} (task : TaskId) (reply : Reply)
    (waits : machine.remaining released ≠ 0) (waiter : Nat) :
    (machine.tell task (.release released) reply).pending waiter = machine.pending waiter ∧
      (machine.tell task (.release released) reply).remaining waiter =
        machine.remaining waiter - if released = waiter then 1 else 0 := by
  cases listed : machine.waiters[released]? with
  | none => simp [remaining, listed] at waits
  | some record =>
      rw [tell_release task reply listed]
      constructor
      · by_cases last : record.remaining ≤ 1 <;> simp [pending, last, Job.releases]
      · by_cases same : released = waiter
        · subst same
          simp [remaining, listed]
        · simp [remaining, same]

theorem tell_awaited (task : TaskId) (notice : Notice) (reply : Reply)
    (before : ∀ waiter,
      machine.pending waiter + (if notice = .release waiter then 1 else 0) ≤
        machine.remaining waiter) (waiter : Nat) :
    (machine.tell task notice reply).pending waiter ≤
      (machine.tell task notice reply).remaining waiter := by
  have kept : machine.pending waiter ≤ machine.remaining waiter :=
    Nat.le_trans (Nat.le_add_right _ _) (before waiter)
  cases notice with
  | loopEnded target id => exact kept
  | handlerEnded target handle => exact kept
  | release released =>
      have waits : machine.remaining released ≠ 0 := by
        have own := before released
        simp only [if_true] at own
        omega
      obtain ⟨due, left⟩ := tell_release_books task reply waits waiter
      rw [due, left]
      have own := before waiter
      simp only [Notice.release.injEq] at own
      omega

theorem Move.awaited (move : Move machine next) (sound : machine.Sound) (waiter : Nat) :
    next.pending waiter ≤ next.remaining waiter := by
  have before := sound.awaited waiter
  cases move with
  | @turn thread focus busy =>
      exact (advance_booked machine thread (sound.focus thread focus busy)).awaited sound waiter
  | @take earlier later job idle queued =>
      cases job with
      | go thread focus =>
          simpa [pending, remaining, serve, queued, List.countP_append, Job.releases] using before
      | tell task notice reply =>
          refine tell_awaited task notice reply ?_ waiter
          intro waiter
          have due := sound.awaited waiter
          simp only [pending, queued, List.countP_append, List.countP_cons, Job.releases,
            decide_eq_true_eq] at due ⊢
          exact Nat.le_trans (Nat.le_of_eq (by omega)) due
  | wake idle asleep =>
      simpa [pending, remaining, Machine.wake, Job.releases] using before
  | enter program idle alone | clock looping now trace idle => exact before
  | launch work idle =>
      simpa [pending, remaining, createTask, Job.releases] using before

theorem Numbered.same (numbered : machine.Numbered) (sleepers : next.sleepers = machine.sleepers)
    (slept : next.slept = machine.slept) : next.Numbered :=
  ⟨sleepers ▸ numbered.numbers, by rw [sleepers, slept]; exact numbered.slept⟩

theorem Booked.numbered {runner : Option TaskId} (booked : Booked machine runner next)
    (numbered : machine.Numbered) : next.Numbered := by
  cases booked with
  | goes control ready sleepers slept | starts control ready sleepers slept
  | adopts control ready sleepers slept =>
      exact numbered.same sleepers slept
  | sleeps control ready sleepers slept =>
      constructor
      · rw [sleepers, List.map_append, List.nodup_append]
        refine ⟨numbered.numbers, List.pairwise_singleton _ _, ?_⟩
        rintro _ earlier _ last rfl
        obtain ⟨sleeper, member, same⟩ := List.mem_map.mp earlier
        have below := numbered.slept sleeper member
        have equal : _ = machine.slept := List.mem_singleton.mp last
        omega
      · intro sleeper member
        rw [sleepers] at member
        rw [slept]
        rcases List.mem_append.mp member with earlier | last
        · exact Nat.lt_succ_of_lt (numbered.slept sleeper earlier)
        · rw [List.mem_singleton.mp last]
          exact Nat.lt_succ_self _
  | waits stack tasks =>
      obtain ⟨records, more, -, -, waits⟩ := wait_eq machine ⟨runner, stack⟩ tasks
      rw [waits]
      exact numbered.same rfl rfl
  | ends reply => cases runner <;> exact numbered.same rfl rfl

theorem Move.numbered (move : Move machine next) (sound : machine.Sound) : next.Numbered := by
  cases move with
  | @turn thread focus busy =>
      exact (advance_booked machine thread (sound.focus thread focus busy)).numbered
        sound.numbered
  | @take earlier later job idle queued =>
      cases job with
      | go thread focus => exact sound.numbered.same rfl rfl
      | tell task notice reply =>
          obtain ⟨world, ready, waiters, told⟩ :=
            tell_eq { machine with ready := earlier ++ later } task notice reply
          simp only [serve, told]
          exact sound.numbered.same rfl rfl
  | wake idle asleep =>
      constructor
      · exact (List.filter_sublist.map _).nodup sound.numbered.numbers
      · intro sleeper member
        exact sound.numbered.slept sleeper (List.mem_filter.mp member).1
  | enter program idle alone | clock looping now trace idle | launch work idle =>
      exact sound.numbered.same rfl rfl

theorem begins_within : Begins fun _ focus => focus.Within .everything :=
  ⟨fun _ _ => trivial, fun _ _ => trivial, fun _ _ => trivial⟩

theorem Sound.rests (sound : machine.Sound) :
    machine.Rests fun _ focus => focus.Within .everything :=
  ⟨sound.queued, fun _ _ => trivial, fun _ _ => trivial⟩

/-- What the running thread does next can be done, and so can what the queue lets others
do. -/
theorem Move.within (move : Move machine next) (sound : machine.Sound) :
    (∀ thread focus, next.control = .busy thread focus → focus.Within .everything) ∧
      ∀ thread focus, .go thread focus ∈ next.ready → focus.Within .everything := by
  cases control : machine.control with
  | idle =>
      obtain ⟨rests, running⟩ := sound.rests.idle begins_within control move
      exact ⟨running, rests.queued⟩
  | busy thread focus =>
      have rests : (machine.advance thread focus).Rests fun _ focus => focus.Within .everything :=
        sound.rests.advance begins_within fun _ => trivial
      rw [move.of_busy control]
      constructor
      · exact (advance_steps (sound.focus thread focus control)
          (orderly_everything machine thread focus control)).2
      · exact rests.queued

/-- Every move keeps a machine sound. -/
theorem Sound.move (sound : machine.Sound) (move : Move machine next) : next.Sound where
  world := sound.world.steps (move.steps sound.focus (orderly_everything machine))
  single owner := by
    rcases move.balanced owner sound with fewer | ⟨-, one, -⟩
    · exact Nat.le_trans fewer (sound.single owner)
    · exact one
  owned task present := by
    rcases move.balanced (some task) sound with fewer | ⟨-, -, listed⟩
    · have before : machine.live (some task) ≠ 0 := by omega
      exact Nat.lt_of_lt_of_le (sound.owned task before) (move.tasks sound)
    · exact (listed task rfl).2
  numbered := move.numbered sound
  awaited := move.awaited sound
  focus := (move.within sound).1
  queued := (move.within sound).2

theorem Run.sound {start : Machine} {past : List Machine} (run : Run start past machine)
    (sound : start.Sound) : machine.Sound := by
  induction run with
  | refl => exact sound
  | move _ move induction => exact induction.move move

theorem Run.tasks {start : Machine} {past : List Machine} (run : Run start past machine)
    (sound : start.Sound) : start.tasks.length ≤ machine.tasks.length := by
  induction run with
  | refl => exact Nat.le_refl _
  | move run move induction => exact Nat.le_trans induction (move.tasks (run.sound sound))

theorem Move.grows (move : Move machine next) (sound : machine.Sound) :
    World.Grows machine.world next.world :=
  (move.steps sound.focus (orderly_everything machine)).grows

theorem Run.grows {start : Machine} {past : List Machine} (run : Run start past machine)
    (sound : start.Sound) : World.Grows start.world machine.world := by
  induction run with
  | refl => exact World.Grows.refl start.world
  | move run move induction => exact induction.trans (move.grows (run.sound sound))

/-- Any method but a function of the library is carried out at once. -/
theorem Move.of_method {thread : Thread} {method : Method} {arguments : Arguments}
    (move : Move machine next)
    (busy : machine.control = .busy thread (.call (.method method) arguments))
    (bound : ∀ function, method ≠ .function function) :
    next = machine.go thread (machine.world.callMethod method arguments) := by
  rw [move.of_busy busy]
  cases method with
  | function function => exact absurd rfl (bound function)
  | _ => rfl

/-- Whoever invokes a handle calls its callback, or is told that it has been destroyed. -/
theorem Move.of_invoke {thread : Thread} {handle : Ref .handle} {callback : Value}
    (move : Move machine next) (busy : machine.control = .busy thread (.invoke handle))
    (given : (machine.world.handles.get handle).callback = some callback) :
    next = machine.go thread (machine.world, .call callback .empty) := by
  rw [move.of_busy busy]
  simp only [advance, World.callbackOf_eq_ok given]

theorem Move.of_invoke_gone {thread : Thread} {handle : Ref .handle} (move : Move machine next)
    (busy : machine.control = .busy thread (.invoke handle))
    (gone : (machine.world.handles.get handle).callback = none) :
    next = machine.go thread (machine.world,
      .raise (.handleDestroyed (.int (machine.world.handles.get handle).id))) := by
  rw [move.of_busy busy]
  simp only [advance, World.callbackOf_eq_error gone]

end Microboard.Machine
