import Microboard.Proofs.Machine.Awaiting

/-!
# Schedulers hear first

When the task of a loop has ended, its scheduler is told before those who wait for it are
released: the announcement stands before the releases, with the task as well as in the
queue.
-/

namespace Microboard

/-- The job releases somebody who waits for a task. -/
def Job.frees (task : TaskId) : Job → Bool
  | .tell other (.release _) _ => other = task
  | _ => false

theorem Job.eq_of_frees {task : TaskId} {job : Job} (frees : job.frees task = true) :
    ∃ waiter reply, job = .tell task (.release waiter) reply := by
  cases job with
  | go => cases frees
  | tell other notice reply =>
      cases notice with
      | release waiter =>
          obtain rfl : other = task := by simpa [Job.frees] using frees
          exact ⟨waiter, reply, rfl⟩
      | _ => cases frees

/-- The job tells a scheduler of the end of a task. -/
def Job.closes (task : TaskId) : Job → Bool
  | .go .. => false
  | .tell other notice _ => other = task && notice.isLoop

/-- Two jobs of a queue in an order that is allowed. -/
def Job.Precedes (first second : Job) : Prop :=
  ∀ task, first.frees task = true → second.closes task = false

/-- Nothing that a scheduler is told. -/
def Job.Silent (job : Job) : Prop :=
  ∀ task, job.closes task = false

theorem Job.Silent.after {first second : Job} (silent : second.Silent) : first.Precedes second :=
  fun task _ => silent task

theorem Job.Silent.go (thread : Thread) (focus : Focus) : (Job.go thread focus).Silent :=
  fun _ => rfl

theorem Job.Silent.tell {notice : Notice} (quiet : notice.isLoop = false) (task : TaskId)
    (reply : Reply) : (Job.tell task notice reply).Silent := by
  intro other
  simp [closes, quiet]

/-- What a scheduler is told stands before everything else. -/
def Notice.Ordered (notices : List Notice) : Prop :=
  notices.Pairwise fun first second => second.isLoop = true → first.isLoop = true

theorem Notice.Ordered.single (notice : Notice) : Ordered [notice] :=
  List.pairwise_singleton _ _

theorem Notice.Ordered.joined {notices : List Notice} (ordered : Ordered notices)
    {notice : Notice} (quiet : notice.isLoop = false) : Ordered (notices ++ [notice]) := by
  refine List.pairwise_append.mpr ⟨ordered, List.pairwise_singleton _ _, ?_⟩
  intro first _ second last loop
  rw [List.mem_singleton.mp last, quiet] at loop
  cases loop

/-- Told in this order, no scheduler is told after a release. -/
theorem Notice.Ordered.told {notices : List Notice} (ordered : Ordered notices) (task : TaskId)
    (reply : Reply) :
    notices.Pairwise fun first second =>
      (Job.tell task first reply).Precedes (.tell task second reply) := by
  refine ordered.imp ?_
  intro first second before other frees
  obtain ⟨waiter, told, same⟩ := Job.eq_of_frees frees
  cases same
  have quiet : second.isLoop = false :=
    Bool.eq_false_iff.mpr fun loop => Bool.noConfusion (before loop)
  simp [Job.closes, quiet]

namespace Machine

variable {machine next : Machine} {past : List Machine}

/-- Only tasks that have ended tell of it, and a scheduler hears of it before anybody is
released. -/
structure Courteous (machine : Machine) : Prop where
  told : ∀ task notice reply, .tell task notice reply ∈ machine.ready → machine.Ended task
  noted : ∀ task, Notice.Ordered (machine.notices task)
  queued : machine.ready.Pairwise Job.Precedes

theorem Courteous.initial (world : World) (names : List (String × Value)) :
    (initial world names).Courteous :=
  ⟨fun _ _ _ member => absurd member List.not_mem_nil, fun _ => .nil, .nil⟩

/-- Jobs that tell no scheduler may join the queue, and any job may leave it. -/
theorem Courteous.silent {kept more : List Job} (courteous : machine.Courteous)
    (ended : ∀ task, machine.Ended task → next.Ended task)
    (noted : ∀ task, Notice.Ordered (next.notices task))
    (left : kept.Sublist machine.ready) (ready : next.ready = kept ++ more)
    (told : ∀ task notice reply, .tell task notice reply ∈ more → next.Ended task)
    (silent : ∀ job ∈ more, job.Silent) : next.Courteous := by
  constructor
  case told =>
    intro task notice reply member
    rw [ready] at member
    rcases List.mem_append.mp member with earlier | newly
    · exact ended task (courteous.told task notice reply (left.subset earlier))
    · exact told task notice reply newly
  case noted => exact noted
  case queued =>
    rw [ready, List.pairwise_append]
    refine ⟨courteous.queued.sublist left, ?_, ?_⟩
    · exact List.pairwise_of_forall_mem_list fun _ _ second member => (silent second member).after
    · exact fun _ _ second member => (silent second member).after

theorem Courteous.same {more : List Job} (courteous : machine.Courteous)
    (tasks : next.tasks = machine.tasks) (ready : next.ready = machine.ready ++ more)
    (going : ∀ job ∈ more, ∃ thread focus, job = .go thread focus) : next.Courteous := by
  refine courteous.silent ?_ ?_ (List.Sublist.refl _) ready ?_ ?_
  · intro task ended
    rwa [Ended, outcomeOf, tasks]
  · intro task
    rw [notices, tasks]
    exact courteous.noted task
  · intro task notice reply member
    obtain ⟨thread, focus, same⟩ := going _ member
    cases same
  · intro job member
    obtain ⟨thread, focus, rfl⟩ := going job member
    exact .go thread focus

theorem Courteous.watch (courteous : machine.Courteous) {notice : Notice}
    (quiet : notice.isLoop = false) (other : TaskId) :
    (watch notice machine other).Courteous := by
  have ended (task : TaskId) (done : machine.Ended task) :
      (Machine.watch notice machine other).Ended task := by
    rwa [Ended, outcome_watch]
  cases outcome : (machine.tasks[other.index]?).bind (·.outcome) with
  | some reply =>
      have watched : Machine.watch notice machine other =
          machine.enqueue [.tell other notice reply] := by
        simp only [Machine.watch, outcome]
      refine courteous.silent ended ?_ (List.Sublist.refl _) (congrArg Machine.ready watched) ?_ ?_
      · exact fun task => watched ▸ courteous.noted task
      · intro task notice reply' member
        cases List.mem_singleton.mp member
        exact ended other (by rw [Ended, outcomeOf, outcome]; rfl)
      · intro job member
        cases List.mem_singleton.mp member
        exact .tell quiet other reply
  | none =>
      have watched : Machine.watch notice machine other =
          { machine with
            tasks := machine.tasks.modify other.index fun record =>
              { record with notices := record.notices ++ [notice] } } := by
        simp only [Machine.watch, outcome]
      have ready : (Machine.watch notice machine other).ready = machine.ready ++ [] := by
        rw [watched, List.append_nil]
      refine courteous.silent ended ?_ (List.Sublist.refl _) ready ?_ ?_
      · intro task
        have noted := courteous.noted task
        rw [watched]
        simp only [notices, List.getElem?_modify] at noted ⊢
        cases found : machine.tasks[task.index]? with
        | none => exact .nil
        | some record =>
            rw [found] at noted
            by_cases same : other.index = task.index
            · simpa [same] using noted.joined quiet
            · simpa [same] using noted
      · exact fun _ _ _ member => absurd member List.not_mem_nil
      · exact fun _ member => absurd member List.not_mem_nil

theorem Courteous.watchAll (courteous : machine.Courteous) (waiter : Nat)
    (others : List TaskId) :
    (others.foldl (Machine.watch (.release waiter)) machine).Courteous := by
  induction others generalizing machine with
  | nil => exact courteous
  | cons other rest induction => exact induction (courteous.watch rfl other)

theorem Courteous.create {stack : List Frame} {focus : Focus} {given : List Notice}
    (courteous : machine.Courteous) (ordered : Notice.Ordered given) :
    (machine.createTask stack focus given).1.Courteous := by
  refine courteous.silent ?_ ?_ (List.Sublist.refl _) rfl ?_ ?_
  · intro task done
    obtain ⟨record, found, outcome⟩ := ended_iff.mp done
    have inside := (List.getElem?_eq_some_iff.mp found).1
    exact ended_iff.mpr ⟨record, (List.getElem?_append_left inside).trans found, outcome⟩
  · intro task
    have noted := courteous.noted task
    simp only [notices, createTask, List.getElem?_append] at noted ⊢
    split
    · exact noted
    · cases place : task.index - machine.tasks.length with
      | zero => exact ordered
      | succ beyond => exact .nil
  · intro task notice reply member
    cases List.mem_singleton.mp member
  · intro job member
    cases List.mem_singleton.mp member
    exact .go _ _

/-- Nobody has been told of the end of a task before it ends. -/
theorem Courteous.finish (courteous : machine.Courteous) (owner : Option TaskId) (reply : Reply)
    (running : ∀ task, owner = some task → ¬ machine.Ended task) :
    (machine.finish owner reply).Courteous := by
  cases owner with
  | none =>
      refine courteous.same rfl (List.append_nil _).symm ?_
      exact fun _ member => absurd member List.not_mem_nil
  | some own =>
      have ended (task : TaskId) (done : machine.Ended task) :
          (machine.finish (some own) reply).Ended task := by
        obtain ⟨record, found, outcome⟩ := ended_iff.mp done
        obtain ⟨later, listed, succeeds⟩ := finish_record (some own) reply found
        exact ended_iff.mpr ⟨later, listed, succeeds.ended outcome⟩
      have ready : (machine.finish (some own) reply).ready = machine.ready ++
          (machine.notices own).map fun notice => .tell own notice reply := rfl
      constructor
      case told =>
        intro task notice reply' member
        rw [ready] at member
        rcases List.mem_append.mp member with earlier | newly
        · exact ended task (courteous.told task notice reply' earlier)
        · obtain ⟨notice, given, same⟩ := List.mem_map.mp newly
          cases same
          obtain ⟨record, found, -⟩ := mem_notices.mp given
          exact ended_iff.mpr ⟨⟨some reply, []⟩, by simp [Machine.finish, found], rfl⟩
      case noted =>
        intro task
        rw [notices_finish]
        split
        · exact .nil
        · exact courteous.noted task
      case queued =>
        rw [ready, List.pairwise_append, List.pairwise_map]
        refine ⟨courteous.queued, ?_, ?_⟩
        · exact (courteous.noted own).told own reply
        · intro first earlier second newly task frees
          obtain ⟨notice, given, rfl⟩ := List.mem_map.mp newly
          obtain ⟨waiter, told, rfl⟩ := Job.eq_of_frees frees
          have apart : own ≠ task := by
            rintro rfl
            exact running own rfl (courteous.told own _ told earlier)
          simp [Job.closes, apart]

/-- Every move lets schedulers hear first. -/
theorem Courteous.move (courteous : machine.Courteous) (move : Move machine next)
    (retired : machine.Retired) : next.Courteous := by
  have alone {job : Job} (going : ∃ thread focus, job = .go thread focus) :
      ∀ other ∈ [job], ∃ thread focus, other = .go thread focus :=
    fun _ member => List.mem_singleton.mp member ▸ going
  have nobody : ∀ job ∈ ([] : List Job), ∃ thread focus, job = .go thread focus :=
    fun _ member => absurd member List.not_mem_nil
  cases move with
  | @turn thread focus busy =>
      have deals := advance_deals machine thread focus
      generalize machine.advance thread focus = next at deals
      cases deals with
      | quiet tasks ready =>
          exact courteous.same tasks (ready.trans (List.append_nil _).symm) nobody
      | opens | registers => exact courteous.same rfl (List.append_nil _).symm nobody
      | creates stack begin program =>
          have created : (machine.createTask stack begin []).1.Courteous := courteous.create .nil
          exact created.same rfl (List.append_nil _).symm nobody
      | starts work notice =>
          have created : (machine.createTask [] (.await work) [notice]).1.Courteous :=
            courteous.create (.single notice)
          exact created.same rfl (List.append_nil _).symm nobody
      | @adopts task target handle listed =>
          have watched : (Machine.watch (.handlerEnded target handle) machine task).Courteous :=
            courteous.watch rfl task
          exact watched.same rfl (List.append_nil _).symm nobody
      | waits tasks =>
          apply Courteous.watchAll
          exact courteous.same rfl (List.append_nil _).symm nobody
      | ends reply =>
          refine courteous.finish thread.owner reply ?_
          intro task own ended
          exact not_running_of_gone (retired task ended) _ _ busy own
  | @take before after job idle queued =>
      have left : (before ++ after).Sublist machine.ready := by
        rw [queued]
        exact (List.Sublist.refl _).append (List.sublist_cons_self _ _)
      have shorter : { machine with ready := before ++ after }.Courteous := by
        refine courteous.silent (fun _ => id) courteous.noted left (List.append_nil _).symm ?_ ?_
        · exact fun _ _ _ member => absurd member List.not_mem_nil
        · exact fun _ member => absurd member List.not_mem_nil
      cases job with
      | go thread focus => exact shorter.same rfl (List.append_nil _).symm nobody
      | tell task notice reply =>
          cases loud : notice.announces with
          | true =>
              obtain ⟨world, same⟩ :=
                tell_loud { machine with ready := before ++ after } task reply loud
              simp only [serve, same]
              exact shorter.same rfl (List.append_nil _).symm nobody
          | false =>
              cases notice with
              | loopEnded | handlerEnded => cases loud
              | release waiter =>
                  simp only [serve, tell]
                  split
                  next thread found => exact shorter.same rfl rfl (alone ⟨thread, .nothing, rfl⟩)
                  next => exact shorter.same rfl (List.append_nil _).symm nobody
  | wake idle asleep => exact courteous.same rfl rfl (alone ⟨_, _, rfl⟩)
  | enter program idle free | clock looping now trace idle =>
      exact courteous.same rfl (List.append_nil _).symm nobody
  | launch work idle => exact courteous.create .nil

theorem Run.courteous {looping : Bool} {registry : Registry} {names : List (String × Value)}
    (run : Run (initial (.initial looping registry) names) past machine) : machine.Courteous := by
  have initially := sound_initial looping registry names
  induction run with
  | refl => exact .initial _ _
  | move run move induction =>
      have retired := run.retired initially (retired_initial looping registry names)
      exact induction.move move retired

end Machine

end Microboard
