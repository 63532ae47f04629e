import Microboard.Proofs.Machine.Turn

/-!
# Threads at rest

A property of all threads that do not run.  Only the running thread can come to rest, as
it is, and new threads begin with next to nothing.
-/

namespace Microboard

def Focus.Suspends (focus : Focus) : Prop :=
  (∃ interval, focus = .sleep interval) ∨ ∃ tasks, focus = .wait tasks

namespace Machine

/-- What holds of every thread that does not run, and of how it goes on. -/
structure Rests (holds : Thread → Focus → Prop) (machine : Machine) : Prop where
  queued : ∀ thread focus, .go thread focus ∈ machine.ready → holds thread focus
  asleep : ∀ sleeper ∈ machine.sleepers, holds sleeper.thread .nothing
  waits : ∀ waiter ∈ machine.waiters, holds waiter.thread .nothing

structure Begins (holds : Thread → Focus → Prop) : Prop where
  tasks : ∀ owner work, holds ⟨owner, []⟩ (.await work)
  spawned : ∀ owner callback, holds ⟨owner, [.spawned]⟩ (.call callback .empty)
  programs : ∀ owner program, holds ⟨owner, []⟩ (.run program)

variable {holds other : Thread → Focus → Prop} {machine next : Machine}

theorem Rests.mono (rests : machine.Rests holds)
    (weaker : ∀ thread focus, holds thread focus → other thread focus) :
    machine.Rests other where
  queued thread focus member := weaker _ _ (rests.queued thread focus member)
  asleep sleeper member := weaker _ _ (rests.asleep sleeper member)
  waits waiter member := weaker _ _ (rests.waits waiter member)

theorem Rests.enqueued (rests : machine.Rests holds) {more : List Job}
    (ready : next.ready = machine.ready ++ more)
    (added : ∀ thread focus, .go thread focus ∈ more → holds thread focus)
    (sleepers : next.sleepers = machine.sleepers) (waiters : next.waiters = machine.waiters) :
    next.Rests holds where
  queued thread focus member := by
    rw [ready] at member
    rcases List.mem_append.mp member with earlier | last
    · exact rests.queued thread focus earlier
    · exact added thread focus last
  asleep := sleepers ▸ rests.asleep
  waits := waiters ▸ rests.waits

theorem Rests.same (rests : machine.Rests holds) (ready : next.ready = machine.ready)
    (sleepers : next.sleepers = machine.sleepers) (waiters : next.waiters = machine.waiters) :
    next.Rests holds :=
  ⟨ready ▸ rests.queued, sleepers ▸ rests.asleep, waiters ▸ rests.waits⟩

theorem Rests.tell (rests : machine.Rests holds) (task : TaskId) (notice : Notice)
    (reply : Reply) : (machine.tell task notice reply).Rests holds := by
  cases notice with
  | loopEnded target id => exact rests.same rfl rfl rfl
  | handlerEnded target handle => exact rests.same rfl rfl rfl
  | release waiter =>
      have released : ∀ record ∈ machine.waiters.modify waiter fun record : Waiter =>
          { record with remaining := record.remaining - 1 }, holds record.thread .nothing := by
        intro record member
        obtain ⟨place, found⟩ := List.mem_iff_getElem?.mp member
        rw [List.getElem?_modify] at found
        obtain ⟨before, listed, rfl⟩ := Option.map_eq_some_iff.mp found
        have held := rests.waits before (List.mem_of_getElem? listed)
        by_cases same : waiter = place <;> simpa [same] using held
      simp only [Machine.tell]
      split
      next thread found =>
        have woken : holds thread .nothing := released ⟨0, thread⟩ (List.mem_of_getElem? found)
        refine ⟨?_, rests.asleep, released⟩
        intro other focus member
        rcases List.mem_append.mp member with earlier | last
        · exact rests.queued other focus earlier
        · cases List.mem_singleton.mp last
          exact woken
      next => exact ⟨rests.queued, rests.asleep, released⟩

theorem Rests.advance (rests : machine.Rests holds) (begins : Begins holds) {thread : Thread}
    {focus : Focus} (suspended : focus.Suspends → holds thread .nothing) :
    (machine.advance thread focus).Rests holds := by
  have begun {first : Thread} {begin : Focus} (held : holds first begin) :
      ∀ thread focus, .go thread focus ∈ [Job.go first begin] → holds thread focus := by
    intro thread focus member
    cases List.mem_singleton.mp member
    exact held
  cases focus with
  | reply reply =>
      simp only [Machine.advance]
      split
      · unfold finish
        split
        · exact rests.same rfl rfl rfl
        · refine rests.enqueued rfl ?_ rfl rfl
          intro thread focus member
          obtain ⟨notice, -, same⟩ := List.mem_map.mp member
          cases same
      · exact rests.same rfl rfl rfl
  | within | publish => exact rests.same rfl rfl rfl
  | run program =>
      cases program with
      | spawn callback next => exact rests.enqueued rfl (begun (begins.spawned _ _)) rfl rfl
      | launch work next =>
          simp only [Machine.advance, run]
          split
          · exact rests.enqueued rfl (begun (begins.tasks _ _)) rfl rfl
          · exact rests.same rfl rfl rfl
      | _ => exact rests.same rfl rfl rfl
  | call target arguments =>
      simp only [Machine.advance, call]
      split
      · split <;> exact rests.same rfl rfl rfl
      · exact rests.same rfl rfl rfl
      · exact rests.same rfl rfl rfl
  | await work =>
      simp only [Machine.advance, await]
      split
      next task =>
        rcases join_cases machine thread task with ⟨reply, joins⟩ | joins <;> rw [joins] <;>
          exact rests.same rfl rfl rfl
      · exact rests.same rfl rfl rfl
      · exact rests.same rfl rfl rfl
  | invoke handle =>
      simp only [Machine.advance]
      split <;> exact rests.same rfl rfl rfl
  | sleep interval =>
      simp only [Machine.advance, sleep]
      split
      · exact rests.same rfl rfl rfl
      · refine ⟨rests.queued, ?_, rests.waits⟩
        intro sleeper member
        rcases List.mem_append.mp member with earlier | last
        · exact rests.asleep sleeper earlier
        · cases List.mem_singleton.mp last
          exact suspended (.inl ⟨interval, rfl⟩)
  | start work notice => exact rests.enqueued rfl (begun (begins.tasks _ _)) rfl rfl
  | adopt task target handle =>
      simp only [Machine.advance]
      rcases adopt_cases machine thread task target handle with ⟨-, adopts⟩ | ⟨-, refuses⟩
      · obtain ⟨records, more, -, silent, watches⟩ :=
          watch_eq (.handlerEnded target handle) machine task
        rw [adopts, watches]
        refine rests.enqueued rfl ?_ rfl rfl
        exact fun thread focus member => absurd member (silent thread focus)
      · rw [refuses]
        exact rests.same rfl rfl rfl
  | wait tasks =>
      obtain ⟨records, more, -, silent, waits⟩ := wait_eq machine thread tasks
      simp only [Machine.advance, waits]
      constructor
      case queued =>
        intro other focus member
        rcases List.mem_append.mp member with earlier | last
        · exact rests.queued other focus earlier
        · exact absurd last (silent other focus)
      case asleep => exact rests.asleep
      case waits =>
        intro waiter member
        rcases List.mem_append.mp member with earlier | last
        · exact rests.waits waiter earlier
        · cases List.mem_singleton.mp last
          exact suspended (.inr ⟨tasks, rfl⟩)

/-- A machine that is idle leaves its threads at rest, or lets one of them or a new one
run. -/
theorem Rests.idle (rests : machine.Rests holds) (begins : Begins holds)
    (idle : machine.control = .idle) (move : Move machine next) :
    next.Rests holds ∧ ∀ thread focus, next.control = .busy thread focus → holds thread focus := by
  have resting {after : Machine} (still : after.control = machine.control) (thread : Thread)
      (focus : Focus) (busy : after.control = .busy thread focus) : holds thread focus := by
    rw [still, idle] at busy
    cases busy
  cases move with
  | turn busy =>
      rw [idle] at busy
      cases busy
  | @take before after job queued taken =>
      have kept : { machine with ready := before ++ after }.Rests holds := by
        refine ⟨?_, rests.asleep, rests.waits⟩
        intro thread focus member
        apply rests.queued thread focus
        rw [taken]
        rcases List.mem_append.mp member with left | right
        · exact List.mem_append_left _ left
        · exact List.mem_append_right _ (List.mem_cons_of_mem _ right)
      cases job with
      | go thread focus =>
          refine ⟨kept.same rfl rfl rfl, ?_⟩
          intro other running busy
          cases busy
          exact rests.queued thread focus (by simp [taken])
      | tell task notice reply =>
          obtain ⟨world, ready, waiters, told⟩ :=
            tell_eq { machine with ready := before ++ after } task notice reply
          refine ⟨kept.tell task notice reply, resting ?_⟩
          simp only [serve, told]
  | @wake sleeper _ asleep =>
      refine ⟨?_, resting rfl⟩
      constructor
      case queued =>
        intro thread focus member
        rcases List.mem_append.mp member with earlier | last
        · exact rests.queued thread focus earlier
        · cases List.mem_singleton.mp last
          exact rests.asleep sleeper asleep
      case asleep =>
        intro other member
        exact rests.asleep other (List.mem_filter.mp member).1
      case waits => exact rests.waits
  | enter program =>
      refine ⟨rests.same rfl rfl rfl, ?_⟩
      intro thread focus busy
      cases busy
      exact begins.programs none program
  | launch work =>
      refine ⟨rests.enqueued rfl ?_ rfl rfl, resting rfl⟩
      intro thread focus member
      cases List.mem_singleton.mp member
      exact begins.tasks _ _
  | clock => exact ⟨rests.same rfl rfl rfl, resting rfl⟩

end Machine

end Microboard
