import Microboard.Proofs.Machine.Effect
import Microboard.Proofs.Scheduler.Ending
import Microboard.Proofs.World.Listing

/-!
# Handles and their loops

Every handle that a scheduler lists has a task that runs its loop, until the handle is
destroyed.  This relies on iterations that raise ordinary faults only, and such that have a
text: a cancellation ends the loop of a handle that stays active.
-/

namespace Microboard.Machine

variable {start machine next : Machine} {past : List Machine} {scheduler : Ref .scheduler}
variable {handle : Ref .handle} {task : TaskId} {id : Nat}

/-- Callbacks join the table of a scheduler by being registered with it, and only so. -/
def Exclusive (scheduler : Ref .scheduler) (machine : Machine) : Prop :=
  ∀ thread method arguments, machine.control = .busy thread (.call (.method method) arguments) →
    machine.world.lists? method = some (machine.world.schedulers.get scheduler).table →
      machine.world.registrar? method = some scheduler

def evidentlyExclusive (scheduler : Ref .scheduler) (machine : Machine) : Bool :=
  match machine.control with
  | .busy _ (.call (.method method) _) =>
    machine.world.lists? method ≠ some (machine.world.schedulers.get scheduler).table ||
      machine.world.registrar? method = some scheduler
  | _ => true

theorem exclusive_of_evident (evident : past.all (evidentlyExclusive scheduler) = true) :
    ∀ state ∈ past, state.Exclusive scheduler := by
  intro state member thread method arguments busy lists
  have seen := List.all_eq_true.mp evident state member
  simpa [evidentlyExclusive, busy, lists] using seen

/-- The sleeps of the loops of a scheduler do not fail, and their iterations raise only
ordinary faults that have a text. -/
def Reliable (scheduler : Ref .scheduler) (machine : Machine) : Prop :=
  ∀ handle task phase, LoopAt scheduler handle task machine phase → LoopSafe task machine

/-- A handle that a scheduler lists takes part, and the task of its loop is about to be
started, or it is on its way.  The task ends only when the handle has been destroyed. -/
inductive Driven (scheduler : Ref .scheduler) (handle : Ref .handle) (id : Nat)
    (machine : Machine) : Prop where
  | starts (due : machine.enrols? = some (.loop scheduler handle, scheduler, id)) :
      Driven scheduler handle id machine
  | runs {task : TaskId} {phase : LoopPhase} {events : List LoopEvent}
      (state : LoopAt scheduler handle task machine phase)
      (course : Course (machine.world.schedulers.get scheduler).interval events phase)
      (noted : machine.Noted task (.loopEnded scheduler id))
      (gone : phase = .ended → machine.world.Destroyed handle) :
      Driven scheduler handle id machine

theorem inactive_of_stops {event : LoopEvent} (seen : machine.loopEvent? task handle = some event)
    (stops : event.stops = true) : (machine.world.handles.get handle).isActive = false := by
  unfold loopEvent? at seen
  split at seen
  · cases seen
  · grind [LoopEvent.stops]

theorem Driven.move (driven : Driven scheduler handle id machine)
    (engaged : machine.world.Engaged handle) (has : machine.world.schedulers.Has scheduler)
    (reliable : machine.Reliable scheduler) (sound : machine.Sound) (move : Move machine next) :
    Driven scheduler handle id next := by
  obtain ⟨-, succeeds⟩ := (move.grows sound).schedulers scheduler has
  cases driven with
  | starts due =>
      cases control : machine.control with
      | idle => simp [enrols?, control] at due
      | busy thread focus =>
          rw [move.of_busy control]
          rw [enrols?, control] at due
          cases focus with
          | within frame focus => exact .starts due
          | start work notice =>
              cases notice with
              | loopEnded target number =>
                  cases due
                  have begun : LoopAt scheduler handle ⟨machine.tasks.length⟩
                      (machine.advance thread (.start (.loop scheduler handle)
                        (.loopEnded scheduler id))) .starting :=
                    .listed (.queued (List.mem_append_right _ (List.mem_singleton_self _)))
                  refine .runs begun .start (.inr ?_) LoopPhase.noConfusion
                  simp [advance, notices, createTask, go]
              | _ => cases due
          | _ => cases due
  | @runs task phase events state course noted gone =>
      obtain ⟨after, followed, continues⟩ :=
        state.move move sound (reliable handle task phase state)
      have later := continues events course
      refine .runs followed (succeeds.interval ▸ later) (noted.move move sound) ?_
      intro ended
      have destroyed : machine.world.Destroyed handle := by
        obtain ⟨last, final, stops⟩ := later.ended_iff.mp ended
        cases seen : machine.loopEvent? task handle with
        | none =>
            rw [seen, Option.toList_none, List.append_nil] at final
            exact gone (course.ended_iff.mpr ⟨last, final, stops⟩)
        | some event =>
            rw [seen, Option.toList_some, List.getLast?_concat] at final
            cases final
            exact engaged.destroyed (inactive_of_stops seen stops)
      exact ((move.grows sound).handles handle engaged.has).2.destroyed destroyed

/-- What holds of an entry in the table of a scheduler. -/
structure Enlisted (scheduler : Ref .scheduler) (entry : Nat × Ref .handle)
    (machine : Machine) : Prop where
  engaged : machine.world.Engaged entry.2
  number : (machine.world.handles.get entry.2).id = entry.1
  driven : Driven scheduler entry.2 entry.1 machine

theorem callMethod_listing {thread : Thread} {method : Method} {arguments : Arguments}
    {table : Ref .table}
    (busy : machine.control = .busy thread (.call (.method method) arguments))
    (lists : machine.world.lists? method = some table) (exclusive : machine.Exclusive scheduler)
    (tabled : machine.world.Tabled)
    (has : (machine.world.callMethod method arguments).1.schedulers.Has scheduler)
    (entry : Nat × Ref .handle)
    (member : entry ∈ (machine.world.callMethod method arguments).1.listing scheduler) :
    machine.world.schedulers.Has scheduler ∧ entry ∈ machine.world.listing scheduler ∨
      Enlisted scheduler entry
        (machine.go thread (machine.world.callMethod method arguments)) := by
  by_cases own : table = (machine.world.schedulers.get scheduler).table
  · subst own
    have registrar := exclusive thread method arguments busy lists
    obtain ⟨callback, registers⟩ := World.callMethod_registrar arguments registrar
    rw [registers] at has member ⊢
    rcases World.startLoop_cases machine.world scheduler callback with
      ⟨fault, failed⟩ | ⟨new, enrols, started⟩
    · rw [failed] at has member
      exact .inl ⟨has, member⟩
    · rw [started] at has member ⊢
      rw [enrols.schedulers] at has
      have row :=
        Arena.get_modify_self (·.insert machine.world.handles.fresh) (tabled scheduler has)
      rw [World.listing, enrols.schedulers, enrols.tables, row] at member
      rcases List.mem_append.mp member with earlier | last
      · exact .inl ⟨has, earlier⟩
      · cases List.mem_singleton.mp last
        have record : new.handles.get machine.world.handles.fresh = _ :=
          (congrArg (Arena.get · machine.world.handles.fresh) enrols.handles).trans
            (Arena.get_push_fresh _ _)
        refine .inr ⟨⟨?_, ?_⟩, ?_, .starts rfl⟩
        · exact enrols.handles ▸ Arena.has_push_fresh _ _
        · exact record ▸ Lifecycle.noConfusion
        · exact congrArg Handle.id record
  · obtain ⟨schedulers, tables⟩ := World.callMethod_tables arguments lists
    rw [schedulers] at has
    refine .inl ⟨has, ?_⟩
    rw [World.listing, schedulers] at member
    rcases tables with same | inserted
    · rw [same] at member
      exact member
    · rw [inserted, Arena.get_modify_of_ne _ _ (Ne.symm own)] at member
      exact member

/-- A move lists nothing new, or it registers a callback whose loop is to be started. -/
theorem Move.listing (move : Move machine next) (sound : machine.Sound)
    (tabled : machine.world.Tabled) (exclusive : machine.Exclusive scheduler)
    (has : next.world.schedulers.Has scheduler) (entry : Nat × Ref .handle)
    (member : entry ∈ next.world.listing scheduler) :
    machine.world.schedulers.Has scheduler ∧ entry ∈ machine.world.listing scheduler ∨
      Enlisted scheduler entry next := by
  have steps := move.steps sound.focus (orderly_everything machine)
  rcases move.size with quiet | ⟨thread, method, arguments, table, busy, lists⟩
  · exact .inl (steps.listing quiet has entry member)
  · rw [move.of_method busy fun function same => by subst same; cases lists] at has member ⊢
    exact callMethod_listing busy lists exclusive tabled has entry member

theorem Enlisted.move {entry : Nat × Ref .handle} (enlisted : Enlisted scheduler entry machine)
    (has : machine.world.schedulers.Has scheduler) (reliable : machine.Reliable scheduler)
    (sound : machine.Sound) (move : Move machine next) : Enlisted scheduler entry next where
  engaged := enlisted.engaged.steps (move.steps sound.focus (orderly_everything machine))
  number := ((move.grows sound).handles entry.2 enlisted.engaged.has).2.id.trans enlisted.number
  driven := enlisted.driven.move enlisted.engaged has reliable sound move

variable {looping : Bool} {registry : Registry} {names : List (String × Value)}

theorem Run.enlisted (run : Run (initial (.initial looping registry) names) past machine)
    (present : ∀ state ∈ past, state.Present)
    (exclusive : ∀ state ∈ past, state.Exclusive scheduler)
    (reliable : ∀ state ∈ past, state.Reliable scheduler)
    (has : machine.world.schedulers.Has scheduler) :
    ∀ entry ∈ machine.world.listing scheduler, Enlisted scheduler entry machine := by
  induction run with
  | refl => exact absurd has (Nat.not_lt_zero _)
  | @move past machine next run move induction =>
      obtain ⟨presentBefore, -⟩ := forall_snoc present
      obtain ⟨exclusiveBefore, exclusiveLast⟩ := forall_snoc exclusive
      obtain ⟨reliableBefore, reliableLast⟩ := forall_snoc reliable
      obtain ⟨accounted, -⟩ := run.accounted presentBefore
      have sound := run.sound (sound_initial looping registry names)
      intro entry member
      rcases move.listing sound accounted.tabled exclusiveLast has entry member with
        ⟨hadBefore, listed⟩ | joins
      · have enlisted := induction presentBefore exclusiveBefore reliableBefore hadBefore
        exact (enlisted entry listed).move hadBefore reliableLast sound move
      · exact joins

/-- An active handle is always being iterated, as long as what its iterations raise is
ordinary: its task is listed, has not ended, and runs its loop. -/
theorem active_handles_iterate
    (run : Run (initial (.initial looping registry) names) past machine)
    (present : ∀ state ∈ past, state.Present)
    (exclusive : ∀ state ∈ past, state.Exclusive scheduler)
    (reliable : ∀ state ∈ past, state.Reliable scheduler)
    (has : machine.world.schedulers.Has scheduler) (registered : machine.enrols? = none)
    (active : handle ∈
      machine.world.activeHandles (machine.world.schedulers.get scheduler).table) :
    ∃ task phase,
      ((machine.world.handles.get handle).id, task) ∈
        (machine.world.schedulers.get scheduler).tasks ∧
      ¬ machine.Ended task ∧ LoopAt scheduler handle task machine phase ∧ phase ≠ .ended := by
  obtain ⟨listed, alive⟩ := List.mem_filter.mp active
  obtain ⟨id, member⟩ := HandleTable.mem_handles.mp listed
  have initially := sound_initial looping registry names
  have enlisted := run.enlisted present exclusive reliable has (id, handle) member
  cases enlisted.driven with
  | starts due =>
      rw [registered] at due
      cases due
  | @runs task phase events state course noted gone =>
      have going : phase ≠ .ended := by
        intro ended
        have destroyed := gone ended
        simp only [World.Destroyed, Handle.isDestroyed, Handle.isActive, decide_eq_true_eq]
          at destroyed alive
        rw [destroyed] at alive
        cases alive
      have unfinished : ¬ machine.Ended task := by
        intro ended
        have retired := run.retired initially (retired_initial looping registry names)
        exact state.live going (retired task ended)
      obtain ⟨accounted, -⟩ := run.accounted present
      have due := due_of_noted (noted.resolve_left unfinished) rfl
      refine ⟨task, phase, ?_, unfinished, state, going⟩
      rw [enlisted.number]
      exact (accounted.loops scheduler id task).mpr due

theorem run_ticking :
    Run (initial (.initial true .empty) [])
      ([initial (.initial true .empty) []] ++ visited 10 (begun tick) ++
        (visited 10 ticking ++ ([dozing] ++ visited 12 roused))) (settle 12 roused) :=
  (run_begun tick 10).trans <| (run_settle 10 ticking).trans <|
    Run.trans (.move .refl (.wake rfl (.head _))) (run_settle 12 roused)

theorem active_handles_iterate_tick :
    ∃ task phase,
      (((settle 12 roused).world.handles.get ⟨0⟩).id, task) ∈
        ((settle 12 roused).world.schedulers.get ⟨0⟩).tasks ∧
      ¬ (settle 12 roused).Ended task ∧ LoopAt ⟨0⟩ ⟨0⟩ task (settle 12 roused) phase ∧
      phase ≠ .ended :=
  active_handles_iterate run_ticking (present_of_evident rfl) (exclusive_of_evident rfl)
    (fun state member _ _ _ _ => loopSafe_of_evident rfl state member) (by decide) rfl (.head _)

/-- A program that registers a callback that is cancelled with a new scheduler. -/
def lapse : Program :=
  .call (.type .scheduler) ⟨[.clock .simulated, .int 0], []⟩ fun _ =>
    .define .plain (fun _ => .finish (.error (.raised .cancelled []))) fun callback =>
      .call (.method (.scheduler ⟨0⟩ .register)) (.single callback) .finish

def lapsing : Machine := settle 40 (begun lapse)

/-- A cancellation that leaves an iteration ends the loop of a handle that stays active:
no task is left to iterate it. -/
theorem active_handle_lapses :
    ∃ past, Run (initial (.initial true .empty) []) past (settle 20 lapsing.rouse) ∧
      past.all (fun state => state.destroyed?.isNone) = true ∧
      ⟨0⟩ ∈ (settle 20 lapsing.rouse).world.activeHandles
        ((settle 20 lapsing.rouse).world.schedulers.get ⟨0⟩).table ∧
      ((settle 20 lapsing.rouse).world.schedulers.get ⟨0⟩).tasks = [] := by
  refine ⟨_, (run_begun lapse 40).trans <| Run.trans (.move .refl (.wake rfl (.head _))) <|
    run_settle 20 lapsing.rouse, rfl, .head _, rfl⟩

end Microboard.Machine
