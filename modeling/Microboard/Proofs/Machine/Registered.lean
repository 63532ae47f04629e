import Microboard.Proofs.Machine.Precedence

/-!
# The work of handlers

A dispatcher lists all work of its handlers that has not ended, whether it was started for
a handler or taken on as it was.
-/

namespace Microboard.Machine

variable {machine next : Machine} {past : List Machine} {task : TaskId}

/-- Every unfinished task whose end a dispatcher is to hear of is listed there. -/
def Registered (machine : Machine) : Prop :=
  ∀ target task handle, .handlerEnded target handle ∈ machine.dues task →
    ¬ machine.Ended task → task ∈ (machine.world.dispatchers.get target).background

theorem background_register {world : World} {target : Ref .dispatcher} (handle : Ref .handle)
    (has : world.dispatchers.Has target) :
    task ∈ ((registerTask world task (.handlerEnded target handle)).dispatchers.get
      target).background := by
  simp only [registerTask, World.setDispatcher, Arena.get_modify_self _ has]
  exact mem_enlist.mpr (.inr rfl)

theorem background_registerTask_subset (world : World) (notice : Notice) (target : Ref .dispatcher)
    {other : TaskId} (listed : other ∈ (world.dispatchers.get target).background) :
    other ∈ ((registerTask world task notice).dispatchers.get target).background := by
  rcases background_registerTask world notice task target with ⟨-, background⟩ | background
  · rw [background]
    exact mem_enlist.mpr (.inl listed)
  · rw [background]
    exact listed

/-- A move strikes no task off the list of a dispatcher that has not ended. -/
theorem Move.background (move : Move machine next) (courteous : machine.Courteous)
    (accounted : machine.Accounted) {target : Ref .dispatcher}
    (listed : task ∈ (machine.world.dispatchers.get target).background)
    (running : ¬ machine.Ended task) :
    task ∈ (next.world.dispatchers.get target).background := by
  cases move with
  | @turn thread focus busy =>
      have deals := advance_deals machine thread focus
      generalize machine.advance thread focus = next at deals
      have errands {world : World} (same : world.errands = machine.world.errands) :
          (world.dispatchers.get target).background =
            (machine.world.dispatchers.get target).background :=
        congrFun (congrArg Prod.snd same) target
      cases deals with
      | quiet tasks ready same => exact errands same ▸ listed
      | opens | creates => exact listed
      | waits tasks =>
          obtain ⟨records, more, -, -, waits⟩ := wait_eq machine thread tasks
          rw [waits]
          exact listed
      | ends reply => cases owner : thread.owner <;> exact listed
      | registers target arguments enrols => exact errands enrols.errands ▸ listed
      | starts work notice => exact background_registerTask_subset _ _ _ listed
      | adopts target handle => exact background_registerTask_subset _ _ _ listed
  | @take before after job idle queued =>
      cases job with
      | go thread focus => exact listed
      | tell other notice reply =>
          have apart : task ≠ other := by
            rintro rfl
            exact running (courteous.told _ notice reply (by simp [queued]))
          refine (mem_background_tell other task notice reply ?_).mpr ⟨listed, ?_⟩
          · exact accounted.once target
          · exact fun same => absurd same apart
  | wake | enter | clock | launch => exact listed

theorem Registered.move (registered : machine.Registered) (accounted : machine.Accounted)
    (courteous : machine.Courteous) (present : machine.Present) (move : Move machine next)
    (ends : ∀ task, machine.Ended task → next.Ended task) : next.Registered := by
  intro target task handle due running
  rcases move.due due (accounted.listed _) with
    earlier | ⟨thread, work, busy, rfl, rfl⟩ | ⟨thread, other, own, busy, same, inside⟩
  · have unfinished : ¬ machine.Ended task := fun ended => running (ends task ended)
    exact move.background courteous accounted (registered target task handle earlier unfinished)
      unfinished
  · exact background_register handle (present _ _ _ busy rfl)
  · cases same
    rw [move.of_busy busy]
    rcases adopt_cases machine thread task target handle with ⟨-, adopts⟩ | ⟨outside, -⟩
    · rw [advance, adopts]
      exact background_register handle (present _ _ _ busy rfl)
    · exact absurd inside (Nat.not_lt_of_le outside)

theorem Run.registered {looping : Bool} {registry : Registry} {names : List (String × Value)}
    (run : Run (initial (.initial looping registry) names) past machine)
    (present : ∀ state ∈ past, state.Present) : machine.Registered := by
  induction run with
  | refl => exact fun _ _ _ due => absurd due List.not_mem_nil
  | @move past machine next run move induction =>
      obtain ⟨earlier, last⟩ := forall_snoc present
      obtain ⟨accounted, -⟩ := run.accounted earlier
      have sound := run.sound (sound_initial looping registry names)
      exact (induction earlier).move accounted run.courteous last move
        fun task ended => ended.move move sound

end Microboard.Machine
