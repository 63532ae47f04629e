import Mathlib.Data.List.Nodup
import Microboard.Proofs.Machine.Sound

/-!
# Following one thread

A suspended thread stays as it is until it runs again, whatever else happens, and
while it is suspended nobody runs in its name.  A task that has ended stays so.
-/

namespace Microboard.Machine

variable {start machine next : Machine} {past : List Machine} {thread : Thread} {focus : Focus}

theorem Parked.live (parked : machine.Parked thread focus) :
    0 < machine.live thread.owner - machine.runs thread.owner := by
  cases parked with
  | queued queued =>
      have counted : 0 < machine.ready.countP (jobOf thread.owner) :=
        List.countP_pos_iff.mpr ⟨_, queued, by simp [jobOf]⟩
      unfold Machine.live
      omega
  | asleep listed own =>
      have counted : 0 < machine.sleepers.countP
          fun sleeper => sleeper.thread.owner = thread.owner :=
        List.countP_pos_iff.mpr ⟨_, listed, by simp [own]⟩
      unfold Machine.live
      omega
  | waits listed pending own =>
      have counted : 0 < machine.waiters.countP (waiterOf thread.owner) :=
        List.countP_pos_iff.mpr ⟨_, listed, by simp [waiterOf, pending, own]⟩
      unfold Machine.live
      omega

theorem Parked.alone (parked : machine.Parked thread focus) (sound : machine.Sound)
    {other : Thread} {running : Focus} (busy : machine.control = .busy other running) :
    other.owner ≠ thread.owner := by
  intro same
  have suspended := parked.live
  have single := sound.single thread.owner
  have runs : machine.runs thread.owner = 1 := by simp [runs, busy, same]
  omega

theorem Booked.keeps {runner : Option TaskId} (booked : Booked machine runner next) :
    machine.ready ⊆ next.ready ∧ machine.sleepers ⊆ next.sleepers ∧
      machine.waiters ⊆ next.waiters := by
  cases booked with
  | goes control ready sleepers slept tasks waiters
  | starts control ready sleepers slept tasks waiters
  | sleeps control ready sleepers slept tasks waiters =>
      rw [ready, sleepers, waiters]
      simp
  | @adopts _ _ _ task notice control ready sleepers slept tasks waiters =>
      obtain ⟨records, more, -, -, watches⟩ := watch_eq notice machine task
      rw [ready, watches, sleepers, waiters]
      simp
  | waits stack tasks =>
      obtain ⟨records, more, -, -, waits⟩ := wait_eq machine ⟨runner, stack⟩ tasks
      rw [waits]
      simp
  | ends reply => cases runner <;> simp [finish]

/-- While a thread runs on, no thread is parked that was not parked before, but new ones. -/
theorem Booked.parked {runner : Option TaskId} (booked : Booked machine runner next)
    (runs : next.control ≠ .idle) (parked : next.Parked thread focus) :
    machine.Parked thread focus ∨ ∀ frame ∈ thread.stack, frame = .spawned := by
  have grown {more : List Job} (ready : next.ready = machine.ready ++ more)
      (sleepers : next.sleepers = machine.sleepers) (waiters : next.waiters = machine.waiters)
      (fresh : .go thread focus ∈ more → ∀ frame ∈ thread.stack, frame = .spawned) :
      machine.Parked thread focus ∨ ∀ frame ∈ thread.stack, frame = .spawned := by
    cases parked with
    | queued queued =>
        rw [ready] at queued
        exact (List.mem_append.mp queued).imp .queued fresh
    | asleep listed own => exact .inl (.asleep (sleepers ▸ listed) own)
    | waits listed pending own => exact .inl (.waits (waiters ▸ listed) pending own)
  cases booked with
  | goes control ready sleepers slept tasks waiters =>
      exact grown (ready.trans (List.append_nil _).symm) sleepers waiters
        fun member => absurd member List.not_mem_nil
  | starts control ready sleepers slept tasks waiters silent fresh =>
      refine grown ready sleepers waiters fun member => ?_
      cases List.mem_singleton.mp member
      exact fresh
  | @adopts _ _ _ task notice control ready sleepers slept tasks waiters =>
      obtain ⟨records, more, -, noThread, watches⟩ := watch_eq notice machine task
      rw [watches] at ready
      exact grown ready sleepers waiters fun member => absurd member (noThread thread focus)
  | sleeps idle => exact absurd idle runs
  | waits stack tasks =>
      obtain ⟨records, more, -, -, waits⟩ := wait_eq machine ⟨runner, stack⟩ tasks
      exact absurd (congrArg Machine.control waits) runs
  | ends reply => cases runner <;> exact absurd rfl runs

theorem Parked.mono (parked : machine.Parked thread focus) (ready : machine.ready ⊆ next.ready)
    (sleepers : machine.sleepers ⊆ next.sleepers)
    (waiters : machine.waiters ⊆ next.waiters) : next.Parked thread focus := by
  cases parked with
  | queued queued => exact .queued (ready queued)
  | asleep listed own => exact .asleep (sleepers listed) own
  | waits listed pending own => exact .waits (waiters listed) pending own

theorem Parked.same (parked : machine.Parked thread focus)
    (ready : next.ready = machine.ready) (sleepers : next.sleepers = machine.sleepers)
    (waiters : next.waiters = machine.waiters) : next.Parked thread focus := by
  apply parked.mono
  · exact ready ▸ List.Subset.refl _
  · exact sleepers ▸ List.Subset.refl _
  · exact waiters ▸ List.Subset.refl _

theorem Parked.release (parked : machine.Parked thread focus) (task : TaskId)
    (released : Nat) (reply : Reply) :
    (machine.tell task (.release released) reply).Parked thread focus := by
  cases listed : machine.waiters[released]? with
  | none =>
      have beyond := List.getElem?_eq_none_iff.mp listed
      have same : machine.tell task (.release released) reply = machine := by
        simp only [tell, List.modify_eq_self beyond, listed]
      rw [same]
      exact parked
  | some record =>
      rw [tell_release task reply listed]
      cases parked with
      | queued queued => exact .queued (List.mem_append_left _ queued)
      | asleep sleeping own => exact .asleep sleeping own
      | @waits waiter member pending own =>
          obtain ⟨place, found⟩ := List.mem_iff_getElem?.mp member
          by_cases same : place = released
          · subst same
            have equal : record = waiter := Option.some.inj (listed.symm.trans found)
            subst equal
            by_cases last : record.remaining ≤ 1
            · apply Parked.queued
              apply List.mem_append_right
              simp [last, own]
            · have fewer : { record with remaining := record.remaining - 1 } ∈
                  machine.waiters.modify place fun record =>
                    { record with remaining := record.remaining - 1 } :=
                List.mem_iff_getElem?.mpr ⟨place, by simp [listed]⟩
              have left : record.remaining - 1 ≠ 0 := by omega
              exact .waits fewer left own
          · refine .waits (List.mem_iff_getElem?.mpr ⟨place, ?_⟩) pending own
            rw [List.getElem?_modify_ne _ _ (Ne.symm same)]
            exact found

theorem Parked.tell (parked : machine.Parked thread focus) (task : TaskId) (notice : Notice)
    (reply : Reply) : (machine.tell task notice reply).Parked thread focus := by
  cases notice with
  | loopEnded target id => exact parked.same rfl rfl rfl
  | handlerEnded target handle => exact parked.same rfl rfl rfl
  | release released => exact parked.release task released reply

/-- A suspended thread stays suspended until it runs. -/
theorem Parked.move (parked : machine.Parked thread focus) (move : Move machine next)
    (sound : machine.Sound) :
    next.Parked thread focus ∨ next.control = .busy thread focus := by
  cases move with
  | @turn runner running busy =>
      obtain ⟨ready, sleepers, waiters⟩ :=
        (advance_booked machine runner (sound.focus runner running busy)).keeps
      exact .inl (parked.mono ready sleepers waiters)
  | @take earlier later job idle queued =>
      have left : { machine with ready := earlier ++ later }.Parked thread focus ∨
          job = .go thread focus := by
        cases parked with
        | queued member =>
            rw [queued] at member
            rcases List.mem_append.mp member with before | rest
            · exact .inl (.queued (List.mem_append_left _ before))
            · rcases List.mem_cons.mp rest with same | after
              · exact .inr same.symm
              · exact .inl (.queued (List.mem_append_right _ after))
        | asleep listed own => exact .inl (.asleep listed own)
        | waits listed pending own => exact .inl (.waits listed pending own)
      rcases left with still | rfl
      · cases job with
        | go other begun => exact .inl (still.same rfl rfl rfl)
        | tell task notice reply => exact .inl (still.tell task notice reply)
      · exact .inr rfl
  | @wake sleeper idle asleep =>
      apply Or.inl
      cases parked with
      | queued member => exact .queued (List.mem_append_left _ member)
      | @asleep other listed own =>
          by_cases same : other.number = sleeper.number
          · have equal : other = sleeper :=
              List.inj_on_of_nodup_map sound.numbered.numbers listed asleep same
            apply Parked.queued
            apply List.mem_append_right
            rw [← equal, own]
            exact List.mem_singleton_self _
          · refine .asleep (List.mem_filter.mpr ⟨listed, ?_⟩) own
            simpa using same
      | waits listed pending own => exact .waits listed pending own
  | enter program idle alone | clock looping now trace idle =>
      exact .inl (parked.same rfl rfl rfl)
  | launch work idle =>
      exact .inl (parked.mono (fun _ member => List.mem_append_left _ member)
        (List.Subset.refl _) (List.Subset.refl _))

/-- What runs above some frames returns to them, goes on above them, or is suspended
above them. -/
theorem Move.above {owner : Option TaskId} {upper base : List Frame}
    (move : Move machine next) (sound : machine.Sound)
    (busy : machine.control = .busy ⟨owner, upper ++ base⟩ focus) :
    (∃ reply, focus = .reply reply ∧ upper = []) ∨
      (∃ upper focus, next.control = .busy ⟨owner, upper ++ base⟩ focus) ∨
      ∃ upper, next.Parked ⟨owner, upper ++ base⟩ .nothing := by
  by_cases returns : ∃ reply, focus = .reply reply ∧ upper = []
  · exact .inl returns
  · have turn : Turn .everything machine owner base
        (machine.advance ⟨owner, upper ++ base⟩ focus) :=
      advance_turn (Scope.destroying_closed _) (fun frame _ => frame.within_destroying)
        (sound.focus _ _ busy) (orderly_everything machine _ _ busy)
        fun reply same empty => returns ⟨reply, same, empty⟩
    rw [move.of_busy busy]
    cases turn with
    | goes upper focus steps control => exact .inr (.inl ⟨upper, focus, control⟩)
    | parks upper steps control parked => exact .inr (.inr ⟨upper, parked⟩)

variable {task : TaskId}

/-- A task that has no thread never gets one again. -/
theorem Move.gone (move : Move machine next) (sound : machine.Sound)
    (absent : machine.live (some task) = 0) (listed : task.index < machine.tasks.length) :
    next.live (some task) = 0 ∧ task.index < next.tasks.length := by
  refine ⟨?_, Nat.lt_of_lt_of_le listed (move.tasks sound)⟩
  rcases move.balanced (some task) sound with fewer | ⟨-, -, fresh⟩
  · exact Nat.le_zero.mp (absent ▸ fewer)
  · exact absurd listed (Nat.not_lt_of_le (fresh task rfl).1)

theorem live_finish {stack : List Frame} {focus : Focus} (sound : machine.Sound)
    (reply : Reply) (busy : machine.control = .busy ⟨some task, stack⟩ focus) :
    (machine.finish (some task) reply).live (some task) = 0 := by
  have single := sound.single (some task)
  have silent (notices : List Notice) : ∀ thread focus,
      .go thread focus ∉ notices.map fun notice => Job.tell task notice reply := by
    simp
  simp only [live, runs, busy, finish, if_true, List.countP_append,
    countP_jobOf_eq_zero (silent _)] at single ⊢
  omega

end Microboard.Machine
