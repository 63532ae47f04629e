import Microboard.Proofs.Machine.Awaiting
import Microboard.Proofs.Machine.Issued
import Microboard.Proofs.Scheduler.Protocol

/-!
# The ends of loops

A loop may also fail: a sleep that cannot be asked for, or a fault that is not ordinary,
ends its task.  Whatever happens, every task that will announce the end of a loop runs
the loop of a handle that the scheduler has issued.
-/

namespace Microboard

/-- The callback of a loop runs, or what it gave is awaited. -/
def LoopPhase.isIteration : LoopPhase → Bool
  | .iterating | .awaiting => true
  | _ => false

theorem LoopPhase.going {phase : LoopPhase} (iterating : phase.isIteration = true) :
    phase ≠ .ended := by
  rintro rfl
  cases iterating

namespace Machine

variable {start machine next : Machine} {past : List Machine} {scheduler : Ref .scheduler}
variable {handle : Ref .handle} {task : TaskId} {phase : LoopPhase}

/-- A task in one of the phases of a loop, or on its way out with a fault. -/
inductive LoopGoes (scheduler : Ref .scheduler) (handle : Ref .handle) (task : TaskId)
    (machine : Machine) : LoopPhase → Prop where
  | keeps {phase : LoopPhase} (state : LoopAt scheduler handle task machine phase) :
      LoopGoes scheduler handle task machine phase
  | fails (fault : Fault) {stack : List Frame}
      (left : stack = [] ∨ stack = [.loopSlept scheduler handle])
      (busy : machine.control = .busy ⟨some task, stack⟩ (.raise fault)) :
      LoopGoes scheduler handle task machine .ended

theorem loopSafe_of_other
    (other : ∀ thread focus, machine.control = .busy thread focus → thread.owner ≠ some task) :
    LoopSafe task machine := by
  unfold LoopSafe
  split
  next busy => exact fun own => absurd own (other _ _ busy)
  next busy => exact fun own => absurd own (other _ _ busy)
  next busy => exact fun own => absurd own (other _ _ busy)
  next => trivial

theorem LoopAt.fails_within {frame : Frame} (kind : Iterates scheduler handle frame phase)
    {above : List Frame} {focus : Focus}
    (busy : machine.control = .busy ⟨some task, above ++ [frame]⟩ focus)
    (risky : ¬ LoopSafe task machine) :
    LoopGoes scheduler handle task (machine.advance ⟨some task, above ++ [frame]⟩ focus)
      .ended := by
  cases above with
  | cons first rest =>
      refine absurd ?_ risky
      cases rest <;> simp [LoopSafe, busy]
  | nil =>
      cases focus with
      | reply reply =>
          cases reply with
          | ok value =>
              refine absurd ?_ risky
              cases kind <;> simp [LoopSafe, busy]
          | error fault =>
              have fatal : fault.escape? ≠ none := by
                cases kind <;> simpa [LoopSafe, busy] using risky
              obtain ⟨other, escapes⟩ := Option.ne_none_iff_exists'.mp fatal
              cases kind <;> refine .fails other (.inl rfl) ?_ <;>
                simp [advance, World.resume, escapes, go]
      | _ =>
          refine absurd ?_ risky
          cases kind <;> simp [LoopSafe, busy]

/-- Whatever happens, the task of a loop stays in its phases or fails. -/
theorem LoopGoes.move (state : LoopGoes scheduler handle task machine phase)
    (move : Move machine next) (sound : machine.Sound) :
    ∃ after, LoopGoes scheduler handle task next after := by
  cases state with
  | fails fault left busy =>
      rcases left with rfl | rfl
      · have listed := sound.owned task (by simp [live, runs, busy])
        have still := Nat.lt_of_lt_of_le listed (move.tasks sound)
        rw [move.of_busy busy] at still ⊢
        exact ⟨.ended, .keeps (.gone (live_finish sound _ busy) still)⟩
      · rw [move.of_busy busy]
        exact ⟨.ended, .fails fault (.inl rfl) rfl⟩
  | keeps state =>
      by_cases safe : LoopSafe task machine
      · obtain ⟨after, followed, -⟩ := state.move move sound safe
        exact ⟨after, .keeps followed⟩
      · cases state with
        | asks due busy =>
            cases timed : wakeTime machine.world.now
                (machine.world.schedulers.get scheduler).interval with
            | ok moment => exact absurd (by simp [LoopSafe, busy, timed]) safe
            | error fault =>
                rw [move.of_busy busy]
                refine ⟨.ended, .fails fault (.inr rfl) ?_⟩
                simp [advance, sleep, World.observe, timed, go]
        | iterates above focus kind busy =>
            rw [move.of_busy busy]
            exact ⟨.ended, LoopAt.fails_within kind busy safe⟩
        | listed parked | asleep parked | pauses above kind parked =>
            exact absurd (loopSafe_of_other fun _ _ busy => parked.alone sound busy) safe
        | gone absent listed => exact absurd (loopSafe_of_other (not_running_of_gone absent)) safe
        | begins busy | opens due busy | wakes busy | calls active busy | turns work busy
        | stops busy => exact absurd (by simp [LoopSafe, busy, Focus.nothing]) safe

theorem LoopGoes.calling (state : LoopGoes scheduler handle task machine phase)
    (sound : machine.Sound) (seen : machine.loopEvent? task handle = some .calls) :
    machine.Active handle := by
  cases state with
  | keeps state => exact state.calling sound seen
  | fails fault left busy =>
      rcases left with rfl | rfl <;> simp [loopEvent?, busy, Focus.raise] at seen

/-- Once its handle is destroyed, a loop calls nobody any more. -/
theorem Run.calls_none (run : Run start past machine) (sound : start.Sound)
    (state : LoopGoes scheduler handle task start phase) (has : start.world.handles.Has handle)
    (destroyed : start.world.Destroyed handle) :
    (∃ after, LoopGoes scheduler handle task machine after) ∧
      ∀ state ∈ past, state.loopEvent? task handle ≠ some .calls := by
  induction run with
  | refl => exact ⟨⟨phase, state⟩, fun _ member => absurd member List.not_mem_nil⟩
  | @move past machine next run move induction =>
      obtain ⟨⟨after, reached⟩, silent⟩ := induction
      have kept := run.sound sound
      refine ⟨reached.move move kept, ?_⟩
      intro state member seen
      rcases List.mem_append.mp member with earlier | last
      · exact silent state earlier seen
      · cases List.mem_singleton.mp last
        have active := reached.calling kept seen
        have gone := ((run.grows sound).handles handle has).2.destroyed destroyed
        simp only [Active, Handle.isActive, Handle.isDestroyed, decide_eq_true_eq] at active gone
        rw [gone] at active
        cases active

/-- An iteration goes on until it is seen to end. -/
theorem LoopAt.iterating_move (state : LoopAt scheduler handle task machine phase)
    (within : phase.isIteration = true) (move : Move machine next) (sound : machine.Sound) :
    (∃ after, LoopAt scheduler handle task next after ∧ after.isIteration = true) ∨
      ∃ active, machine.loopEvent? task handle = some (.ends active) := by
  cases state with
  | @iterates frame phase above focus kind busy =>
      rcases loopAt_within kind busy sound with ⟨reply, rfl, rfl⟩ | ⟨still, -⟩
      · rcases loopEvent?_of_answer kind busy with ends | ⟨-, value, work, rfl, rfl, awaited⟩
        · exact .inr ⟨_, ends⟩
        · rw [move.of_busy busy]
          refine .inl ⟨.iterating, .turns work ?_, rfl⟩
          simp [advance, World.resume, awaited, go]
      · rw [move.of_busy busy]
        exact .inl ⟨phase, still, within⟩
  | pauses above kind parked =>
      apply Or.inl
      rcases parked.move move sound with still | busy
      · exact ⟨_, .pauses above kind still, within⟩
      · exact ⟨_, .iterates above .nothing kind busy, within⟩
  | turns work busy =>
      rw [move.of_busy busy]
      exact .inl ⟨.awaiting, .iterates [] (.await work) .await rfl, rfl⟩
  | opens due busy | asks due busy =>
      rcases due with rfl | ⟨rfl, -⟩ <;> cases within
  | _ => cases within

theorem LoopAt.live (state : LoopAt scheduler handle task machine phase)
    (going : phase ≠ .ended) : machine.live (some task) ≠ 0 := by
  cases state with
  | listed parked | asleep parked | pauses above kind parked =>
      have alive := parked.live
      simp only at alive
      omega
  | begins busy | opens due busy | asks due busy | wakes busy | calls active busy
  | iterates above focus kind busy | turns work busy =>
      simp [Machine.live, runs, busy]
  | stops | gone => exact absurd rfl going

/-- The iteration in which a loop is found ends, or the loop is still in it. -/
theorem Run.iterates (run : Run start past machine) (sound : start.Sound)
    (state : LoopAt scheduler handle task start phase) (within : phase.isIteration = true) :
    (∃ after, LoopAt scheduler handle task machine after ∧ after.isIteration = true) ∨
      ∃ state ∈ past, ∃ active, state.loopEvent? task handle = some (.ends active) := by
  induction run with
  | refl => exact .inl ⟨phase, state, within⟩
  | @move past machine next run move induction =>
      rcases induction with ⟨after, reached, still⟩ | ⟨state, member, active, seen⟩
      · rcases reached.iterating_move still move (run.sound sound) with going | ⟨active, seen⟩
        · exact .inl going
        · exact .inr ⟨machine, List.mem_append_right _ (List.mem_singleton_self _), active, seen⟩
      · exact .inr ⟨state, List.mem_append_left _ member, active, seen⟩

/-- Behind every task whose end a scheduler is to hear of under a number, there is a handle
that is known under this number, and the task runs the loop of the handle. -/
structure Backed (scheduler : Ref .scheduler) (known : Ref .handle → Nat → Prop)
    (machine : Machine) : Prop where
  running : ∀ task id, .loopEnded scheduler id ∈ machine.dues task →
    ∃ handle phase, known handle id ∧ LoopGoes scheduler handle task machine phase
  starting : ∀ work id, machine.enrols? = some (work, scheduler, id) →
    machine.world.schedulers.Has scheduler →
    ∃ handle, work = .loop scheduler handle ∧ known handle id

theorem Backed.move {known later : Ref .handle → Nat → Prop}
    (backed : Backed scheduler known machine) (accounted : machine.Accounted)
    (calm : machine.Calm) (sound : machine.Sound) (present : machine.Present)
    (move : Move machine next)
    (kept : machine.world.schedulers.Has scheduler →
      ∀ handle id, known handle id → later handle id)
    (joins : ∀ id callback, machine.world.schedulers.Has scheduler →
      id = (machine.world.tables.get (machine.world.schedulers.get scheduler).table).next →
      next.enrols? = some (.loop scheduler machine.world.handles.fresh, scheduler, id) →
      World.Enrols (machine.world.schedulers.get scheduler).table "forever" callback
        machine.world next.world → later machine.world.handles.fresh id) :
    Backed scheduler later next := by
  constructor
  case running =>
    intro task id due
    rcases move.due due (accounted.listed _) with
      earlier | ⟨thread, work, busy, rfl, rfl⟩ | ⟨_, _, _, _, other, _⟩
    · obtain ⟨handle, phase, given, goes⟩ := backed.running task id earlier
      obtain ⟨after, followed⟩ := goes.move move sound
      exact ⟨handle, after, kept (accounted.hasScheduler earlier) handle id given, followed⟩
    · have has := present _ _ _ busy rfl
      obtain ⟨handle, rfl, given⟩ :=
        backed.starting work id (by simp [enrols?, busy, Focus.enrols?]) has
      refine ⟨handle, .starting, kept has handle id given, .keeps (.listed (.queued ?_))⟩
      exact List.mem_append_right _ (List.mem_singleton_self _)
    · cases other
  case starting =>
    intro work id found has
    rcases move.enrols calm found with ⟨earlier, same⟩ | ⟨rfl, number, callback, enrols⟩
    · rw [same] at has
      obtain ⟨handle, given, known⟩ := backed.starting work id earlier has
      exact ⟨handle, given, kept has handle id known⟩
    · rw [enrols.schedulers] at has
      exact ⟨machine.world.handles.fresh, rfl, joins id callback has number found enrols⟩

/-- Behind every task whose end a scheduler is to hear of, there is a handle that the
scheduler has issued. -/
structure Linked (scheduler : Ref .scheduler) (past : List Machine) (machine : Machine) :
    Prop where
  running : ∀ task id, .loopEnded scheduler id ∈ machine.dues task →
    ∃ handle phase, Issued (machine.world.schedulers.get scheduler).table past machine handle ∧
      LoopGoes scheduler handle task machine phase
  starting : ∀ work id, machine.enrols? = some (work, scheduler, id) →
    machine.world.schedulers.Has scheduler →
    ∃ handle, work = .loop scheduler handle ∧
      Issued (machine.world.schedulers.get scheduler).table past machine handle

theorem Linked.move (linked : Linked scheduler past machine) (accounted : machine.Accounted)
    (calm : machine.Calm) (sound : machine.Sound) (present : machine.Present)
    (move : Move machine next) : Linked scheduler (past ++ [machine]) next := by
  have table (has : machine.world.schedulers.Has scheduler) :=
    ((move.grows sound).schedulers scheduler has).2.table
  have backed : Backed scheduler (fun handle _ =>
      Issued (machine.world.schedulers.get scheduler).table past machine handle) machine :=
    ⟨linked.running, linked.starting⟩
  have later : Backed scheduler (fun handle _ =>
      Issued (next.world.schedulers.get scheduler).table (past ++ [machine]) next handle) next := by
    refine backed.move accounted calm sound present move ?_ ?_
    · intro has handle id issued
      rw [table has]
      exact issued.later
    · intro id callback has number found enrols
      rw [table has]
      refine ⟨next, List.mem_append_right _ (List.mem_singleton_self _), ?_⟩
      rw [World.listed, enrols.tables,
        Arena.get_modify_self _ (accounted.tabled scheduler has), HandleTable.handles_insert]
      exact List.mem_append_right _ (List.mem_singleton_self _)
  exact ⟨later.running, later.starting⟩

variable {looping : Bool} {registry : Registry} {names : List (String × Value)}

theorem Run.linked (scheduler : Ref .scheduler)
    (run : Run (initial (.initial looping registry) names) past machine)
    (present : ∀ state ∈ past, state.Present) : Linked scheduler past machine := by
  induction run with
  | refl => exact ⟨fun _ _ due => absurd due List.not_mem_nil, fun _ _ found => nomatch found⟩
  | @move past machine next run move induction =>
      obtain ⟨earlier, last⟩ := forall_snoc present
      obtain ⟨accounted, calm⟩ := run.accounted earlier
      have sound := run.sound (sound_initial looping registry names)
      exact (induction earlier).move accounted calm sound last move

end Machine

end Microboard
