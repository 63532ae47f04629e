import Microboard.Proofs.Scheduler.Course

/-!
# The protocol of a loop

Whatever else runs, the task of a registered handle takes one of the courses that a
loop may take.  It is followed through all of its states: each phase of the course
stands for a few shapes of the machine.
-/

namespace Microboard.Machine

variable {start machine next : Machine} {past : List Machine}
variable {scheduler : Ref .scheduler} {handle : Ref .handle} {task : TaskId}

/-- What a state shows of the loop that a task runs for a handle. -/
def loopEvent? (task : TaskId) (handle : Ref .handle) (machine : Machine) :
    Option LoopEvent :=
  match machine.control with
  | .idle => none
  | .busy ⟨owner, stack⟩ focus =>
    if owner = some task then
      let active := (machine.world.handles.get handle).isActive
      match stack, focus with
      | [.loopSlept ..], .sleep interval => some (.sleeps interval)
      | [.loopSlept ..], .reply _ => some (.wakes active)
      | [], .within (.iterating ..) (.invoke _) => some .calls
      | [], .within (.iterationAwaits ..) (.await work) => some (.awaits work)
      | [.iterating ..], .reply (.ok value) =>
        if value.work?.isSome then none else some (.ends active)
      | [.iterating ..], .reply (.error _) => some (.ends active)
      | [.iterationAwaits ..], .reply _ => some (.ends active)
      | _, _ => none
    else none

/-- The operation in which the task of a loop waits for its callback, or for what the
callback gave. -/
inductive Iterates (scheduler : Ref .scheduler) (handle : Ref .handle) :
    Frame → LoopPhase → Prop where
  | call : Iterates scheduler handle (.iterating scheduler handle) .iterating
  | await : Iterates scheduler handle (.iterationAwaits scheduler handle) .awaiting

/-- The handle takes part. -/
def Active (machine : Machine) (handle : Ref .handle) : Prop :=
  (machine.world.handles.get handle).isActive = true

/-- The shapes that a machine has while a loop is in a phase. -/
inductive LoopAt (scheduler : Ref .scheduler) (handle : Ref .handle) (task : TaskId)
    (machine : Machine) : LoopPhase → Prop where
  | listed (parked : machine.Parked ⟨some task, []⟩ (.await (.loop scheduler handle))) :
      LoopAt scheduler handle task machine .starting
  | begins (busy : machine.control =
        .busy ⟨some task, []⟩ (.await (.loop scheduler handle))) :
      LoopAt scheduler handle task machine .starting
  | opens {phase : LoopPhase}
      (due : phase = .starting ∨ phase = .asking ∧ machine.Active handle)
      (busy : machine.control = .busy ⟨some task, []⟩ (.within (.loopSlept scheduler handle)
        (.sleep (machine.world.schedulers.get scheduler).interval))) :
      LoopAt scheduler handle task machine phase
  | asks {phase : LoopPhase}
      (due : phase = .starting ∨ phase = .asking ∧ machine.Active handle)
      (busy : machine.control = .busy ⟨some task, [.loopSlept scheduler handle]⟩
        (.sleep (machine.world.schedulers.get scheduler).interval)) :
      LoopAt scheduler handle task machine phase
  | asleep (parked : machine.Parked ⟨some task, [.loopSlept scheduler handle]⟩ .nothing) :
      LoopAt scheduler handle task machine .sleeping
  | wakes (busy : machine.control =
        .busy ⟨some task, [.loopSlept scheduler handle]⟩ .nothing) :
      LoopAt scheduler handle task machine .sleeping
  | calls (active : machine.Active handle)
      (busy : machine.control =
        .busy ⟨some task, []⟩ (.within (.iterating scheduler handle) (.invoke handle))) :
      LoopAt scheduler handle task machine .calling
  | iterates {frame : Frame} {phase : LoopPhase} (above : List Frame) (focus : Focus)
      (kind : Iterates scheduler handle frame phase)
      (busy : machine.control = .busy ⟨some task, above ++ [frame]⟩ focus) :
      LoopAt scheduler handle task machine phase
  | pauses {frame : Frame} {phase : LoopPhase} (above : List Frame)
      (kind : Iterates scheduler handle frame phase)
      (parked : machine.Parked ⟨some task, above ++ [frame]⟩ .nothing) :
      LoopAt scheduler handle task machine phase
  | turns (work : Work)
      (busy : machine.control =
        .busy ⟨some task, []⟩ (.within (.iterationAwaits scheduler handle) (.await work))) :
      LoopAt scheduler handle task machine .iterating
  | stops (busy : machine.control = .busy ⟨some task, []⟩ .nothing) :
      LoopAt scheduler handle task machine .ended
  | gone (absent : machine.live (some task) = 0)
      (listed : task.index < machine.tasks.length) :
      LoopAt scheduler handle task machine .ended

/-- What a move adds to the course of a loop. -/
def Continues (interval : Value) (event : Option LoopEvent) (before after : LoopPhase) : Prop :=
  ∀ events, Course interval events before → Course interval (events ++ event.toList) after

theorem Continues.silent (interval : Value) (phase : LoopPhase) :
    Continues interval none phase phase := by
  intro events course
  simpa using course

theorem loopEvent?_of_other
    (other : ∀ thread focus, machine.control = .busy thread focus → thread.owner ≠ some task) :
    machine.loopEvent? task handle = none := by
  unfold loopEvent?
  cases control : machine.control with
  | idle => rfl
  | busy thread focus => simp [other thread focus control]

theorem loopEvent?_of_gone (absent : machine.live (some task) = 0) :
    machine.loopEvent? task handle = none :=
  loopEvent?_of_other (not_running_of_gone absent)

theorem loopEvent?_of_iterates {frame : Frame} {phase : LoopPhase} {above : List Frame}
    {focus : Focus} (kind : Iterates scheduler handle frame phase)
    (busy : machine.control = .busy ⟨some task, above ++ [frame]⟩ focus)
    (going : ∀ reply, focus = .reply reply → above ≠ []) :
    machine.loopEvent? task handle = none := by
  unfold loopEvent?
  rw [busy]
  cases above with
  | nil =>
      have calm : ∀ reply, focus ≠ .reply reply := fun reply same => going reply same rfl
      cases kind <;> simp [calm]
  | cons first rest => cases rest <;> simp

/-- What a loop relies on: its sleeps do not fail, and its iterations raise only ordinary
faults that have a text. -/
def LoopSafe (task : TaskId) (machine : Machine) : Prop :=
  match machine.control with
  | .busy ⟨owner, [.loopSlept ..]⟩ (.sleep interval) =>
    owner = some task → ∃ due, wakeTime machine.world.now interval = .ok due
  | .busy ⟨owner, [.iterating ..]⟩ (.reply (.error fault))
  | .busy ⟨owner, [.iterationAwaits ..]⟩ (.reply (.error fault)) =>
    owner = some task → fault.escape? = none
  | _ => True

/-- An evident case of what a loop relies on: it asks for sleeps that are over at once,
and its iterations raise nothing. -/
def evidentlySafe (machine : Machine) : Bool :=
  match machine.control with
  | .busy ⟨_, [.loopSlept ..]⟩ (.sleep (.int value)) => value ≤ 0
  | .busy ⟨_, [.loopSlept ..]⟩ (.sleep _) => false
  | .busy ⟨_, [.iterating ..]⟩ (.reply (.error _)) => false
  | .busy ⟨_, [.iterationAwaits ..]⟩ (.reply (.error _)) => false
  | _ => true

theorem loopSafe_of_evident {past : List Machine} (evident : past.all evidentlySafe = true) :
    ∀ state ∈ past, LoopSafe task state := by
  intro state member
  have safe := List.all_eq_true.mp evident state member
  unfold LoopSafe
  split
  next owner scheduler handle interval busy =>
    intro _
    cases interval with
    | int value =>
        have elapsed : value ≤ 0 := by simpa [evidentlySafe, busy] using safe
        exact ⟨state.world.now + 0.0, by simp [wakeTime, Value.number?, elapsed]⟩
    | _ => simp [evidentlySafe, busy] at safe
  next busy => simp [evidentlySafe, busy] at safe
  next busy => simp [evidentlySafe, busy] at safe
  next => trivial

theorem loopAt_continues {world : World} (same : (world.handles.get handle).isActive =
      (machine.world.handles.get handle).isActive) :
    LoopAt scheduler handle task
      (machine.go ⟨some task, []⟩ (world.continueLoop scheduler handle))
      (.after (machine.world.handles.get handle).isActive .asking) := by
  unfold World.continueLoop
  by_cases active : (world.handles.get handle).isActive = true
  · simp only [active, if_true, ← same]
    exact .opens (.inr ⟨rfl, active⟩) rfl
  · simp only [active, ← same]
    exact .stops rfl

theorem noteFailure_isActive (world : World) (logger : Logger) (heading : String)
    (target other : Ref .handle) (fault : Fault) :
    ((world.noteFailure logger heading target fault).handles.get other).isActive =
      (world.handles.get other).isActive := by
  refine world.handles.get_modify_field Handle.isActive _ ?_ target other
  exact fun _ => rfl

theorem loopAt_ends {frame : Frame} {phase : LoopPhase} {reply : Reply}
    (kind : Iterates scheduler handle frame phase)
    (busy : machine.control = .busy ⟨some task, [frame]⟩ (.reply reply))
    (kept : ∀ fault, reply = .error fault → fault.escape? = none) (interval : Value) :
    ∃ after, LoopAt scheduler handle task
        (machine.advance ⟨some task, [frame]⟩ (.reply reply)) after ∧
      Continues interval (machine.loopEvent? task handle) phase after := by
  cases kind with
  | call =>
      cases reply with
      | error fault =>
          refine ⟨.after (machine.world.handles.get handle).isActive .asking, ?_, ?_⟩
          · simp only [advance, World.resume, kept fault rfl]
            exact loopAt_continues (noteFailure_isActive _ _ _ _ _ _)
          · intro events course
            simpa [loopEvent?, busy] using course.ends _
      | ok value =>
          cases awaited : value.work? with
          | none =>
              refine ⟨.after (machine.world.handles.get handle).isActive .asking, ?_, ?_⟩
              · simp only [advance, World.resume, awaited]
                exact loopAt_continues rfl
              · intro events course
                simpa [loopEvent?, busy, awaited] using course.ends _
          | some work =>
              refine ⟨.iterating, ?_, ?_⟩
              · simp only [advance, World.resume, awaited]
                exact .turns work rfl
              · intro events course
                simpa [loopEvent?, busy, awaited] using course
  | await =>
      refine ⟨.after (machine.world.handles.get handle).isActive .asking, ?_, ?_⟩
      · cases reply with
        | error fault =>
            simp only [advance, World.resume, kept fault rfl]
            exact loopAt_continues (noteFailure_isActive _ _ _ _ _ _)
        | ok value =>
            simp only [advance, World.resume]
            exact loopAt_continues rfl
      · intro events course
        simpa [loopEvent?, busy] using course.endsAwaiting _

/-- An iteration goes on unseen, or what it waits for has answered. -/
theorem loopAt_within {frame : Frame} {phase : LoopPhase} {above : List Frame} {focus : Focus}
    (kind : Iterates scheduler handle frame phase)
    (busy : machine.control = .busy ⟨some task, above ++ [frame]⟩ focus)
    (sound : machine.Sound) :
    (∃ reply, focus = .reply reply ∧ above = []) ∨
      LoopAt scheduler handle task
          (machine.advance ⟨some task, above ++ [frame]⟩ focus) phase ∧
        machine.loopEvent? task handle = none := by
  by_cases returns : ∃ reply, focus = .reply reply ∧ above = []
  · exact .inl returns
  · have going : ∀ reply, focus = .reply reply → above ≠ [] :=
      fun reply same empty => returns ⟨reply, same, empty⟩
    have turn : Turn .everything machine (some task) [frame]
        (machine.advance ⟨some task, above ++ [frame]⟩ focus) :=
      advance_turn (Scope.destroying_closed _) (fun frame _ => frame.within_destroying)
        (sound.focus _ _ busy) (orderly_everything machine _ _ busy) going
    refine .inr ⟨?_, loopEvent?_of_iterates kind busy going⟩
    cases turn with
    | goes above focus steps control => exact .iterates above focus kind control
    | parks above steps control parked => exact .pauses above kind parked

/-- An iteration whose callback has answered is seen to end, unless the callback gave
something to wait for. -/
theorem loopEvent?_of_answer {frame : Frame} {phase : LoopPhase} {reply : Reply}
    (kind : Iterates scheduler handle frame phase)
    (busy : machine.control = .busy ⟨some task, [frame]⟩ (.reply reply)) :
    machine.loopEvent? task handle =
        some (.ends (machine.world.handles.get handle).isActive) ∨
      machine.loopEvent? task handle = none ∧
        ∃ value work, frame = .iterating scheduler handle ∧ reply = .ok value ∧
          value.work? = some work := by
  cases kind with
  | await => exact .inl (by simp [loopEvent?, busy])
  | call =>
      cases reply with
      | error fault => exact .inl (by simp [loopEvent?, busy])
      | ok value =>
          cases awaited : value.work? with
          | none => exact .inl (by simp [loopEvent?, busy, awaited])
          | some work =>
              exact .inr ⟨by simp [loopEvent?, busy, awaited], value, work, rfl, rfl, awaited⟩

theorem loopEvent?_of_parked {thread : Thread} {focus : Focus}
    (parked : machine.Parked thread focus) (sound : machine.Sound)
    (own : thread.owner = some task) : machine.loopEvent? task handle = none :=
  loopEvent?_of_other fun _ _ busy => own ▸ parked.alone sound busy

variable {phase : LoopPhase}

theorem LoopAt.move (state : LoopAt scheduler handle task machine phase)
    (move : Move machine next) (sound : machine.Sound)
    (safe : LoopSafe task machine) :
    ∃ after, LoopAt scheduler handle task next after ∧
      Continues (machine.world.schedulers.get scheduler).interval
        (machine.loopEvent? task handle) phase after := by
  cases state with
  | listed parked =>
      refine ⟨.starting, ?_, ?_⟩
      · rcases parked.move move sound with still | busy
        · exact .listed still
        · exact .begins busy
      · rw [loopEvent?_of_parked parked sound rfl]
        exact .silent _ _
  | begins busy =>
      rw [move.of_busy busy]
      refine ⟨.starting, .opens (.inl rfl) rfl, ?_⟩
      simpa [loopEvent?, busy] using Continues.silent _ _
  | opens due busy =>
      rw [move.of_busy busy]
      refine ⟨phase, .asks due rfl, ?_⟩
      simpa [loopEvent?, busy] using Continues.silent _ _
  | asks due busy =>
      obtain ⟨moment, timed⟩ : ∃ due, wakeTime machine.world.now
          (machine.world.schedulers.get scheduler).interval = .ok due := by
        simpa [LoopSafe, busy] using safe
      rw [move.of_busy busy]
      refine ⟨.sleeping, .asleep ?_, ?_⟩
      · simp only [advance, sleep_eq _ timed]
        exact .asleep (List.mem_append_right _ (List.mem_singleton_self _)) rfl
      · intro events course
        simp only [loopEvent?, busy, if_true, Option.toList_some]
        rcases due with rfl | ⟨rfl, active⟩
        · rw [course.eq_nil rfl]
          exact .first
        · exact course.sleeps
  | asleep parked =>
      refine ⟨.sleeping, ?_, ?_⟩
      · rcases parked.move move sound with still | busy
        · exact .asleep still
        · exact .wakes busy
      · rw [loopEvent?_of_parked parked sound rfl]
        exact .silent _ _
  | wakes busy =>
      rw [move.of_busy busy]
      refine ⟨.after (machine.world.handles.get handle).isActive .calling, ?_, ?_⟩
      · simp only [advance, Focus.nothing, Reply.nothing, World.resume, World.iterateLoop]
        by_cases active : (machine.world.handles.get handle).isActive = true
        · simp only [active, if_true]
          exact .calls active rfl
        · simp only [active]
          exact .stops rfl
      · intro events course
        simpa [loopEvent?, busy, Focus.nothing] using course.wakes _
  | calls active busy =>
      rw [move.of_busy busy]
      refine ⟨.iterating, .iterates [] (.invoke handle) .call rfl, ?_⟩
      intro events course
      simpa [loopEvent?, busy] using course.calls
  | @iterates frame phase above focus kind busy =>
      rw [move.of_busy busy]
      rcases loopAt_within kind busy sound with ⟨reply, rfl, rfl⟩ | ⟨still, silent⟩
      · refine loopAt_ends kind busy ?_ _
        intro fault same
        subst same
        cases kind <;> simpa [LoopSafe, busy] using safe
      · exact ⟨phase, still, silent ▸ .silent _ _⟩
  | @pauses frame phase above kind parked =>
      refine ⟨phase, ?_, ?_⟩
      · rcases parked.move move sound with still | busy
        · exact .pauses above kind still
        · exact .iterates above .nothing kind busy
      · rw [loopEvent?_of_parked parked sound rfl]
        exact .silent _ _
  | turns work busy =>
      rw [move.of_busy busy]
      refine ⟨.awaiting, .iterates [] (.await work) .await rfl, ?_⟩
      intro events course
      simpa [loopEvent?, busy] using course.awaits work
  | stops busy =>
      have listed := sound.owned task (by simp [live, runs, busy])
      obtain ⟨absent, still⟩ : _ ∧ _ :=
        ⟨live_finish sound .nothing busy, (Move.turn busy).tasks sound⟩
      rw [move.of_busy busy]
      refine ⟨.ended, .gone absent (Nat.lt_of_lt_of_le listed still), ?_⟩
      simpa [loopEvent?, busy, Focus.nothing] using Continues.silent _ _
  | gone absent listed =>
      obtain ⟨still, more⟩ := move.gone sound absent listed
      refine ⟨.ended, .gone still more, ?_⟩
      rw [loopEvent?_of_gone absent]
      exact .silent _ _

theorem Run.course (run : Run start past machine) (sound : start.Sound)
    (has : start.world.schedulers.Has scheduler)
    (begun : LoopAt scheduler handle task start .starting)
    (safe : ∀ state ∈ past, LoopSafe task state) :
    ∃ phase, LoopAt scheduler handle task machine phase ∧
      Course (start.world.schedulers.get scheduler).interval
        (past.filterMap (loopEvent? task handle)) phase := by
  induction run with
  | refl => exact ⟨.starting, begun, .start⟩
  | @move past machine next run move induction =>
      obtain ⟨earlier, last⟩ := forall_snoc safe
      obtain ⟨phase, state, course⟩ := induction earlier
      have same := ((run.grows sound).schedulers scheduler has).2.interval
      obtain ⟨after, followed, continues⟩ := state.move move (run.sound sound) last
      refine ⟨after, followed, ?_⟩
      rw [filterMap_snoc, ← same]
      rw [← same] at course
      exact continues _ course

theorem loopEvent?_iterates {frame : Frame} {phase : LoopPhase} {above : List Frame}
    {focus : Focus} {event : LoopEvent} (kind : Iterates scheduler handle frame phase)
    (busy : machine.control = .busy ⟨some task, above ++ [frame]⟩ focus)
    (sound : machine.Sound) (seen : machine.loopEvent? task handle = some event) :
    ∃ active, event = .ends active := by
  rcases loopAt_within kind busy sound with ⟨reply, rfl, rfl⟩ | ⟨-, silent⟩
  · rcases loopEvent?_of_answer kind busy with ends | ⟨silent, -⟩
    · exact ⟨_, Option.some.inj (seen.symm.trans ends)⟩
    · cases seen.symm.trans silent
  · cases seen.symm.trans silent

theorem LoopAt.calling (state : LoopAt scheduler handle task machine phase)
    (sound : machine.Sound) (seen : machine.loopEvent? task handle = some .calls) :
    machine.Active handle := by
  cases state with
  | calls active busy => exact active
  | listed parked | asleep parked | pauses above kind parked =>
      rw [loopEvent?_of_parked parked sound rfl] at seen
      cases seen
  | iterates above focus kind busy =>
      obtain ⟨active, same⟩ := loopEvent?_iterates kind busy sound seen
      cases same
  | gone absent listed =>
      rw [loopEvent?_of_gone absent] at seen
      cases seen
  | begins busy | opens due busy | asks due busy | wakes busy | turns work busy | stops busy =>
      simp [loopEvent?, busy, Focus.nothing] at seen

theorem LoopAt.sleeps {asked : Value} (state : LoopAt scheduler handle task machine phase)
    (sound : machine.Sound) (seen : machine.loopEvent? task handle = some (.sleeps asked)) :
    asked = (machine.world.schedulers.get scheduler).interval ∧
      (phase = .starting ∨ machine.Active handle) := by
  cases state with
  | asks due busy =>
      refine ⟨by simpa [loopEvent?, busy, eq_comm] using seen, ?_⟩
      exact due.imp id And.right
  | listed parked | asleep parked | pauses above kind parked =>
      rw [loopEvent?_of_parked parked sound rfl] at seen
      cases seen
  | iterates above focus kind busy =>
      obtain ⟨active, same⟩ := loopEvent?_iterates kind busy sound seen
      cases same
  | gone absent listed =>
      rw [loopEvent?_of_gone absent] at seen
      cases seen
  | begins busy | opens due busy | calls active busy | wakes busy | turns work busy
  | stops busy =>
      simp [loopEvent?, busy, Focus.nothing] at seen

/-- A loop keeps to its protocol: the states that its task has left show one of the
courses, so what it has done is a beginning of a sleep and whole rounds.  It calls
the callback of its handle, which then is active, and it asks for its own interval,
after the first time only while the handle is active. -/
structure LoopKept (interval : Value) (callback : Option Value) (scheduler : Ref .scheduler)
    (handle : Ref .handle) (task : TaskId) (past : List Machine) (machine : Machine) :
    Prop where
  course : ∃ phase, LoopAt scheduler handle task machine phase ∧
    Course interval (past.filterMap (loopEvent? task handle)) phase
  rounds : ∃ works,
    (past.filterMap (loopEvent? task handle)).filter LoopEvent.isAction <+:
      rounds interval works
  calls : machine.loopEvent? task handle = some .calls →
    machine.Active handle ∧ ∃ value, callback = some value ∧
      machine.world.callbackOf handle = .ok value
  sleeps : ∀ asked, machine.loopEvent? task handle = some (.sleeps asked) →
    asked = interval ∧
      (past.filterMap (loopEvent? task handle) = [] ∨ machine.Active handle)

/-- The task that a registration starts keeps to the protocol of loops in every run:
whatever other threads do, whenever its handle is destroyed, and in whatever order jobs
and sleepers get their turns.  An iteration that has begun is never cut short. -/
theorem loop_keeps_protocol {looping : Bool} {registry : Registry}
    {names : List (String × Value)} {before : List Machine} {thread : Thread} {notice : Notice}
    (reached : Run (initial (.initial looping registry) names) before start)
    (registered : start.control = .busy thread (.start (.loop scheduler handle) notice))
    (hasScheduler : start.world.schedulers.Has scheduler)
    (hasHandle : start.world.handles.Has handle)
    (run : Run (start.advance thread (.start (.loop scheduler handle) notice)) past machine)
    (safe : ∀ state ∈ past, LoopSafe ⟨start.tasks.length⟩ state) :
    LoopKept (start.world.schedulers.get scheduler).interval
      (start.world.handles.get handle).callback scheduler handle ⟨start.tasks.length⟩ past
      machine := by
  have startSound := reached.sound (sound_initial looping registry names)
  have turn := Move.turn registered
  have sound := startSound.move turn
  have grows := turn.grows startSound
  obtain ⟨has, same⟩ := grows.schedulers scheduler hasScheduler
  have begun : LoopAt scheduler handle ⟨start.tasks.length⟩
      (start.advance thread (.start (.loop scheduler handle) notice)) .starting :=
    .listed (.queued (List.mem_append_right _ (List.mem_singleton_self _)))
  obtain ⟨phase, state, course⟩ := run.course sound has begun safe
  rw [same.interval] at course
  have kept := run.sound sound
  have later := grows.trans (run.grows sound)
  refine ⟨⟨phase, state, course⟩, course.begins_rounds, ?_, ?_⟩
  · intro seen
    have active := state.calling kept seen
    obtain ⟨still, succeeds⟩ := later.handles handle hasHandle
    obtain ⟨value, given⟩ := (kept.world.handle handle still).callback_of_active active
    have same : (start.world.handles.get handle).callback = some value := by
      rcases succeeds.callback with same | gone
      · rw [← same, given]
      · rw [gone] at given
        cases given
    exact ⟨active, value, same, World.callbackOf_eq_ok given⟩
  · intro asked seen
    obtain ⟨asks, due⟩ := state.sleeps kept seen
    refine ⟨asks.trans (later.schedulers scheduler hasScheduler).2.interval, ?_⟩
    exact due.imp (fun starts => course.eq_nil starts) id

/-- A program that registers a callback that does nothing with a new scheduler. -/
def tick : Program :=
  .call (.type .scheduler) ⟨[.clock .simulated, .int 0], []⟩ fun _ =>
    .define .plain (fun _ => .finish .nothing) fun callback =>
      .call (.method (.scheduler ⟨0⟩ .register)) (.single callback) .finish

def ticking : Machine := settle 10 (begun tick)

def dozing : Machine := settle 10 ticking

def roused : Machine := (dozing.sleepers.head?.map dozing.wake).getD dozing

theorem loop_keeps_protocol_tick :
    LoopKept (.int 0) (some (.callback 0)) ⟨0⟩ ⟨0⟩ ⟨0⟩
      (visited 10 ticking ++ ([dozing] ++ visited 12 roused)) (settle 12 roused) :=
  loop_keeps_protocol
    (run_begun tick 9) rfl (by decide) (by decide)
    ((run_settle 10 ticking).trans
      (Run.trans (.move .refl (.wake rfl (.head _))) (run_settle 12 roused)))
    (loopSafe_of_evident rfl)

/-- A program that registers with a new scheduler a callback that fails without a text. -/
def stumble : Program :=
  .call (.type .scheduler) ⟨[.clock .simulated, .int 0], []⟩ fun _ =>
    .define .plain (fun _ => .finish (.error mute)) fun callback =>
      .call (.method (.scheduler ⟨0⟩ .register)) (.single callback) .finish

def stumbling : Machine := settle 40 (begun stumble)

/-- A fault without a text ends the loop, although it is an ordinary one: the handle is active
when the iteration ends, and no further sleep is asked for. -/
theorem loop_ends_at_mute_fault :
    mute.isOrdinary = true ∧
      ∃ past, Run (initial (.initial true .empty) []) past (settle 20 stumbling.rouse) ∧
        past.filterMap (loopEvent? ⟨0⟩ ⟨0⟩) = [.sleeps (.int 0), .wakes true, .calls, .ends true] ∧
        (settle 20 stumbling.rouse).Active ⟨0⟩ ∧
        (settle 20 stumbling.rouse).tasks.map (·.outcome.isSome) = [true] :=
  ⟨rfl, _, (run_begun stumble 40).trans <| Run.trans (.move .refl (.wake rfl (.head _))) <|
    run_settle 20 stumbling.rouse, rfl, rfl, rfl⟩

end Microboard.Machine
