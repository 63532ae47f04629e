import Microboard.Proofs.Machine.Failures

/-!
# The reckoning of failures

At every moment of a run a handle has failed as often as calls of its callback have ended
in an ordinary fault, once its dispatcher has heard of all its tasks that have ended;
what a script records by hand is counted besides.  Each failure is logged once and
disturbs nothing.
-/

namespace Microboard.Machine

/-- The dispatchers have heard of the end of every task that was started for a handle. -/
def Heard (handle : Ref .handle) (machine : Machine) : Prop :=
  ∀ task target reply, .tell task (.handlerEnded target handle) reply ∉ machine.ready

/-- The ordinary failures in which calls of callbacks end at this moment: the caller waits
for the call, or a task that was started for it ends, or it has given back a future that
has ended. -/
def failures (machine : Machine) : List Failure :=
  match machine.control with
  | .busy ⟨_, frame :: _⟩ (.reply reply) => (frame.fails? machine.world.looping reply).toList
  | .busy ⟨some task, []⟩ (.reply reply) =>
    (machine.notices task).filterMap fun notice => notice.fails? reply
  | .busy _ (.adopt task target handle) =>
    ((machine.outcomeOf task).bind (Notice.handlerEnded target handle).fails?).toList
  | _ => []

theorem caughtFailures_eq (machine : Machine) :
    machine.caughtFailures = machine.failures.filter Failure.isWritten := by
  cases control : machine.control with
  | idle => simp only [caughtFailures, failures, control, List.filter_nil]
  | busy thread focus =>
      obtain ⟨owner, stack⟩ := thread
      cases focus with
      | reply reply =>
          cases stack with
          | cons frame rest =>
              simp only [caughtFailures, failures, control, Frame.failure?_eq, Option.toList_filter]
          | nil =>
              cases owner with
              | none => simp only [caughtFailures, failures, control, List.filter_nil]
              | some task =>
                  simp only [caughtFailures, failures, control, Notice.failure?_eq,
                    List.filter_filterMap]
      | adopt task target handle =>
          simp only [caughtFailures, failures, control]
          cases machine.outcomeOf task with
          | none => rfl
          | some reply => simp only [Option.bind_some, Notice.failure?_eq, Option.toList_filter]
      | _ => simp only [caughtFailures, failures, control, List.filter_nil]

/-- What a handle has counted and what it remembers, beside the failures in which calls of
its callback have ended. -/
structure Reckoned (handle : Ref .handle) (choices : List Choice) (past : List Machine)
    (machine : Machine) : Prop where
  count : (machine.world.handles.get handle).failures =
    (past.flatMap failures).countP (fun failure => failure.handle = handle) +
      (journal choices past).countP (Recording.isByHand handle)
  ended : (((journal choices past).filterMap Recording.failure?).filter
      fun failure => failure.handle = handle).Perm
    ((past.flatMap failures).filter fun failure => failure.handle = handle)
  last : (machine.world.handles.get handle).Remembers
    ((journal choices past).filter fun recording => recording.handle = handle).getLast?

/-- What happens to the failures at one choice: a caught one is recorded, logged and
endured, and nothing is logged without one. -/
structure Caught (machine : Machine) (choice : Choice) (next : Machine) : Prop where
  endures : ∀ failure, machine.recording? choice = some (.caught failure) →
    failure.fault.escape? = none ∧ Endures failure machine next
  silent : (∀ failure, machine.recording? choice ≠ some (.caught failure)) →
    choice.setsClock = false → next.world.failureLog = machine.world.failureLog

variable {looping : Bool} {registry : Registry} {names : List (String × Value)}
  {choices : List Choice} {past : List Machine} {machine next : Machine} {handle : Ref .handle}

theorem Heard.untold (heard : machine.Heard handle) :
    (machine.untold.filter fun failure => failure.handle = handle) = [] := by
  apply List.filter_eq_nil_iff.mpr
  intro failure told own
  obtain ⟨job, queued, failed⟩ := List.mem_filterMap.mp told
  cases job with
  | go thread focus => cases failed
  | tell task notice reply =>
      obtain ⟨target, rfl, -⟩ := Notice.eq_of_failure? failed
      have same : failure.handle = handle := of_decide_eq_true own
      exact heard task target reply (same ▸ queued)

/-- The failures of a handle are those that are caught, if all of them have a text. -/
theorem filter_caughtFailures
    (written : ∀ failure ∈ past.flatMap failures, failure.handle = handle →
      failure.isWritten = true) :
    ((past.flatMap caughtFailures).filter fun failure => failure.handle = handle) =
      (past.flatMap failures).filter fun failure => failure.handle = handle := by
  have caught : past.flatMap caughtFailures = (past.flatMap failures).filter Failure.isWritten := by
    rw [List.filter_flatMap]
    exact List.flatMap_congr fun state _ => state.caughtFailures_eq
  rw [caught, List.filter_filter]
  refine List.filter_congr fun failure member => ?_
  by_cases own : failure.handle = handle
  · simp [own, written failure member own]
  · simp [own]

theorem Play.reckoned
    (play : Play (initial (.initial looping registry) names) choices past machine)
    (heard : machine.Heard handle)
    (written : ∀ failure ∈ past.flatMap Machine.failures, failure.handle = handle →
      failure.isWritten = true) : Reckoned handle choices past machine := by
  have tallied := play.tallied handle
  have ended := (play.failures rfl).filter fun failure => failure.handle = handle
  rw [List.filter_append, heard.untold, List.append_nil, filter_caughtFailures written] at ended
  refine ⟨?_, ended.symm, tallied.last⟩
  have caught := ended.length_eq
  rw [← List.countP_eq_length_filter, ← List.countP_eq_length_filter] at caught
  rw [tallied.count, ← List.countP_eq_length_filter, Recording.countP_handle, caught]

theorem Blames.caught (blames : machine.Blames) {choice : Choice}
    (follows : machine.follow? choice = some next) : Caught machine choice next where
  endures failure recorded := by
    have has : machine.world.handles.Has failure.handle := blames.recording recorded
    unfold recording? at recorded
    split at recorded
    next thread focus busy =>
      rw [follow?_turn busy] at follows
      cases follows
      unfold Thread.recording? at recorded
      split at recorded
      next reply frame stack same =>
        obtain ⟨owner, frames⟩ := thread
        cases same
        obtain ⟨caught, failed, same⟩ := Option.map_eq_some_iff.mp recorded
        cases same
        exact ⟨(Frame.catches_of_failure? failed).kept, endures_turn busy failed has⟩
      next target arguments =>
        unfold Value.byHand? at recorded
        split at recorded
        · split at recorded <;> cases recorded
        · cases recorded
      next => cases recorded
    next place idle =>
      rw [follow?_take idle] at follows
      obtain ⟨job, found, rfl⟩ := Option.map_eq_some_iff.mp follows
      obtain ⟨caught, failed, same⟩ := Option.map_eq_some_iff.mp recorded
      cases same
      rw [found] at failed
      cases job with
      | go thread focus => cases failed
      | tell task notice reply =>
          obtain ⟨target, -, -, kept, -⟩ := Notice.eq_of_failure? failed
          refine ⟨kept, ?_⟩
          obtain ⟨inside, queued⟩ := List.getElem?_eq_some_iff.mp found
          rw [List.eraseIdx_eq_take_drop_succ]
          refine endures_told idle ?_ failed has
          rw [← queued, List.getElem_cons_drop, List.take_append_drop]
    next => cases recorded
  silent quiet timeless := by
    have kept := congrArg Prod.snd (follow_accounts follows blames.running timeless)
    refine kept.trans ?_
    cases recorded : machine.recording? choice with
    | none => rfl
    | some recording =>
        cases recording with
        | caught failure => exact absurd recorded (quiet failure)
        | byHand target cause => rfl

/-- A program whose handler fails in a task, after its handle has been destroyed. -/
def lament : Program :=
  building <| .define .coroutine (fun _ => .finish (.error (.raised .value []))) fun handler =>
    .call (.method (.bridge ⟨0⟩ .onButtonPressed)) ⟨[.button .a, handler], []⟩ fun _ =>
      .call (.method (.board ⟨0⟩ .pressButton)) (.single (.button .a)) fun _ =>
        .call (.method (.bridge ⟨0⟩ .clearButtonHandlers)) .empty .finish

def lamenting : List Choice :=
  .enter lament :: List.replicate 29 .turn ++ .take 0 :: List.replicate 3 .turn ++ [.take 0]

/-- A program that records a failure of a handler by hand. -/
def grudge : Program :=
  building <| .define .plain (fun _ => .finish .nothing) fun handler =>
    .call (.method (.bridge ⟨0⟩ .onButtonPressed)) ⟨[.button .a, handler], []⟩ fun _ =>
      .call (.method (.handle ⟨0⟩ .recordFailure)) (.single (.fault (.raised .value []) 0)) .finish

def grudging : List Choice :=
  .enter grudge :: List.replicate 15 .turn

end Microboard.Machine
