import Mathlib.Data.List.Perm.Basic
import Microboard.Proofs.Machine.Blamed

/-!
# Failures of callbacks

The failures of a run are accounted for.  A failure in which a call ends is recorded on
its handle at once, or, if it ends a task, when the dispatcher hears of the end; the
handle counts it once, it is logged once, and nothing else changes.
-/

namespace Microboard

namespace Recording

def isByHand (handle : Ref .handle) : Recording → Bool
  | caught _ => false
  | byHand target _ => target = handle

theorem countP_handle (handle : Ref .handle) (journal : List Recording) :
    journal.countP (fun recording => recording.handle = handle) =
      (journal.filterMap failure?).countP (fun failure => failure.handle = handle) +
        journal.countP (isByHand handle) := by
  induction journal with
  | nil => rfl
  | cons recording rest induction =>
      rw [List.countP_cons, List.countP_cons, induction]
      cases recording with
      | caught failure =>
          have first : (caught failure :: rest).filterMap failure? =
              failure :: rest.filterMap failure? := rfl
          rw [first, List.countP_cons]
          by_cases own : failure.handle = handle <;>
            simp [Recording.handle, isByHand, own, Nat.add_right_comm]
      | byHand target cause =>
          have first : (byHand target cause :: rest).filterMap failure? =
              rest.filterMap failure? := rfl
          rw [first]
          by_cases own : target = handle <;>
            simp [Recording.handle, isByHand, own, Nat.add_assoc]

end Recording

namespace Machine

/-- The failures in which calls of callbacks end at this moment, and which are caught: the
caller waits for the call, or a task that was started for it ends, or it has given back a
future that has ended. -/
def caughtFailures (machine : Machine) : List Failure :=
  match machine.control with
  | .busy ⟨_, frame :: _⟩ (.reply reply) => (frame.failure? machine.world.looping reply).toList
  | .busy ⟨some task, []⟩ (.reply reply) =>
    (machine.notices task).filterMap fun notice => notice.failure? reply
  | .busy _ (.adopt task target handle) =>
    ((machine.outcomeOf task).bind (Notice.handlerEnded target handle).failure?).toList
  | _ => []

/-- The failures that no dispatcher has heard of yet. -/
def untold (machine : Machine) : List Failure :=
  machine.ready.filterMap Job.failure?

/-- The recordings of a run, the oldest first. -/
def journal (choices : List Choice) (past : List Machine) : List Recording :=
  (past.zip choices).filterMap fun (state, choice) => state.recording? choice

variable {start machine next : Machine} {choice : Choice} {choices : List Choice}
  {past : List Machine}

theorem untold_append {more : List Job} (ready : next.ready = machine.ready ++ more)
    (silent : more.filterMap Job.failure? = []) : next.untold = machine.untold := by
  rw [untold, ready, List.filterMap_append, silent, List.append_nil, untold]

theorem untold_watchAll (waiter : Nat) (machine : Machine) (tasks : List TaskId) :
    (tasks.foldl (watch (.release waiter)) machine).untold = machine.untold := by
  induction tasks generalizing machine with
  | nil => rfl
  | cons task rest induction =>
      rw [List.foldl_cons, induction]
      unfold watch
      split
      · exact untold_append rfl rfl
      · rfl

/-- A thread that ends leaves its failures to be told. -/
theorem untold_finish (machine : Machine) (owner : Option TaskId) (reply : Reply)
    (busy : machine.control = .busy ⟨owner, []⟩ (.reply reply)) :
    (machine.finish owner reply).untold = machine.untold ++ machine.caughtFailures := by
  cases owner with
  | none => simp [finish, untold, caughtFailures, busy]
  | some task =>
      have told : ((machine.notices task).map fun notice => Job.tell task notice reply).filterMap
          Job.failure? = (machine.notices task).filterMap fun notice => notice.failure? reply := by
        rw [List.filterMap_map]
        rfl
      simp only [caughtFailures, busy, ← told]
      simp [untold, finish, notices]

/-- The focus is that of a call that has ended, or of a future that is taken on. -/
def concludes : Focus → Bool
  | .reply _ | .adopt .. => true
  | _ => false

theorem untold_advance {thread : Thread} {focus : Focus} (going : concludes focus = false) :
    (machine.advance thread focus).untold = machine.untold := by
  have deals := advance_deals machine thread focus
  generalize machine.advance thread focus = next at deals
  cases deals with
  | quiet tasks ready => simp only [untold, ready]
  | opens | registers => rfl
  | creates | starts => exact untold_append rfl rfl
  | waits tasks => exact untold_watchAll _ _ _
  | ends | adopts => cases going

/-- The failure of a future that has ended is told in its turn. -/
theorem untold_adopt {thread : Thread} {task : TaskId} {target : Ref .dispatcher}
    {handle : Ref .handle} (busy : machine.control = .busy thread (.adopt task target handle)) :
    (machine.adopt thread task target handle).untold =
      machine.untold ++ machine.caughtFailures := by
  rcases adopt_cases machine thread task target handle with ⟨-, adopts⟩ | ⟨absent, refuses⟩
  · rw [adopts]
    simp only [caughtFailures, busy, outcomeOf, untold, go, watch]
    cases (machine.tasks[task.index]?).bind (·.outcome) with
    | none => simp
    | some reply =>
        simp only [enqueue, List.filterMap_append, Option.bind_some]
        congr 1
  · rw [refuses]
    simp [caughtFailures, busy, outcomeOf, untold, go, List.getElem?_eq_none absent]

theorem caughtFailures_of_going {thread : Thread} {focus : Focus}
    (busy : machine.control = .busy thread focus) (going : concludes focus = false) :
    machine.caughtFailures = [] ∧
      (thread.recording? machine.world focus).bind Recording.failure? = none := by
  cases focus with
  | reply | adopt => cases going
  | call target arguments =>
      refine ⟨by simp [caughtFailures, busy], ?_⟩
      simp only [Thread.recording?, Value.byHand?]
      split
      · split <;> rfl
      · rfl
  | _ => exact ⟨by simp [caughtFailures, busy], rfl⟩

/-- A turn records the failure in which a call ends, or leaves it to be told. -/
theorem advance_failures {thread : Thread} {focus : Focus}
    (busy : machine.control = .busy thread focus) :
    (machine.caughtFailures ++ machine.untold).Perm
      (((thread.recording? machine.world focus).bind Recording.failure?).toList ++
        (machine.advance thread focus).untold) := by
  have quiet (going : concludes focus = false) : (machine.caughtFailures ++ machine.untold).Perm
      (((thread.recording? machine.world focus).bind Recording.failure?).toList ++
        (machine.advance thread focus).untold) := by
    obtain ⟨calm, silent⟩ := caughtFailures_of_going busy going
    rw [calm, silent, untold_advance going]
    exact .refl _
  cases focus with
  | adopt task target handle =>
      rw [advance, untold_adopt busy]
      exact List.perm_append_comm
  | reply reply =>
      obtain ⟨owner, stack⟩ := thread
      cases stack with
      | nil =>
          simp only [advance, Thread.recording?, untold_finish machine owner reply busy]
          exact List.perm_append_comm
      | cons frame rest =>
          have own : ((frame.failure? machine.world.looping reply).map Recording.caught).bind
              Recording.failure? = frame.failure? machine.world.looping reply := by
            cases frame.failure? machine.world.looping reply <;> rfl
          simp only [caughtFailures, busy, Thread.recording?, own]
          exact .refl _
  | _ => exact quiet rfl

/-- A failure that is told is taken from those that no dispatcher has heard of. -/
theorem untold_serve (machine : Machine) (job : Job) :
    (machine.serve job).untold = machine.untold := by
  cases job with
  | go thread focus => rfl
  | tell task notice reply =>
      cases loud : notice.announces with
      | true =>
          obtain ⟨world, told⟩ := tell_loud machine task reply loud
          simp only [serve, told]
          rfl
      | false =>
          cases notice with
          | loopEnded | handlerEnded => cases loud
          | release waiter =>
              simp only [serve, tell]
              split
              · exact untold_append rfl rfl
              · rfl

theorem follow_failures (follows : machine.follow? choice = some next) :
    (machine.caughtFailures ++ machine.untold).Perm
      (((machine.recording? choice).bind Recording.failure?).toList ++ next.untold) := by
  cases control : machine.control with
  | busy thread focus =>
      cases choice with
      | turn =>
          rw [follow?_turn control] at follows
          cases follows
          simp only [recording?, control]
          exact advance_failures control
      | _ => simp [follow?, control] at follows
  | idle =>
      have calm : machine.caughtFailures = [] := by simp [caughtFailures, control]
      have quiet (silent : machine.recording? choice = none)
          (same : next.untold = machine.untold) :
          (machine.caughtFailures ++ machine.untold).Perm
            (((machine.recording? choice).bind Recording.failure?).toList ++ next.untold) := by
        rw [calm, silent, same]
        exact .refl _
      cases choice with
      | turn => simp [follow?, control] at follows
      | take place =>
          rw [follow?_take control] at follows
          obtain ⟨job, found, rfl⟩ := Option.map_eq_some_iff.mp follows
          obtain ⟨inside, rfl⟩ := List.getElem?_eq_some_iff.mp found
          have own : ((machine.ready[place].failure?).map Recording.caught).bind
              Recording.failure? = machine.ready[place].failure? := by
            cases machine.ready[place].failure? <;> rfl
          simp only [calm, recording?, control, found, Option.bind_some, own, untold_serve,
            List.nil_append]
          have split := (List.getElem_cons_eraseIdx_perm inside).symm.filterMap Job.failure?
          refine split.trans (.of_eq ?_)
          rw [List.filterMap_cons]
          cases machine.ready[place].failure? <;> rfl
      | wake place =>
          rw [follow?_wake control] at follows
          obtain ⟨sleeper, -, rfl⟩ := Option.map_eq_some_iff.mp follows
          exact quiet (by simp [recording?, control]) (untold_append rfl rfl)
      | enter program =>
          rw [follow?_enter control] at follows
          split at follows
          · cases follows
            exact quiet (by simp [recording?, control]) rfl
          · cases follows
      | launch work =>
          rw [follow?_launch control] at follows
          cases follows
          exact quiet (by simp [recording?, control]) (untold_append rfl rfl)
      | clock looping now trace =>
          rw [follow?_clock control] at follows
          cases follows
          exact quiet (by simp [recording?, control]) rfl

theorem Play.length (play : Play start choices past machine) : choices.length = past.length := by
  induction play with
  | refl => rfl
  | move _ _ induction => simp [induction]

theorem journal_snoc (play : Play start choices past machine) (choice : Choice) :
    journal (choices ++ [choice]) (past ++ [machine]) =
      journal choices past ++ (machine.recording? choice).toList := by
  rw [journal, List.zip_append play.length.symm, List.filterMap_append, journal]
  cases recorded : machine.recording? choice <;> simp [recorded]

/-- Every failure in which a call has ended is in the journal, or is still to be told. -/
theorem Play.failures (play : Play start choices past machine) (quiet : start.untold = []) :
    (past.flatMap Machine.caughtFailures).Perm
      ((journal choices past).filterMap Recording.failure? ++ machine.untold) := by
  induction play with
  | refl => simp [journal, quiet]
  | @move choices past machine next choice play follows induction =>
      have told : ((machine.recording? choice).toList).filterMap Recording.failure? =
          ((machine.recording? choice).bind Recording.failure?).toList := by
        cases recorded : machine.recording? choice with
        | none => rfl
        | some recording => cases recording <;> rfl
      rw [journal_snoc play, List.flatMap_append, List.filterMap_append, told,
        List.flatMap_singleton, List.append_assoc]
      refine (induction.append_right _).trans ?_
      rw [List.append_assoc]
      exact (List.perm_append_comm.trans (follow_failures follows)).append_left _

/-- A handle has failed as often as this was recorded, and remembers the latest time. -/
structure Tallied (handle : Ref .handle) (recordings : List Recording) (world : World) :
    Prop where
  count : (world.handles.get handle).failures = recordings.length
  last : (world.handles.get handle).Remembers recordings.getLast?
  known : recordings ≠ [] → world.handles.Has handle

section Tallied

variable {handle : Ref .handle} {recordings : List Recording} {old new : World}

theorem Tallied.same (tallied : Tallied handle recordings old) (grows : World.Grows old new)
    (dossier : new.dossiers handle = old.dossiers handle) : Tallied handle recordings new := by
  obtain ⟨failures, last⟩ := Prod.ext_iff.mp dossier
  refine ⟨failures.trans tallied.count, ?_, fun some => (grows.handles _ (tallied.known some)).1⟩
  have remembered := tallied.last
  cases latest : recordings.getLast? with
  | none =>
      rw [latest] at remembered
      exact last.trans remembered
  | some recording =>
      rw [latest] at remembered
      obtain ⟨cause, identity, caused, wrapped⟩ := remembered
      have has : old.handles.Has handle := by
        refine tallied.known ?_
        rintro rfl
        cases latest
      obtain ⟨-, succeeds⟩ := grows.handles handle has
      refine ⟨cause, identity, caused, ?_⟩
      rw [succeeds.id, succeeds.kind]
      exact last.trans wrapped

theorem Tallied.recorded {recording : Recording} (tallied : Tallied recording.handle recordings old)
    (grows : World.Grows old new) (has : old.handles.Has recording.handle)
    (dossier : new.dossiers recording.handle = (old.record recording).dossiers recording.handle) :
    Tallied recording.handle (recordings ++ [recording]) new := by
  obtain ⟨cause, identity, caused, noted⟩ := World.dossiers_record has
  obtain ⟨later, succeeds⟩ := grows.handles _ has
  obtain ⟨failures, last⟩ := Prod.ext_iff.mp (dossier.trans noted)
  refine ⟨?_, ?_, fun _ => later⟩
  · rw [List.length_append, ← tallied.count]
    exact failures
  · rw [List.getLast?_concat]
    refine ⟨cause, identity, caused, ?_⟩
    rw [succeeds.id, succeeds.kind]
    exact last

end Tallied

theorem Play.tallied {looping : Bool} {registry : Registry} {names : List (String × Value)}
    (play : Play (initial (.initial looping registry) names) choices past machine)
    (handle : Ref .handle) :
    Tallied handle ((journal choices past).filter fun recording => recording.handle = handle)
      machine.world := by
  induction play with
  | refl =>
      refine ⟨rfl, rfl, fun some => absurd rfl some⟩
  | @move choices past machine next choice play follows induction =>
      have blames := play.run.blames
      have grows := (Move.of_follow? follows).grows
        (play.run.sound (sound_initial looping registry names))
      have dossiers := congrFun (follow_dossiers follows blames.running) handle
      rw [journal_snoc play, List.filter_append]
      cases recorded : machine.recording? choice with
      | none =>
          rw [recorded] at dossiers
          simpa using induction.same grows dossiers
      | some recording =>
          rw [recorded] at dossiers
          by_cases own : recording.handle = handle
          · subst own
            simpa using induction.recorded grows (blames.recording recorded) dossiers
          · have other := dossiers.trans (World.dossiers_record_of_ne (Ne.symm own))
            simpa [own] using induction.same grows other

/-- How a machine goes on after a failure: the press serves the other handlers, and the
loop sleeps before it iterates again, unless its handle has been destroyed.  Nothing
waits for a dispatcher that is told of the end of a task. -/
inductive GoesOn (world : World) (failure : Failure) : Control → Control → Prop where
  | press {owner : Option TaskId} {stack : List Frame} {target : Ref .dispatcher}
      {rest : List (Ref .handle)} {reply : Reply} (caller : failure.caller = .press target) :
      GoesOn world failure
        (.busy ⟨owner, .pressing target failure.handle rest :: stack⟩ (.reply reply))
        (.busy ⟨owner, stack⟩ (world.serve target rest))
  | loop {owner : Option TaskId} {stack : List Frame} {frame : Frame} {target : Ref .scheduler}
      {reply : Reply} (caller : failure.caller = .loop target)
      (active : (world.handles.get failure.handle).isActive = true) :
      GoesOn world failure (.busy ⟨owner, frame :: stack⟩ (.reply reply))
        (.busy ⟨owner, stack⟩
          (.within (.loopSlept target failure.handle)
            (.sleep (world.schedulers.get target).interval)))
  | stops {owner : Option TaskId} {stack : List Frame} {frame : Frame} {target : Ref .scheduler}
      {reply : Reply} (caller : failure.caller = .loop target)
      (inert : (world.handles.get failure.handle).isActive = false) :
      GoesOn world failure (.busy ⟨owner, frame :: stack⟩ (.reply reply))
        (.busy ⟨owner, stack⟩ .nothing)
  | told : GoesOn world failure .idle .idle

/-- A failure is recorded on its handle and logged once.  No other object of the world
changes, but that a task which has ended is struck off; no job, task or call begins. -/
structure Endures (failure : Failure) (machine next : Machine) : Prop where
  handles : ∃ cause, next.world.handles =
    machine.world.handles.modify failure.handle (·.recordFailure cause)
  dispatchers : next.world.dispatchers = machine.world.dispatchers ∨
    ∃ target task, next.world.dispatchers = machine.world.dispatchers.modify target
      fun dispatcher => { dispatcher with background := dispatcher.background.erase task }
  world : next.world =
    { machine.world with
      handles := next.world.handles
      dispatchers := next.world.dispatchers
      identities := next.world.identities
      trace := next.world.trace }
  logged : next.world.failureLog = next.world.failureEntry failure :: machine.world.failureLog
  ready : next.ready.Sublist machine.ready
  rest : next =
    { machine with world := next.world, ready := next.ready, control := next.control }
  goes : GoesOn next.world failure machine.control next.control

/-- Only the trace may show that the caller went on. -/
theorem endures_of_blame {failure : Failure} {trace : List Entry}
    (has : machine.world.handles.Has failure.handle)
    (world : next.world = { machine.world.blame failure with trace })
    (silent : trace.filter Entry.isFailure = (machine.world.blame failure).failureLog)
    (ready : next.ready.Sublist machine.ready)
    (rest : next =
      { machine with world := next.world, ready := next.ready, control := next.control })
    (goes : GoesOn next.world failure machine.control next.control) :
    Endures failure machine next := by
  obtain ⟨cause, _, blamed⟩ := World.blame_eq machine.world failure
  refine ⟨⟨cause, by rw [world, blamed]⟩, .inl (by rw [world, blamed]), ?_, ?_, ready, rest, goes⟩
  · rw [world, blamed]
  · have logged := World.failureLog_blame has
    rw [world]
    exact silent.trans logged

theorem endures_loop {owner : Option TaskId} {frame : Frame} {stack : List Frame}
    {reply : Reply} {failure : Failure} {target : Ref .scheduler}
    (busy : machine.control = .busy ⟨owner, frame :: stack⟩ (.reply reply))
    (caller : failure.caller = .loop target) (has : machine.world.handles.Has failure.handle) :
    Endures failure machine (machine.go ⟨owner, stack⟩
      ((machine.world.blame failure).continueLoop target failure.handle)) := by
  unfold World.continueLoop
  simp only
  by_cases active : ((machine.world.blame failure).handles.get failure.handle).isActive = true
  · rw [if_pos active]
    refine endures_of_blame has rfl rfl (.refl _) rfl ?_
    rw [busy]
    exact .loop caller active
  · rw [if_neg active]
    refine endures_of_blame has rfl ?_ (.refl _) rfl ?_
    · exact List.filter_cons_of_neg Bool.false_ne_true
    · rw [busy]
      exact .stops caller (Bool.eq_false_iff.mpr active)

theorem endures_turn {owner : Option TaskId} {frame : Frame} {stack : List Frame}
    {reply : Reply} {failure : Failure}
    (busy : machine.control = .busy ⟨owner, frame :: stack⟩ (.reply reply))
    (failed : frame.failure? machine.world.looping reply = some failure)
    (has : machine.world.handles.Has failure.handle) :
    Endures failure machine (machine.advance ⟨owner, frame :: stack⟩ (.reply reply)) := by
  simp only [advance, World.resume_failed failed]
  cases Frame.catches_of_failure? failed with
  | pressing kept =>
      refine endures_of_blame has rfl rfl (.refl _) rfl ?_
      rw [busy]
      exact .press rfl
  | iterating kept | iterationAwaits kept => exact endures_loop busy rfl has

/-- A dispatcher that hears of a failure strikes the task off before it records it. -/
theorem endures_told {before after : List Job} {task : TaskId} {notice : Notice} {reply : Reply}
    {failure : Failure} (idle : machine.control = .idle)
    (queued : machine.ready = before ++ .tell task notice reply :: after)
    (failed : notice.failure? reply = some failure)
    (has : machine.world.handles.Has failure.handle) :
    Endures failure machine
      ({ machine with ready := before ++ after }.tell task notice reply) := by
  obtain ⟨caller, handle, fault⟩ := failure
  obtain ⟨target, rfl, rfl, kept, rfl⟩ := Notice.eq_of_failure? failed
  let struck := machine.world.setDispatcher target fun dispatcher =>
    { dispatcher with background := dispatcher.background.erase task }
  obtain ⟨cause, trace, blamed⟩ := World.blame_eq struck ⟨.press target, handle, fault⟩
  have logged : (struck.blame ⟨.press target, handle, fault⟩).failureLog = _ :=
    World.failureLog_blame (show struck.handles.Has handle from has)
  have told : ({ machine with ready := before ++ after }.tell task
      (.handlerEnded target handle) (.error fault)) =
      { machine with
        ready := before ++ after
        world := struck.blame ⟨.press target, handle, fault⟩ } := by
    simp only [tell, World.noteOutcome_eq _ target handle, failed]
    rfl
  rw [told]
  refine ⟨⟨cause, congrArg World.handles blamed⟩,
    .inr ⟨target, task, congrArg World.dispatchers blamed⟩, ?_, logged, ?_, rfl, ?_⟩
  · simp only [blamed]
    rfl
  · rw [queued]
    exact (List.Sublist.refl before).append (List.sublist_cons_self _ after)
  · simp only [idle]
    exact .told

end Machine

end Microboard
