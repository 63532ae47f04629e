import Microboard.Proofs.World.Calls

/-!
# Blame

Callbacks are called by the loops of schedulers and by the presses of dispatchers.  An
ordinary fault in which such a call ends is caught by the caller and put down to the
handle, if it has a text; so is the lack of an event loop for a handler that has to be
awaited.
-/

namespace Microboard

inductive Caller where
  | loop (scheduler : Ref .scheduler)
  | press (dispatcher : Ref .dispatcher)
deriving DecidableEq, Repr

namespace Caller

def logger : Caller → Logger
  | loop _ => .scheduler
  | press _ => .buttons

def heading : Caller → String
  | loop _ => "Error in forever loop: "
  | press _ => "Error in button handler: "

end Caller

/-- The fault in which a call of the callback of a handle has ended. -/
structure Failure where
  caller : Caller
  handle : Ref .handle
  fault : Fault

namespace Failure

/-- Only faults that do not get past the caller are caught. -/
def caught? (caller : Caller) (handle : Ref .handle) (fault : Fault) : Option Failure :=
  match fault.escape? with
  | some _ => none
  | none => some ⟨caller, handle, fault⟩

def ordinary? (caller : Caller) (handle : Ref .handle) (fault : Fault) : Option Failure :=
  if fault.isOrdinary then some ⟨caller, handle, fault⟩ else none

theorem caught?_eq_some {caller : Caller} {handle : Ref .handle} {fault : Fault}
    {failure : Failure} (caught : caught? caller handle fault = some failure) :
    fault.escape? = none ∧ failure = ⟨caller, handle, fault⟩ := by
  unfold caught? at caught
  split at caught
  next => cases caught
  next kept =>
    cases caught
    exact ⟨kept, rfl⟩

end Failure

/-- The failure that a caller is told of by the reply that its frame waits for. -/
def Frame.failure? (looping : Bool) : Frame → Reply → Option Failure
  | .pressing target handle _, .error fault => Failure.caught? (.press target) handle fault
  | .pressing target handle _, .ok value =>
    if value.work?.isSome && !looping then
      some ⟨.press target, handle, .complaint .noEventLoop⟩
    else none
  | .iterating target handle, .error fault | .iterationAwaits target handle, .error fault =>
    Failure.caught? (.loop target) handle fault
  | _, _ => none

/-- The failure that a dispatcher is told of by the end of a task. -/
def Notice.failure? : Notice → Reply → Option Failure
  | .handlerEnded target handle, .error fault => Failure.caught? (.press target) handle fault
  | _, _ => none

/-- Whether the fault has a text, without which nothing is recorded. -/
def Failure.isWritten (failure : Failure) : Bool :=
  failure.fault.textFault?.isNone

/-- The ordinary failure in which a call has ended, whether or not it can be caught. -/
def Frame.fails? (looping : Bool) : Frame → Reply → Option Failure
  | .pressing target handle _, .error fault => Failure.ordinary? (.press target) handle fault
  | .iterating target handle, .error fault | .iterationAwaits target handle, .error fault =>
    Failure.ordinary? (.loop target) handle fault
  | frame, reply => frame.failure? looping reply

/-- The ordinary failure in which a task has ended, whether or not it can be caught. -/
def Notice.fails? : Notice → Reply → Option Failure
  | .handlerEnded target handle, .error fault => Failure.ordinary? (.press target) handle fault
  | _, _ => none

theorem Failure.caught?_eq (caller : Caller) (handle : Ref .handle) (fault : Fault) :
    caught? caller handle fault = (ordinary? caller handle fault).filter isWritten := by
  unfold caught? ordinary? Fault.escape?
  cases fault.isOrdinary with
  | false => rfl
  | true =>
      rw [if_pos rfl, if_pos rfl]
      cases written : fault.textFault? <;> simp [Option.filter, isWritten, written]

theorem Frame.failure?_eq (frame : Frame) (looping : Bool) (reply : Reply) :
    frame.failure? looping reply = (frame.fails? looping reply).filter Failure.isWritten := by
  cases frame with
  | pressing target handle rest =>
      cases reply with
      | error fault => exact Failure.caught?_eq _ _ _
      | ok value =>
          simp only [fails?, failure?]
          split <;> rfl
  | iterating | iterationAwaits =>
      cases reply with
      | error fault => exact Failure.caught?_eq _ _ _
      | ok value => rfl
  | _ => cases reply <;> rfl

theorem Notice.failure?_eq (notice : Notice) (reply : Reply) :
    notice.failure? reply = (notice.fails? reply).filter Failure.isWritten := by
  cases notice with
  | handlerEnded target handle =>
      cases reply with
      | error fault => exact Failure.caught?_eq _ _ _
      | ok value => rfl
  | _ => cases reply <;> rfl

/-- The handle that a frame may put a failure down to is a known one. -/
def Frame.Blames (known : Ref .handle → Prop) : Frame → Prop
  | .pressing _ handle _ | .iterating _ handle | .iterationAwaits _ handle => known handle
  | _ => True

def Notice.Blames (known : Ref .handle → Prop) : Notice → Prop
  | .handlerEnded _ handle => known handle
  | _ => True

def Focus.Blames (known : Ref .handle → Prop) : Focus → Prop
  | .within frame focus => frame.Blames known ∧ focus.Blames known
  | .start _ notice => notice.Blames known
  | .adopt _ _ handle => known handle
  | _ => True

variable {known more : Ref .handle → Prop}

theorem Frame.blames_all (all : ∀ handle, known handle) (frame : Frame) :
    frame.Blames known := by
  cases frame with
  | pressing | iterating | iterationAwaits => exact all _
  | _ => trivial

theorem Frame.Blames.mono (grows : ∀ handle, known handle → more handle) {frame : Frame}
    (blames : frame.Blames known) : frame.Blames more := by
  cases frame with
  | pressing | iterating | iterationAwaits => exact grows _ blames
  | _ => trivial

theorem Notice.Blames.mono (grows : ∀ handle, known handle → more handle) {notice : Notice}
    (blames : notice.Blames known) : notice.Blames more := by
  cases notice with
  | handlerEnded => exact grows _ blames
  | _ => trivial

theorem Focus.Blames.mono (grows : ∀ handle, known handle → more handle) {focus : Focus}
    (blames : focus.Blames known) : focus.Blames more := by
  induction focus with
  | within frame focus induction => exact ⟨blames.1.mono grows, induction blames.2⟩
  | start work notice => exact Notice.Blames.mono grows blames
  | adopt task target handle => exact grows _ blames
  | _ => trivial

/-- A frame that is told of a failure waits for a call of the handle, on behalf of the
caller; the fault does not get past it. -/
inductive Frame.Catches : Frame → Failure → Prop where
  | pressing {target : Ref .dispatcher} {handle : Ref .handle} {rest : List (Ref .handle)}
      {fault : Fault} (kept : fault.escape? = none) :
      Catches (.pressing target handle rest) ⟨.press target, handle, fault⟩
  | iterating {target : Ref .scheduler} {handle : Ref .handle} {fault : Fault}
      (kept : fault.escape? = none) :
      Catches (.iterating target handle) ⟨.loop target, handle, fault⟩
  | iterationAwaits {target : Ref .scheduler} {handle : Ref .handle} {fault : Fault}
      (kept : fault.escape? = none) :
      Catches (.iterationAwaits target handle) ⟨.loop target, handle, fault⟩

theorem Frame.Catches.kept {frame : Frame} {failure : Failure}
    (catches : frame.Catches failure) : failure.fault.escape? = none := by
  cases catches with
  | pressing kept | iterating kept | iterationAwaits kept => exact kept

theorem Frame.catches_of_failure? {frame : Frame} {looping : Bool} {reply : Reply}
    {failure : Failure} (failed : frame.failure? looping reply = some failure) :
    frame.Catches failure := by
  cases frame with
  | pressing target handle rest =>
      cases reply with
      | error fault =>
          obtain ⟨kept, rfl⟩ := Failure.caught?_eq_some failed
          exact .pressing kept
      | ok value =>
          simp only [failure?] at failed
          split at failed
          · cases failed
            exact .pressing rfl
          · cases failed
  | iterating target handle =>
      cases reply with
      | error fault =>
          obtain ⟨kept, rfl⟩ := Failure.caught?_eq_some failed
          exact .iterating kept
      | ok value => cases failed
  | iterationAwaits target handle =>
      cases reply with
      | error fault =>
          obtain ⟨kept, rfl⟩ := Failure.caught?_eq_some failed
          exact .iterationAwaits kept
      | ok value => cases failed
  | _ => cases failed

theorem Notice.eq_of_failure? {notice : Notice} {reply : Reply} {failure : Failure}
    (failed : notice.failure? reply = some failure) :
    ∃ target, notice = .handlerEnded target failure.handle ∧ failure.caller = .press target ∧
      failure.fault.escape? = none ∧ reply = .error failure.fault := by
  cases notice with
  | handlerEnded target handle =>
      cases reply with
      | error fault =>
          obtain ⟨kept, rfl⟩ := Failure.caught?_eq_some failed
          exact ⟨target, rfl, rfl, kept, rfl⟩
      | ok value => cases failed
  | _ => cases failed

theorem Frame.failure?_known {frame : Frame} (blames : frame.Blames known) {looping : Bool}
    {reply : Reply} {failure : Failure} (failed : frame.failure? looping reply = some failure) :
    known failure.handle := by
  cases catches_of_failure? failed with
  | pressing | iterating | iterationAwaits => exact blames

theorem Notice.failure?_known {notice : Notice} (blames : notice.Blames known) {reply : Reply}
    {failure : Failure} (failed : notice.failure? reply = some failure) :
    known failure.handle := by
  obtain ⟨target, rfl, -⟩ := eq_of_failure? failed
  exact blames

namespace World

def blame (world : World) (failure : Failure) : World :=
  world.noteFailure failure.caller.logger failure.caller.heading failure.handle failure.fault

def blamed (world : World) : Option Failure → World
  | none => world
  | some failure => world.blame failure

/-- A dispatcher blames a failure that it is told of by the end of a task. -/
theorem noteOutcome_eq (world : World) (target : Ref .dispatcher) (handle : Ref .handle)
    (reply : Reply) :
    world.noteOutcome handle reply =
      world.blamed ((Notice.handlerEnded target handle).failure? reply) := by
  cases reply with
  | ok value => rfl
  | error fault =>
      simp only [noteOutcome, Notice.failure?, Failure.caught?]
      cases fault.escape? <;> rfl

theorem noteOutcome_parts (world : World) (handle : Ref .handle) (reply : Reply) :
    (world.noteOutcome handle reply).schedulers = world.schedulers ∧
      (world.noteOutcome handle reply).dispatchers = world.dispatchers := by
  unfold noteOutcome
  split
  · split <;> exact ⟨rfl, rfl⟩
  · exact ⟨rfl, rfl⟩

/-- How a caller goes on after a failure: the next handler is served, or the loop goes on. -/
def survive (world : World) : Frame → World × Focus
  | .pressing target _ rest => (world, world.serve target rest)
  | .iterating target handle | .iterationAwaits target handle => world.continueLoop target handle
  | _ => (world, .nothing)

variable {world : World}

theorem resume_failed {frame : Frame} {reply : Reply} {failure : Failure}
    (failed : frame.failure? world.looping reply = some failure) :
    world.resume frame reply = (world.blame failure).survive frame := by
  cases frame with
  | pressing target handle rest =>
      cases reply with
      | error fault =>
          obtain ⟨kept, rfl⟩ := Failure.caught?_eq_some failed
          simp only [resume, kept]
          rfl
      | ok value =>
          simp only [Frame.failure?] at failed
          split at failed
          next awaited =>
            cases failed
            obtain ⟨work, idle⟩ := Bool.and_eq_true_iff.mp awaited
            obtain ⟨given, found⟩ := Option.isSome_iff_exists.mp work
            have silent : world.looping = false := by simpa using idle
            simp only [resume, found, silent, Bool.false_eq_true, if_false]
            rfl
          next => cases failed
  | iterating target handle | iterationAwaits target handle =>
      cases reply with
      | error fault =>
          obtain ⟨kept, rfl⟩ := Failure.caught?_eq_some failed
          simp only [resume, kept]
          rfl
      | ok value => cases failed
  | _ => cases failed

end World

end Microboard
