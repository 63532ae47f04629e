import Microboard.Proofs.World.Enrolment

/-!
# Recordings of failures

What the handles of a world remember of failures, and what the log tells of them.  Only
a recording changes either: that of a failure which a caller has caught, or one that a
script makes by hand.
-/

namespace Microboard

/-- A failure is recorded on a handle: by the caller that has caught it, or by hand. -/
inductive Recording where
  | caught (failure : Failure)
  | byHand (handle : Ref .handle) (cause : Value)

namespace Recording

def handle : Recording → Ref .handle
  | caught failure => failure.handle
  | byHand handle _ => handle

def failure? : Recording → Option Failure
  | caught failure => some failure
  | byHand .. => none

/-- What the recording wraps: the caught fault, as a new object, or what was given. -/
def CausedBy : Recording → Value → Prop
  | caught failure, cause => ∃ identity, cause = .fault failure.fault identity
  | byHand _ given, cause => cause = given

end Recording

/-- What a handle remembers if this was the latest recording: nothing without one. -/
def Handle.Remembers (record : Handle) : Option Recording → Prop
  | none => record.lastFailure = .none
  | some recording => ∃ cause identity, recording.CausedBy cause ∧
      record.lastFailure =
        .fault (.callbackFailure (.int record.id) (.str record.kind) cause) identity

/-- The recording that calling a value makes by hand, on a handle that exists and of a
cause that has a text. -/
def Value.byHand? (world : World) (arguments : Arguments) : Value → Option Recording
  | .method (.handle target .recordFailure) =>
    if world.handles.Has target ∧ (arguments.get 0 "exc").textFault? = Option.none then
      some (.byHand target (arguments.get 0 "exc"))
    else Option.none
  | _ => Option.none

namespace World

/-- How often a handle has failed, and its latest failure. -/
def dossiers (world : World) (handle : Ref .handle) : Nat × Value :=
  ((world.handles.get handle).failures, (world.handles.get handle).lastFailure)

def failureLog (world : World) : List Entry :=
  world.trace.filter Entry.isFailure

def accounts (world : World) : (Ref .handle → Nat × Value) × List Entry :=
  (world.dossiers, world.failureLog)

def record (world : World) : Recording → World
  | .caught failure => world.blame failure
  | .byHand handle cause => (world.storeFailure handle cause).1

def recorded (world : World) : Option Recording → World
  | none => world
  | some recording => world.record recording

/-- The entry that tells of the latest failure of a handle. -/
def failureEntry (world : World) (failure : Failure) : Entry :=
  .log .error failure.caller.logger
    (failure.caller.heading ++
      ((world.handles.get failure.handle).lastFailure).text world.describe)

variable {world : World} {known : Ref .handle → Prop}

theorem accounts_setHandle (target : Ref .handle) {change : Handle → Handle}
    (failures : ∀ handle, (change handle).failures = handle.failures)
    (last : ∀ handle, (change handle).lastFailure = handle.lastFailure) :
    (world.setHandle target change).accounts = world.accounts := by
  refine Prod.ext (funext fun other => Prod.ext ?_ ?_) rfl
  · exact world.handles.get_modify_field Handle.failures change failures target other
  · exact world.handles.get_modify_field Handle.lastFailure change last target other

theorem accounts_observe (world : World) {entry : Entry} (quiet : entry.isFailure = false) :
    (world.observe entry).accounts = world.accounts := by
  refine Prod.ext rfl ?_
  simp [accounts, failureLog, World.observe, quiet]

theorem stable_accounts : Stable (Same accounts) where
  refl _ := rfl
  trans first second := Eq.trans second first
  same _ _ handles trace := by
    refine Prod.ext (funext fun handle => ?_) ?_
    · simp only [accounts, dossiers, handles]
    · simp only [accounts, failureLog, trace]
  observe world _ harmless := accounts_observe world (Entry.isFailure_of_not_error harmless)
  activate _ target := by
    refine accounts_setHandle target (fun handle => ?_) fun handle => ?_ <;>
      · unfold Handle.activate?
        split <;> rfl
  destroy _ target := accounts_setHandle target (fun _ => rfl) fun _ => rfl
  dropHandlers _ _ _ _ := rfl
  newScheduler _ _ _ := rfl
  newDispatcher _ _ _ := rfl

theorem accounts_createHandle (world : World) (table : Ref .table) (callback : Value)
    (kind : String) : (world.createHandle table callback kind).1.accounts = world.accounts := by
  unfold createHandle
  split
  · refine Prod.ext (funext fun other => Prod.ext ?_ ?_) rfl
    · exact world.handles.get_push_field Handle.failures (show _ = 0 from rfl) other
    · exact world.handles.get_push_field Handle.lastFailure (show _ = Value.none from rfl) other
  · rfl

theorem Leaves.calm {α : Type} {view : World → α} {next : World × Focus}
    (leaves : Leaves (Same view) known world next) :
    view next.1 = view world ∧ next.2.Blames known :=
  ⟨leaves.keeps, leaves.blames⟩

theorem startLoop_accounts (target : Ref .scheduler) (callback : Value) :
    (world.startLoop target callback).1.accounts = world.accounts ∧
      (world.startLoop target callback).2.Blames known := by
  have created := accounts_createHandle world (world.schedulers.get target).table callback
    "forever"
  unfold startLoop
  split
  · exact ⟨rfl, trivial⟩
  · split
    next result =>
      rw [result] at created
      exact ⟨created, trivial⟩
    next result =>
      rw [result] at created
      exact ⟨Eq.trans (stable_accounts.activate _ _) created, trivial, trivial⟩

theorem registerHandler_accounts (target : Ref .dispatcher) (button handler : Value) :
    (world.registerHandler target button handler).1.accounts = world.accounts ∧
      (world.registerHandler target button handler).2.Blames known := by
  unfold registerHandler
  split
  · exact ⟨rfl, trivial⟩
  next known _ =>
    have created := accounts_createHandle world (world.dispatchers.get target).table handler
      ("button " ++ known.name)
    simp only
    split
    next result =>
      rw [result] at created
      exact ⟨created, trivial⟩
    next result =>
      rw [result] at created
      exact ⟨Eq.trans (stable_accounts.activate _ _) created, trivial⟩

theorem create_accounts (target : Ref .table) (arguments : Arguments) :
    (world.callTable target .create arguments).1.accounts = world.accounts ∧
      (world.callTable target .create arguments).2.Blames known := by
  have created := accounts_createHandle world target (arguments.get 0 "callback")
    (arguments.get 1 "kind").plain
  unfold callTable
  simp only
  split
  next result =>
    rw [result] at created
    exact ⟨created, trivial⟩
  next result =>
    rw [result] at created
    exact ⟨created, trivial⟩

/-- A failure that is recorded by hand on a handle that does not exist is not kept. -/
theorem accounts_storeFailure (world : World) (target : Ref .handle) (cause : Value)
    (missing : ¬ world.handles.Has target) :
    (world.storeFailure target cause).1.accounts = world.accounts := by
  have untouched (change : Handle → Handle) (other : Ref .handle) :
      (world.handles.modify target change).get other = world.handles.get other := by
    by_cases same : other = target
    · subst same
      rw [Arena.get_of_not_has missing,
        Arena.get_of_not_has fun later => missing (Arena.has_modify.mp later)]
    · exact Arena.get_modify_of_ne _ _ same
  refine Prod.ext (funext fun other => ?_) rfl
  exact congrArg (fun record : Handle => (record.failures, record.lastFailure)) (untouched _ other)

theorem callMethod_accounts (world : World) (method : Method) (arguments : Arguments) :
    (world.callMethod method arguments).1.accounts =
        (world.recorded ((Value.method method).byHand? world arguments)).accounts ∧
      (world.callMethod method arguments).2.Blames known := by
  cases recorded : method.recorded? with
  | some target =>
      obtain rfl := Method.recorded?_eq_some recorded
      simp only [callMethod, Value.byHand?]
      rcases recordFailure_cases world target arguments with
        ⟨fault, unwritten, same⟩ | ⟨written, same⟩
      · rw [same, unwritten]
        simp only [reduceCtorEq, and_false, if_false]
        exact ⟨rfl, trivial⟩
      · rw [same, written]
        refine ⟨?_, trivial⟩
        by_cases has : world.handles.Has target
        · simp only [has, and_self, if_true]
          rfl
        · simp only [has, false_and, if_false]
          exact accounts_storeFailure world target _ has
  | none =>
      have silent : (Value.method method).byHand? world arguments = none := by
        unfold Value.byHand?
        split
        next same =>
          cases same
          cases recorded
        next => rfl
      rw [silent]
      cases listed : world.lists? method with
      | none =>
          exact (callMethod_leaves stable_accounts listed recorded).calm
      | some table =>
          cases Lists.of_lists? listed with
          | create target => exact create_accounts _ _
          | register | forever => exact startLoop_accounts _ _
          | handle | onButtonPressed => exact registerHandler_accounts _ _ _

theorem callValue_accounts (world : World) (target : Value) (arguments : Arguments) :
    (world.callValue target arguments).1.accounts =
        (world.recorded (target.byHand? world arguments)).accounts ∧
      (world.callValue target arguments).2.Blames known := by
  cases target with
  | method method => exact callMethod_accounts world method arguments
  | _ =>
      refine (callValue_leaves stable_accounts ?_).calm
      intro method same
      cases same

/-- The failure of a handle is recorded on it and written to the log; nothing else
changes. -/
theorem blame_eq (world : World) (failure : Failure) :
    ∃ cause trace, world.blame failure =
      { world with
        handles := world.handles.modify failure.handle (·.recordFailure cause)
        identities := world.identities + 2
        trace } :=
  ⟨_, _, rfl⟩

theorem failureLog_blame {failure : Failure} (has : world.handles.Has failure.handle) :
    (world.blame failure).failureLog =
      (world.blame failure).failureEntry failure :: world.failureLog := by
  obtain ⟨caller, handle, fault⟩ := failure
  have last : ((world.blame ⟨caller, handle, fault⟩).handles.get handle).lastFailure = _ :=
    congrArg Handle.lastFailure (Arena.get_modify_self _ has)
  simp only [failureEntry, last]
  cases caller <;> rfl

theorem dossiers_record_of_ne {recording : Recording} {handle : Ref .handle}
    (different : handle ≠ recording.handle) :
    (world.record recording).dossiers handle = world.dossiers handle := by
  cases recording with
  | caught failure =>
      have other : (world.blame failure).handles.get handle = _ :=
        Arena.get_modify_of_ne _ _ different
      simp only [dossiers, record, other]
  | byHand target cause =>
      have other : (world.storeFailure target cause).1.handles.get handle = _ :=
        Arena.get_modify_of_ne _ _ different
      simp only [dossiers, record, other]

/-- A recording counts once, and its cause is what the handle remembers. -/
theorem dossiers_record {recording : Recording} (has : world.handles.Has recording.handle) :
    ∃ cause identity, recording.CausedBy cause ∧
      (world.record recording).dossiers recording.handle =
        ((world.handles.get recording.handle).failures + 1,
          .fault (.callbackFailure (.int (world.handles.get recording.handle).id)
            (.str (world.handles.get recording.handle).kind) cause) identity) := by
  cases recording with
  | caught failure =>
      have self : (world.blame failure).handles.get failure.handle = _ :=
        Arena.get_modify_self _ has
      refine ⟨.fault failure.fault world.identities, world.identities + 1, ⟨_, rfl⟩, ?_⟩
      simp only [dossiers, record, Recording.handle, self]
      rfl
  | byHand target cause =>
      have self : (world.storeFailure target cause).1.handles.get target = _ :=
        Arena.get_modify_self _ has
      refine ⟨cause, world.identities, rfl, ?_⟩
      simp only [dossiers, record, Recording.handle, self]
      rfl

end World

end Microboard
