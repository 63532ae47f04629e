import Microboard.Proofs.Machine.Accounted
import Microboard.Proofs.Machine.Choices
import Microboard.Proofs.World.Recording

/-!
# Handles that are blamed

Which recording of a failure comes with a move of a machine, and that nothing else is
recorded.  Whatever may put a failure down to a handle, now or later, knows a handle that
exists.
-/

namespace Microboard

namespace Thread

/-- The recording that comes with the next turn of a thread. -/
def recording? (world : World) (thread : Thread) (focus : Focus) : Option Recording :=
  match focus, thread.stack with
  | .reply reply, frame :: _ => (frame.failure? world.looping reply).map .caught
  | .call target arguments, _ => target.byHand? world arguments
  | _, _ => none

structure Blames (known : Ref .handle → Prop) (thread : Thread) (focus : Focus) : Prop where
  frames : ∀ frame ∈ thread.stack, frame.Blames known
  focus : focus.Blames known

variable {known more : Ref .handle → Prop} {thread : Thread} {focus : Focus}

theorem Blames.mono (blames : thread.Blames known focus)
    (grows : ∀ handle, known handle → more handle) : thread.Blames more focus :=
  ⟨fun frame member => (blames.frames frame member).mono grows, blames.focus.mono grows⟩

theorem Blames.turn (blames : thread.Blames known focus) {next : Focus}
    (inside : next.Blames known) : thread.Blames known next :=
  ⟨blames.frames, inside⟩

end Thread

theorem Notice.announces_of_failure? {notice : Notice} {reply : Reply} {failure : Failure}
    (failed : notice.failure? reply = some failure) : notice.announces = true := by
  obtain ⟨target, rfl, -⟩ := eq_of_failure? failed
  rfl

namespace Job

def failure? : Job → Option Failure
  | .go .. => none
  | .tell _ notice reply => notice.failure? reply

end Job

/-- A setting of the clock, and of the trace with it. -/
def Choice.setsClock : Choice → Bool
  | clock .. => true
  | _ => false

theorem World.recorded_caught (world : World) (failure : Option Failure) :
    world.recorded (failure.map .caught) = world.blamed failure := by
  cases failure <;> rfl

namespace Machine

/-- The recording that comes with the move of a choice. -/
def recording? (machine : Machine) (choice : Choice) : Option Recording :=
  match machine.control, choice with
  | .busy thread focus, .turn => thread.recording? machine.world focus
  | .idle, .take place => ((machine.ready[place]?).bind Job.failure?).map .caught
  | _, _ => none

variable {machine next : Machine} {thread : Thread} {focus : Focus}

/-- What a turn keeps of the world's accounts, and whom the thread may blame after it. -/
structure Turns (machine : Machine) (recording : Option Recording) (next : Machine) : Prop where
  accounts : next.world.accounts = (machine.world.recorded recording).accounts
  blames : ∀ thread focus, next.control = .busy thread focus →
    thread.Blames machine.world.handles.Has focus

theorem Turns.goes {recording : Option Recording} {after : Thread} {focus : Focus}
    (control : next.control = .busy after focus)
    (accounts : next.world.accounts = (machine.world.recorded recording).accounts)
    (blames : after.Blames machine.world.handles.Has focus) : machine.Turns recording next where
  accounts := accounts
  blames other focus busy := by
    rw [control] at busy
    cases busy
    exact blames

theorem accounts_registerTask (world : World) (task : TaskId) (notice : Notice) :
    (registerTask world task notice).accounts = world.accounts := by
  cases notice <;> rfl

theorem advance_turns (blames : thread.Blames machine.world.handles.Has focus) :
    machine.Turns (thread.recording? machine.world focus) (machine.advance thread focus) := by
  cases focus with
  | reply reply =>
      obtain ⟨owner, stack⟩ := thread
      cases stack with
      | nil => cases owner <;> exact ⟨rfl, fun _ _ => Control.noConfusion⟩
      | cons frame rest =>
          obtain ⟨kept, -, may⟩ := World.resume_keeps World.stable_accounts.gentle
            (fun _ has => has) (blames.frames frame List.mem_cons_self)
            (fun _ _ => World.accounts_observe _ rfl) reply
          refine .goes rfl ?_ ⟨?_, may⟩
          · exact Eq.trans kept (congrArg _ (World.recorded_caught _ _).symm)
          · exact fun other member => blames.frames other (List.mem_cons_of_mem _ member)
  | within frame focus =>
      refine .goes rfl rfl ⟨?_, blames.focus.2⟩
      intro other member
      rcases List.mem_cons.mp member with rfl | member
      · exact blames.focus.1
      · exact blames.frames other member
  | run program =>
      cases program with
      | call | await => exact .goes rfl rfl (blames.turn ⟨trivial, trivial⟩)
      | report => exact .goes rfl (World.stable_accounts.observe _ rfl) (blames.turn trivial)
      | launch work next =>
          simp only [advance, Machine.run]
          split <;> exact .goes rfl rfl (blames.turn trivial)
      | _ => exact .goes rfl rfl (blames.turn trivial)
  | call target arguments =>
      simp only [advance, call]
      split
      · split <;> exact .goes rfl rfl (blames.turn trivial)
      · exact .goes rfl rfl (blames.turn trivial)
      · obtain ⟨accounts, focus⟩ := World.callValue_accounts machine.world target arguments
        exact .goes rfl accounts (blames.turn focus)
  | await work =>
      simp only [advance, await]
      split
      next task =>
        rcases join_cases machine thread task with ⟨reply, joins⟩ | joins
        · exact joins ▸ .goes rfl rfl (blames.turn trivial)
        · exact joins ▸ .goes rfl rfl (blames.turn ⟨trivial, trivial⟩)
      · exact .goes rfl rfl (blames.turn trivial)
      · have leaves : World.Leaves (World.Same World.accounts) machine.world.handles.Has
            machine.world _ :=
          World.begin_leaves World.stable_accounts work
        exact .goes rfl leaves.keeps (blames.turn leaves.blames)
  | invoke handle =>
      simp only [advance]
      split <;> exact .goes rfl rfl (blames.turn trivial)
  | publish bus event => exact .goes rfl rfl (blames.turn (World.publishRest_blames bus event _))
  | sleep interval =>
      simp only [advance, sleep]
      split
      · exact .goes rfl (World.stable_accounts.observe _ rfl) (blames.turn trivial)
      · exact ⟨World.stable_accounts.observe _ rfl, fun _ _ => Control.noConfusion⟩
  | start work notice => exact .goes rfl (accounts_registerTask _ _ _) (blames.turn trivial)
  | adopt task target handle =>
      rcases adopt_cases machine thread task target handle with ⟨-, adopts⟩ | ⟨-, refuses⟩
      · rw [advance, adopts]
        exact .goes rfl (accounts_registerTask _ _ _) (blames.turn trivial)
      · rw [advance, refuses]
        exact .goes rfl rfl (blames.turn trivial)
  | wait tasks =>
      obtain ⟨records, more, -, -, waits⟩ := wait_eq machine thread tasks
      simp only [advance, waits]
      exact ⟨rfl, fun _ _ => Control.noConfusion⟩

theorem tell_accounts (machine : Machine) (task : TaskId) (notice : Notice) (reply : Reply) :
    (machine.tell task notice reply).world.accounts =
      (machine.world.blamed (notice.failure? reply)).accounts := by
  cases notice with
  | loopEnded target id => rfl
  | handlerEnded target handle =>
      simp only [tell, World.noteOutcome_eq _ target handle reply]
      cases (Notice.handlerEnded target handle).failure? reply <;> rfl
  | release waiter =>
      simp only [tell]
      split <;> rfl

/-- Every move but a setting of the clock changes the accounts by its recording alone. -/
theorem follow_accounts {choice : Choice} (follows : machine.follow? choice = some next)
    (blames : ∀ thread focus, machine.control = .busy thread focus →
      thread.Blames machine.world.handles.Has focus)
    (timeless : choice.setsClock = false) :
    next.world.accounts = (machine.world.recorded (machine.recording? choice)).accounts := by
  cases control : machine.control with
  | busy thread focus =>
      cases choice with
      | turn =>
          rw [follow?_turn control] at follows
          cases follows
          simp only [recording?, control]
          exact (advance_turns (blames thread focus control)).accounts
      | _ => simp [follow?, control] at follows
  | idle =>
      cases choice with
      | turn => simp [follow?, control] at follows
      | take place =>
          rw [follow?_take control] at follows
          obtain ⟨job, found, rfl⟩ := Option.map_eq_some_iff.mp follows
          simp only [recording?, control, found, Option.bind_some, World.recorded_caught]
          cases job with
          | go thread focus => rfl
          | tell task notice reply => exact tell_accounts _ task notice reply
      | wake place =>
          rw [follow?_wake control] at follows
          obtain ⟨sleeper, -, rfl⟩ := Option.map_eq_some_iff.mp follows
          simp only [recording?, control]
          rfl
      | enter program =>
          rw [follow?_enter control] at follows
          split at follows
          · cases follows
            simp only [recording?, control]
            rfl
          · cases follows
      | launch work =>
          rw [follow?_launch control] at follows
          cases follows
          simp only [recording?, control]
          rfl
      | clock looping now trace => cases timeless

theorem follow_dossiers {choice : Choice} (follows : machine.follow? choice = some next)
    (blames : ∀ thread focus, machine.control = .busy thread focus →
      thread.Blames machine.world.handles.Has focus) :
    next.world.dossiers = (machine.world.recorded (machine.recording? choice)).dossiers := by
  cases choice with
  | clock looping now trace =>
      cases control : machine.control with
      | busy thread focus => simp [follow?, control] at follows
      | idle =>
          rw [follow?_clock control] at follows
          cases follows
          simp only [recording?, control]
          rfl
  | _ => exact congrArg Prod.fst (follow_accounts follows blames rfl)

/-- Everything that can put a failure down to a handle knows one that exists: the threads,
and the announcements of tasks that are due. -/
structure Blames (machine : Machine) : Prop where
  running : ∀ thread focus, machine.control = .busy thread focus →
    thread.Blames machine.world.handles.Has focus
  rests : machine.Rests (Thread.Blames machine.world.handles.Has)
  listed : ∀ task notice, notice ∈ machine.dues task → task.index < machine.tasks.length
  owed : ∀ task notice, notice ∈ machine.dues task → notice.Blames machine.world.handles.Has

theorem blames_initial (looping : Bool) (registry : Registry) (names : List (String × Value)) :
    (initial (.initial looping registry) names).Blames where
  running _ _ busy := nomatch busy
  rests := ⟨fun _ _ member => absurd member List.not_mem_nil,
    fun _ member => absurd member List.not_mem_nil,
    fun _ member => absurd member List.not_mem_nil⟩
  listed _ _ member := absurd member List.not_mem_nil
  owed _ _ member := absurd member List.not_mem_nil

theorem begins_blames (known : Ref .handle → Prop) : Begins (Thread.Blames known) where
  tasks _ _ := ⟨fun _ member => absurd member List.not_mem_nil, trivial⟩
  programs _ _ := ⟨fun _ member => absurd member List.not_mem_nil, trivial⟩
  spawned _ _ := by
    refine ⟨?_, trivial⟩
    intro frame member
    cases List.mem_singleton.mp member
    trivial

/-- Only the running thread knows new handles, and they exist. -/
theorem Blames.threads (blames : machine.Blames) (move : Move machine next) :
    (∀ thread focus, next.control = .busy thread focus →
        thread.Blames machine.world.handles.Has focus) ∧
      next.Rests (Thread.Blames machine.world.handles.Has) := by
  have begins := begins_blames machine.world.handles.Has
  cases control : machine.control with
  | idle =>
      obtain ⟨rests, running⟩ := blames.rests.idle begins control move
      exact ⟨running, rests⟩
  | busy thread focus =>
      have own := blames.running thread focus control
      rw [move.of_busy control]
      exact ⟨(advance_turns own).blames, blames.rests.advance begins fun _ => own.turn trivial⟩

/-- Every move leaves nothing behind that could blame a handle which does not exist. -/
theorem Blames.move (blames : machine.Blames) (sound : machine.Sound) (move : Move machine next) :
    next.Blames := by
  have grows (handle : Ref .handle) (has : machine.world.handles.Has handle) :
      next.world.handles.Has handle := ((move.grows sound).handles handle has).1
  obtain ⟨running, rests⟩ := blames.threads move
  constructor
  case running => exact fun thread focus busy => (running thread focus busy).mono grows
  case rests => exact rests.mono fun thread focus own => own.mono grows
  case listed =>
    intro task notice due
    rcases move.due due (blames.listed task) with
      earlier | ⟨thread, work, busy, rfl, rfl⟩ | ⟨thread, target, handle, busy, rfl, inside⟩
    · exact Nat.lt_of_lt_of_le (blames.listed task notice earlier) (move.tasks sound)
    · simp [advance, createTask, go]
    · exact Nat.lt_of_lt_of_le inside (move.tasks sound)
  case owed =>
    intro task notice due
    rcases move.due due (blames.listed task) with
      earlier | ⟨thread, work, busy, rfl, rfl⟩ | ⟨thread, target, handle, busy, rfl, -⟩
    · exact (blames.owed task notice earlier).mono grows
    · exact Notice.Blames.mono grows (blames.running thread _ busy).focus
    · exact grows handle (blames.running thread _ busy).focus

theorem Run.blames {past : List Machine} {looping : Bool} {registry : Registry}
    {names : List (String × Value)}
    (run : Run (initial (.initial looping registry) names) past machine) : machine.Blames := by
  induction run with
  | refl => exact blames_initial looping registry names
  | move run move induction =>
      exact induction.move (run.sound (sound_initial looping registry names)) move

theorem due_of_told {task : TaskId} {notice : Notice} {reply : Reply}
    (queued : .tell task notice reply ∈ machine.ready) (loud : notice.announces = true) :
    notice ∈ machine.dues task := by
  refine List.mem_append_right _ (List.mem_filterMap.mpr ⟨_, queued, ?_⟩)
  simp [Job.announcement?, loud]

/-- Whatever is recorded in a move is recorded on a handle that exists. -/
theorem Blames.recording (blames : machine.Blames) {choice : Choice} {recording : Recording}
    (recorded : machine.recording? choice = some recording) :
    machine.world.handles.Has recording.handle := by
  unfold recording? at recorded
  split at recorded
  next thread focus busy =>
    have own := blames.running thread focus busy
    unfold Thread.recording? at recorded
    split at recorded
    next reply frame rest stack =>
      obtain ⟨failure, failed, rfl⟩ := Option.map_eq_some_iff.mp recorded
      exact Frame.failure?_known (own.frames frame (stack ▸ List.mem_cons_self)) failed
    next target arguments =>
      unfold Value.byHand? at recorded
      split at recorded
      · split at recorded
        next kept =>
          cases recorded
          exact kept.1
        next => cases recorded
      · cases recorded
    next => cases recorded
  next place idle =>
    obtain ⟨failure, failed, rfl⟩ := Option.map_eq_some_iff.mp recorded
    obtain ⟨job, found, told⟩ := Option.bind_eq_some_iff.mp failed
    cases job with
    | go thread focus => cases told
    | tell task notice reply =>
        have due : notice ∈ machine.dues task :=
          due_of_told (List.mem_of_getElem? found) (Notice.announces_of_failure? told)
        exact Notice.failure?_known (blames.owed task notice due) told
  next => cases recorded

end Machine

end Microboard
