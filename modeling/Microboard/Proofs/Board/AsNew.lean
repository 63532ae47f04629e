import Microboard.Proofs.Board.Renewed
import Microboard.Proofs.Board.Reset
import Microboard.Proofs.Board.Vacant
import Microboard.Proofs.Machine.Accounted
import Microboard.Proofs.Pairing.Plays

/-!
# Boards that are as good as new

A board that is reset while none of its tasks is unfinished goes on like a board that has
just been built with the same configuration and given the same subscribers: whatever is
asked of both, both do the same, up to the numbers of handles and subscriptions.
-/

namespace Microboard.Machine

variable {looping : Bool} {registry : Registry} {names : List (String × Value)}
variable {start machine last : Machine} {before past later : List Machine}
variable {owner : Option TaskId} {base : List Frame} {board : Board} {target : Ref .board}
variable {method : Method} {arguments : Arguments} {choices others : List Choice}
variable {words : Vocabulary} {pairing : Pairing} {reply : Reply}

theorem Sound.inWorld (sound : machine.Sound) {world : World} (found : world.Sound) :
    Sound { machine with world } :=
  ⟨found, sound.single, sound.owned, ⟨sound.numbered.1, sound.numbered.2⟩, sound.awaited,
    sound.focus, sound.queued⟩

/-- No loop and no asynchronous handler of a board is unfinished, and the ends of those that
there were have been announced. -/
structure Rested (board : Board) (machine : Machine) : Prop where
  loops : ∀ task id, .loopEnded board.scheduler id ∉ machine.dues task
  handlers : ∀ task handle, .handlerEnded board.dispatcher handle ∉ machine.dues task

theorem Accounted.rested (accounted : machine.Accounted) (rested : machine.Rested board) :
    (machine.world.schedulers.get board.scheduler).tasks = [] ∧
      (machine.world.dispatchers.get board.dispatcher).background = [] := by
  constructor
  · apply List.eq_nil_iff_forall_not_mem.mpr
    rintro ⟨id, task⟩ member
    exact rested.loops task id ((accounted.loops _ id task).mp member)
  · apply List.eq_nil_iff_forall_not_mem.mpr
    intro task member
    obtain ⟨handle, due⟩ := accounted.handlers _ task member
    exact rested.handlers task handle due

/-- Nothing that is still to be done, and nothing that is stored, tells of a number that is
paired. -/
structure Blind (pairing : Pairing) (machine : Machine) : Prop where
  world : machine.world.Blind pairing
  scene : machine.Scene pairing machine

/-- Nothing is queued, asleep or waiting, and nobody is to be told of the end of a task. -/
structure Quiet (machine : Machine) : Prop where
  ready : machine.ready = []
  sleepers : machine.sleepers = []
  waiters : machine.waiters = []
  untold : ∀ task ∈ machine.tasks, task.notices = []

theorem Quiet.rested (quiet : machine.Quiet) : machine.Rested board := by
  have paid (task : TaskId) : machine.dues task = [] := by
    have noted : machine.notices task = [] := by
      cases listed : machine.tasks[task.index]? with
      | none => simp [notices, listed]
      | some record => simp [notices, listed, quiet.untold record (List.mem_of_getElem? listed)]
    simp [dues, noted, quiet.ready]
  constructor
  · intro task id due
    exact absurd (paid task ▸ due) List.not_mem_nil
  · intro task handle due
    exact absurd (paid task ▸ due) List.not_mem_nil

theorem Quiet.vacant (quiet : machine.Quiet)
    (spares : ∀ thread focus, machine.control = .busy thread focus →
      thread.Spares target board) : machine.Vacant target board where
  running := spares
  parked thread focus parked := by
    cases parked with
    | queued queued =>
        rw [quiet.ready] at queued
        exact absurd queued List.not_mem_nil
    | asleep listed own =>
        rw [quiet.sleepers] at listed
        exact absurd listed List.not_mem_nil
    | waits listed pending own =>
        rw [quiet.waiters] at listed
        exact absurd listed List.not_mem_nil

theorem Quiet.scene (quiet : machine.Quiet) (unnamed : ∀ name, pairing.name name = none)
    (mentioned : ∀ index, pairing.callback index) (listed : ∀ task, pairing.task task)
    (ended : ∀ task ∈ machine.tasks, Option.Rel (Reply.Alike pairing pairing.results)
      task.outcome task.outcome)
    (callbacks : ∀ callback ∈ machine.callbacks, callback.Alike pairing callback)
    (control : machine.control.Alike pairing machine.control) :
    machine.Scene pairing machine where
  names name told known := nomatch (unnamed name).symm.trans known
  size := rfl
  fresh index _ := mentioned index
  callbacks index _ := by
    cases listed : machine.callbacks[index]? with
    | none =>
        rw [List.getD_eq_getElem?_getD, listed]
        exact ⟨rfl, fun _ => .finish .nothing, rfl⟩
    | some callback =>
        rw [List.getD_eq_getElem?_getD, listed]
        exact callbacks callback (List.mem_of_getElem? listed)
  control := control
  outcome := by
    cases machine.outcome with
    | none => exact .none
    | some reply => exact .some (.inl rfl)
  ready := by rw [quiet.ready]; exact .nil
  sleepers := by rw [quiet.sleepers]; exact .nil
  slept := rfl
  tasks := by
    refine List.forall₂_same.mpr fun task member => ⟨?_, ?_⟩
    · cases task.outcome with
      | none => exact .none
      | some reply => exact .some (.inl rfl)
    · rw [quiet.untold task member]
      exact .nil
  later task _ := listed task
  results task _ := by
    unfold outcomeOf
    cases found : machine.tasks[task.index]? with
    | none => exact .none
    | some record => exact ended record (List.mem_of_getElem? found)
  waiters := by rw [quiet.waiters]; exact .nil

/-- A machine with a board that has just been built in the place of a board. -/
def renewed (machine : Machine) (target : Ref .board) (built : World) (new : Board) : Machine :=
  { machine with world := machine.world.renewed target built new }

/-- A board is as it is when it has just been built and been given subscribers, and nobody is
in the midst of a call of it. -/
structure AsNew (target : Ref .board) (board : Board) (subscribers : List (Nat × Value))
    (machine : Machine) : Prop where
  world : machine.world.AsNew board subscribers
  vacant : machine.Vacant target board

theorem Vacant.inWorld (vacant : machine.Vacant target board) (world : World) :
    Vacant target board { machine with world } where
  running := vacant.running
  parked thread focus parked := vacant.parked thread focus (parked.same rfl rfl rfl)

theorem alike_renewed
    (reached : Run (initial (.initial looping registry) names) past machine)
    (has : machine.world.boards.Has target)
    (blank : machine.world.Blank (machine.world.boards.get target))
    (blind : machine.Blind (machine.world.renewal (machine.world.boards.get target) words))
    (other : World) :
    ∃ built new, other.buildBoard (machine.world.boards.get target).clock
        (machine.world.boards.get target).config (machine.world.boards.get target).identity =
        (built, .ok new) ∧
      machine.Alike (machine.world.renewal (machine.world.boards.get target) words)
        (machine.renewed target built (built.boards.get new)) ∧
      (machine.world.renewed target built (built.boards.get new)).AsNew
        (machine.world.boards.get target)
        (machine.world.buses.get (machine.world.boards.get target).bus).subscribers ∧
      (machine.renewed target built (built.boards.get new)).Sound := by
  have sound := reached.sound (sound_initial looping registry names)
  have wired := sound.world.board target has
  obtain ⟨built, new, success⟩ := World.buildBoard_of_buildable wired.buildable other
    (machine.world.boards.get target).clock (machine.world.boards.get target).identity
  obtain ⟨unused, config, clock, identity⟩ := World.unused_of_buildBoard success
  have alike := World.alike_renewed reached.filed sound.world wired blank unused config clock
    identity blind.world
  have fresh := World.asNew_renewed wired blank unused alike
  refine ⟨built, new, success, ⟨alike, blind.scene.inWorlds _ _⟩, fresh, sound.inWorld ?_⟩
  exact alike.sound sound.world fun bus => World.numbered_renewed sound.world unused

/-- Every callback and every task may be spoken of, and no name. -/
def everything : Vocabulary where
  callback _ := True
  task _ := True
  results := .numbered
  name _ := none

def turns (count : Nat) : List Choice := List.replicate count .turn

/-- The thread at hand ends, and a program from outside takes its turns. -/
def afterwards (program : Program) (count : Nat) : List Choice :=
  turns 3 ++ .enter program :: turns count

theorem alike_turns (count : Nat) :
    List.Forall₂ (Choice.Alike pairing) (turns count) (turns count) := by
  refine List.forall₂_same.mpr fun choice member => ?_
  rw [List.eq_of_mem_replicate member]
  exact .turn

theorem alike_afterwards {program : Program}
    (alike : Program.Alike pairing .numbered program program)
    (count : Nat) :
    List.Forall₂ (Choice.Alike pairing) (afterwards program count) (afterwards program count) :=
  List.rel_append (alike_turns 3) (.cons (.enter alike) (alike_turns count))

/-- The counts of the first board begin anew, and every callback may be called. -/
def recounted (machine : Machine) : Pairing :=
  machine.world.renewal (machine.world.boards.get ⟨0⟩) everything

def resetter : Program :=
  .call (.method (.board ⟨0⟩ .reset)) .empty .finish

/-- A program that subscribes a recorder, and that registers a loop and cancels it. -/
def airing : Program :=
  building <| .call (.method (.board ⟨0⟩ .subscribe)) (.single (.recorder "events")) fun _ =>
    .define .plain (fun _ => .finish .nothing) fun callback =>
      .call (.method (.bridge ⟨0⟩ .forever)) (.single callback) fun _ =>
        .call (.method (.scheduler ⟨0⟩ .cancel)) (.single (.handle ⟨0⟩)) .finish

def aired : Machine := settle 27 (begun airing)

/-- The task of the loop has ended, and somebody resets the board. -/
def refreshing : Machine := settle 2 ((settle 4 aired.rouse).entered resetter)

def refreshed : Machine := settle 7 refreshing

theorem run_refreshing :
    ∃ before, Run (initial (.initial true .empty) []) before refreshing ∧
      ∀ state ∈ before, state.Present := by
  refine ⟨_, (run_begun airing 27).trans <| Run.trans (.move .refl (.wake rfl (.head _))) <|
    (run_settle 4 aired.rouse).trans <| Run.trans (.move .refl (.enter _ rfl rfl)) <|
      run_settle 2 ((settle 4 aired.rouse).entered resetter), ?_⟩
  exact present_of_evident rfl

theorem quiet_refreshing : refreshing.Quiet := by
  refine ⟨rfl, rfl, rfl, fun task member => ?_⟩
  rw [List.mem_singleton.mp (show task ∈ [⟨some .nothing, []⟩] from member)]

/-- Who calls a reset from outside is in the midst of no call of a board. -/
theorem Quiet.vacant_caller (quiet : machine.Quiet) {focus : Focus}
    (called : machine.control = .busy ⟨none, [.program .finish]⟩ focus) :
    machine.Vacant target board := by
  refine quiet.vacant fun thread focus busy frame member => ?_
  obtain ⟨rfl, rfl⟩ := Control.busy.inj (called.symm.trans busy)
  rw [List.mem_singleton.mp member]
  rfl

theorem alike_caller : Thread.Alike pairing .numbered ⟨none, [.program .finish]⟩
    ⟨none, [.program .finish]⟩ :=
  ⟨rfl, .cons (.program fun _ _ alike => .finish alike) (.nil (.inl rfl))⟩

theorem alike_idle :
    Callback.Alike pairing ⟨.plain, fun _ => .finish .nothing, 0⟩
      ⟨.plain, fun _ => .finish .nothing, 0⟩ :=
  ⟨rfl, fun _ => .finish .nothing, rfl⟩

theorem blind_refreshed : refreshed.Blind refreshed.recounted where
  world := by
    apply World.blind_of_items
    · intro handle member
      have only : handle ∈ [⟨1, "forever", none, .destroyed, 0, .none⟩] := member
      rw [List.mem_singleton.mp only]
      exact ⟨fun callback given => absurd given (Option.some_ne_none callback).symm, trivial⟩
    · intro bus member entry listed
      have only : bus ∈ [⟨[(1, .recorder "events")], 2⟩] := member
      rw [List.mem_singleton.mp only] at listed
      rw [List.mem_singleton.mp listed]
      trivial
    · intro scheduler member
      have only : scheduler ∈ [⟨.simulated, .int 0, ⟨0⟩, []⟩] := member
      rw [List.mem_singleton.mp only]
      trivial
  scene := by
    refine Quiet.scene ⟨rfl, rfl, rfl, quiet_refreshing.untold⟩ (fun _ => rfl)
      (fun _ => trivial) (fun _ => trivial) (fun task member => ?_) (fun callback member => ?_) ?_
    · rw [List.mem_singleton.mp (show task ∈ [⟨some .nothing, []⟩] from member)]
      exact .some .nothing
    · have only : callback ∈ [⟨.plain, fun _ => .finish .nothing, 0⟩] := member
      rw [List.mem_singleton.mp only]
      exact alike_idle
    · exact .busy alike_caller .nothing

/-- A program that registers a loop and asks which loops are active. -/
def looking : Program :=
  .call (.method (.bridge ⟨0⟩ .forever)) (.single (.callback 0)) fun _ =>
    .read (.scheduler ⟨0⟩) "active_handles" .finish

/-- A program that goes on with the level that it has read. -/
def leveling : Reply → Program
  | .ok (.int level) =>
    .call (.method (.bridge ⟨0⟩ .digitalWrite)) ⟨[.str "P0", .int (1 - level)], []⟩ fun _ => looking
  | reply => .finish reply

/-- A program that inverts the level of a pin before it looks. -/
def resuming : Program :=
  .call (.method (.bridge ⟨0⟩ .digitalRead)) (.single (.str "P0")) leveling

theorem leveling_other (other : ∀ level, reply ≠ .ok (.int level)) :
    leveling reply = .finish reply := by
  unfold leveling
  split
  · exact absurd rfl (other _)
  · rfl

theorem blind_level (level : Int) :
    Arguments.Blind pairing ⟨[.str "P0", .int (1 - level)], []⟩ where
  positional := List.forall_mem_cons.mpr ⟨trivial, List.forall_mem_singleton.mpr trivial⟩
  named _ member := absurd member List.not_mem_nil

theorem alike_looking : looking.Alike refreshed.recounted .numbered looking :=
  .call (.same trivial (Arguments.blind_single trivial) trivial) fun _ _ _ =>
    .read (.same trivial) (Value.shared_of_ne (by decide)) fun _ _ alike =>
      .finish (alike.fits (Grade.fits_numbered _))

theorem alike_resuming : resuming.Alike refreshed.recounted .numbered resuming := by
  refine .call (.same trivial (Arguments.blind_single trivial) trivial) ?_
  intro reply another alike
  have plain : Reply.Alike refreshed.recounted .plain reply another := alike
  by_cases read : ∃ level, reply = .ok (.int level)
  · obtain ⟨level, rfl⟩ := read
    rw [(plain.int_iff level).mp rfl]
    exact .call (.same trivial (blind_level level) trivial) fun _ _ _ => alike_looking
  · rw [leveling_other fun level same => read ⟨level, same⟩,
      leveling_other fun level same => read ⟨level, (plain.int_iff level).mpr same⟩]
    exact .finish (plain.fits (Grade.fits_numbered _))

/-- A board has been reset while it rested and nobody was in the midst of a call of it, what
is still to be done tells of no number of its, and yet the same choices show of the board what
they do not show of one that has just been built. -/
structure Differs (start machine : Machine) (built : World) (choices : List Choice)
    (left right : Value) : Prop where
  reached : ∃ before, Run (initial (.initial true .empty) []) before start ∧
    ∀ state ∈ before, state.Present
  called : start.control =
    .busy ⟨none, [.program .finish]⟩ (.call (.method (.board ⟨0⟩ .reset)) .empty)
  rested : start.Rested (start.world.boards.get ⟨0⟩)
  vacant : start.Vacant ⟨0⟩ (start.world.boards.get ⟨0⟩)
  run : ∃ past, Run (start.advance ⟨none, [.program .finish]⟩
    (.call (.method (.board ⟨0⟩ .reset)) .empty)) past machine ∧ Steady past
  returns : machine.control = .busy ⟨none, [.program .finish]⟩ .nothing
  blind : machine.Blind machine.recounted
  matching : List.Forall₂ (Choice.Alike machine.recounted) choices choices
  shown : ∃ past last, Play machine choices past last ∧
    last.control = .busy ⟨none, []⟩ (.value left)
  built : ∃ past last, Play (machine.renewed ⟨0⟩ built (built.boards.get ⟨0⟩)) choices past last ∧
    last.control = .busy ⟨none, []⟩ (.value right)

/-- A program that registers a loop and a handler, asks the scheduler to cancel the handler,
and asks which loops are active. -/
def crossing : Program :=
  .call (.method (.bridge ⟨0⟩ .forever)) (.single (.callback 0)) fun _ =>
    .call (.method (.bridge ⟨0⟩ .onButtonPressed)) ⟨[.button .a, .callback 0], []⟩ fun _ =>
      .call (.method (.scheduler ⟨0⟩ .cancel)) (.single (.handle ⟨2⟩)) fun _ =>
        .read (.scheduler ⟨0⟩) "active_handles" .finish

theorem blind_registration {index : Nat} (mentioned : pairing.callback index) :
    Arguments.Blind pairing ⟨[.button .a, .callback index], []⟩ where
  positional := List.forall_mem_cons.mpr ⟨trivial, List.forall_mem_singleton.mpr mentioned⟩
  named _ member := absurd member List.not_mem_nil

theorem alike_crossing : crossing.Alike refreshed.recounted .numbered crossing :=
  .call (.same trivial (Arguments.blind_single trivial) trivial) fun _ _ _ =>
    .call (.same trivial (blind_registration trivial) trivial) fun _ _ _ =>
      .call (.same trivial (Arguments.blind_single trivial) trivial) fun _ _ _ =>
        .read (.same trivial) (Value.shared_of_ne (by decide)) fun _ _ alike =>
          .finish (alike.fits (Grade.fits_numbered _))

/-- A program whose subscriber registers a handler as soon as it is told of the reset. -/
def greeting : Program :=
  building <| .define .plain (fun _ => .finish .nothing) fun idle =>
    .define .plain (fun _ =>
        .call (.method (.bridge ⟨0⟩ .onButtonPressed)) ⟨[.button .a, idle], []⟩ .finish)
      fun greets => .call (.method (.board ⟨0⟩ .subscribe)) (.single greets) fun _ => resetter

def welcoming : Machine := settle 12 (begun greeting)

def welcomed : Machine := settle 12 welcoming

/-- A program that asks which handlers are active. -/
def asking : Program :=
  .call (.method (.dispatcher ⟨0⟩ .handlers)) (.single (.button .a)) .finish

theorem alike_asking : asking.Alike pairing .numbered asking :=
  .call (.same trivial (Arguments.blind_single trivial) trivial) fun _ _ alike =>
    .finish (alike.fits (Grade.fits_numbered _))

theorem blind_welcomed : welcomed.Blind welcomed.recounted where
  world := by
    apply World.blind_of_items
    · intro handle member
      have only : handle ∈ [⟨1, "button A", some (.callback 0), .active, 0, .none⟩] := member
      rw [List.mem_singleton.mp only]
      exact ⟨fun callback given => Option.some_inj.mp given ▸ trivial, trivial⟩
    · intro bus member entry listed
      have only : bus ∈ [⟨[(1, .callback 1)], 2⟩] := member
      rw [List.mem_singleton.mp only] at listed
      rw [List.mem_singleton.mp listed]
      trivial
    · intro scheduler member
      have only : scheduler ∈ [⟨.simulated, .int 0, ⟨0⟩, []⟩] := member
      rw [List.mem_singleton.mp only]
      trivial
  scene := by
    refine Quiet.scene ⟨rfl, rfl, rfl, fun task member => absurd member List.not_mem_nil⟩
      (fun _ => rfl) (fun _ => trivial) (fun _ => trivial)
      (fun task member => absurd member List.not_mem_nil) (fun callback member => ?_) ?_
    · have two : callback ∈ [⟨.plain, fun _ => .finish .nothing, 0⟩,
          ⟨.plain, fun _ => .call (.method (.bridge ⟨0⟩ .onButtonPressed))
            ⟨[.button .a, .callback 0], []⟩ .finish, 1⟩] := member
      rcases List.mem_cons.mp two with rfl | other
      · exact alike_idle
      · rw [List.mem_singleton.mp other]
        exact ⟨rfl, fun _ => .call (.same trivial (blind_registration trivial) trivial)
          fun _ _ alike => .finish (alike.fits (Grade.fits_numbered _)), rfl⟩
    · exact .busy alike_caller .nothing

end Microboard.Machine
