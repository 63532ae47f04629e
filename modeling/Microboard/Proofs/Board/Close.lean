import Microboard.Proofs.Board.Reset
import Microboard.Proofs.Machine.Publication
import Microboard.Proofs.Machine.Registered
import Microboard.Proofs.Scheduler.Ending

/-!
# Closing a board

Closing destroys all callbacks of a board, waits for the loops and then for the handlers
that still run, and only then drops the subscribers.  The call is followed from one wait
to the next; whatever else happens meanwhile is left open.  Nothing is destroyed a second
time, so what the last iterations register outlives the call.
-/

namespace Microboard

namespace World

variable {world : World} {board : Board} {known : Ref .handle → Prop}

/-- The world in which a board that is being closed begins to wait. -/
def closed (world : World) (board : Board) : World :=
  (world.cancelAll board.scheduler).clearHandlers board.dispatcher

theorem closed_buses (world : World) (board : Board) :
    (world.closed board).buses = world.buses := by
  change ((world.cancelAll board.scheduler).destroyAll _).buses = world.buses
  rw [destroyAll_buses]
  exact destroyAll_buses _ _

theorem closed_schedulers (world : World) (board : Board) :
    (world.closed board).schedulers = world.schedulers := by
  change ((world.cancelAll board.scheduler).destroyAll _).schedulers = world.schedulers
  rw [destroyAll_schedulers]
  exact destroyAll_schedulers _ _

/-- Closing leaves no loop listed: what was issued is destroyed, and every task of a loop
is waited for. -/
theorem closed_loops (ledger : world.Ledger (world.loopTable board) known) :
    (∀ handle, known handle → (world.closed board).Destroyed handle) ∧
      (world.closed board).endingTasks board.scheduler =
        (world.schedulers.get board.scheduler).tasks.map (·.2) := by
  have emptied := ledger.emptied.destroyAll
    ((world.cancelAll board.scheduler).dispatchers.get board.dispatcher).table
  have empty : ((world.closed board).tables.get (world.loopTable board)).entries = [] :=
    List.map_eq_nil_iff.mp emptied.empty
  refine ⟨emptied.destroyed, ?_⟩
  simp only [endingTasks, closed_schedulers]
  rw [List.filter_eq_self.mpr]
  intro entry _
  rw [HandleTable.find?, show (world.schedulers.get board.scheduler).table =
    world.loopTable board from rfl, empty]
  rfl

theorem closed_handlers (ledger : world.Ledger (world.handlerTable board) known)
    (handle : Ref .handle) (given : known handle) : (world.closed board).Destroyed handle := by
  have emptied := (ledger.destroyAll (world.schedulers.get board.scheduler).table).emptied
  rw [← world.cancelAll_handlerTable board] at emptied
  exact emptied.destroyed handle given

end World

namespace Machine

variable {start machine final : Machine} {past : List Machine} {owner : Option TaskId}
variable {base : List Frame} {tasks : List TaskId}

/-- A turn that is the owner's leaves all buses as they are. -/
def KeepsBuses (owner : Option TaskId) (machine : Machine) : Prop :=
  ∀ thread focus, machine.control = .busy thread focus → thread.owner = owner →
    (machine.advance thread focus).world.buses = machine.world.buses

theorem keepsBuses_of_busy {thread : Thread} {focus : Focus}
    (busy : machine.control = .busy thread focus)
    (same : (machine.advance thread focus).world.buses = machine.world.buses) :
    machine.KeepsBuses owner := by
  intro other running control _
  rw [busy] at control
  cases control
  exact same

theorem Idles.keepsBuses {thread : Thread} (idles : Idles thread tasks machine) :
    machine.KeepsBuses thread.owner := by
  intro other focus busy own
  obtain ⟨rfl, rfl⟩ := idles other focus busy own
  obtain ⟨records, more, -, -, waits⟩ := wait_eq machine other tasks
  simp only [advance, waits]

theorem awaitsAt_waitFor {thread : Thread}
    (busy : machine.control = .busy thread (World.waitFor tasks)) :
    AwaitsAt thread tasks machine := by
  cases tasks with
  | nil => exact .goes busy fun _ member => absurd member List.not_mem_nil
  | cons first rest => exact .asks busy

theorem AwaitsAt.not_returns {frame : Frame}
    (awaits : AwaitsAt ⟨owner, frame :: base⟩ tasks machine) (sound : machine.Sound) :
    ¬ machine.Returns owner base := by
  rintro ⟨reply, returns⟩
  cases awaits with
  | asks busy | goes busy => exact not_back [] [] (busy.symm.trans returns)
  | held listed own waits =>
      have parked : machine.Parked ⟨owner, frame :: base⟩ .nothing :=
        .waits (List.mem_of_getElem? listed) waits own
      have differs := parked.alone sound returns
      exact absurd rfl differs
  | freed parked =>
      have differs := parked.alone sound returns
      exact absurd rfl differs

/-- A call that waits for tasks before it returns has left a state in which they all had
ended, and until then it has done nothing to a bus. -/
theorem Run.waits {frame : Frame} {work : Work} (run : Run start past machine)
    (sound : start.Sound)
    (busy : start.control = .busy ⟨owner, base⟩ (.within frame (.await work)))
    (awaits : ∀ state : Machine, state.world = start.world → ∀ thread,
      state.await thread work = state.go thread (state.world, World.waitFor tasks))
    (listed : ∀ task ∈ tasks, task.index < start.tasks.length)
    (returns : machine.Returns owner base) :
    ∃ waiting halted later, past = waiting ++ halted :: later ∧ Run start waiting halted ∧
      halted.control = .busy ⟨owner, frame :: base⟩ .nothing ∧
      (∀ task ∈ tasks, halted.Ended task) ∧ (∀ state ∈ waiting, state.KeepsBuses owner) ∧
      Run (halted.advance ⟨owner, frame :: base⟩ .nothing) later machine := by
  obtain ⟨reply, replies⟩ := returns
  rcases run.turn busy with ⟨-, rfl⟩ | ⟨second, rfl, opened⟩
  · rw [replies] at busy
    cases busy
  generalize entered : start.advance ⟨owner, base⟩ (.within frame (.await work)) = middle
    at opened
  have begun : middle.control = .busy ⟨owner, frame :: base⟩ (.await work) := entered ▸ rfl
  have world : middle.world = start.world := entered ▸ rfl
  have records : middle.tasks = start.tasks := entered ▸ rfl
  rcases opened.turn begun with ⟨-, rfl⟩ | ⟨third, rfl, asked⟩
  · rw [replies] at begun
    cases begun
  have same := awaits middle world ⟨owner, frame :: base⟩
  have middleSound : middle.Sound := entered ▸ sound.move (.turn busy)
  have kept := middleSound.move (.turn begun)
  have state : AwaitsAt ⟨owner, frame :: base⟩ tasks
      (middle.advance ⟨owner, frame :: base⟩ (.await work)) :=
    awaitsAt_waitFor (by rw [advance, same]; rfl)
  have inside : ∀ task ∈ tasks, task.index <
      (middle.advance ⟨owner, frame :: base⟩ (.await work)).tasks.length := by
    rw [advance, same]
    exact records ▸ listed
  rcases asked.awaits kept state inside with
    ⟨still, -⟩ | ⟨waiting, halted, later, rfl, first, goes, ended, idle, rest⟩
  · exact absurd ⟨reply, replies⟩ (still.not_returns (asked.sound kept))
  · refine ⟨start :: middle :: waiting, halted, later, rfl, ?_, goes, ended, ?_, rest⟩
    · exact Run.trans (.move (.move .refl (entered ▸ .turn busy)) (.turn begun)) first
    · intro state member
      rcases List.mem_cons.mp member with rfl | member
      · exact keepsBuses_of_busy busy (by rw [entered, world])
      rcases List.mem_cons.mp member with rfl | member
      · refine keepsBuses_of_busy begun ?_
        rw [advance, same]
        rfl
      · exact (idle state member).keepsBuses

/-- The course of a call that closes a board and returns: the tasks of the loops that are
listed have ended when it has waited for the first time, and the tasks of the handlers
that are listed then, when it has waited for the second time. -/
structure Closing (board : Board) (target : Ref .board) (owner : Option TaskId)
    (base : List Frame) (start : Machine) (waiting : List Machine) (halted : Machine)
    (finishing : List Machine) (last machine : Machine) : Prop where
  enters : start.advance ⟨owner, base⟩ (.await (.closeBoard target)) =
    start.go ⟨owner, base⟩ (start.world.closed board,
      .within (.closingLoops target) (.await (.loopsIdle board.scheduler)))
  first : ∃ later, waiting = start :: later ∧
    Run (start.advance ⟨owner, base⟩ (.await (.closeBoard target))) later halted
  waited : halted.control = .busy ⟨owner, .closingLoops target :: base⟩ .nothing
  loops : ∀ entry ∈ (start.world.schedulers.get board.scheduler).tasks, halted.Ended entry.2
  second : Run halted (halted :: finishing) last
  finished : last.control = .busy ⟨owner, .closingHandlers target :: base⟩ .nothing
  handlers : ∀ task ∈ (halted.world.dispatchers.get board.dispatcher).background, last.Ended task
  keeps : ∀ state ∈ waiting ++ halted :: finishing, state.KeepsBuses owner
  leaves : machine = last.advance ⟨owner, .closingHandlers target :: base⟩ .nothing
  drops : machine = last.go ⟨owner, base⟩ (last.world.setBus board.bus Bus.clear, .nothing)

theorem Closing.closed {board : Board} {target : Ref .board} {halted last : Machine}
    {waiting finishing : List Machine}
    (closing : Closing board target owner base start waiting halted finishing last machine) :
    Run last [last] machine :=
  closing.leaves ▸ .move .refl (.turn closing.finished)

theorem Closing.toEnd {board : Board} {target : Ref .board} {halted last : Machine}
    {waiting finishing : List Machine}
    (closing : Closing board target owner base start waiting halted finishing last machine) :
    Run halted (halted :: (finishing ++ [last])) machine :=
  closing.second.trans closing.closed

theorem Run.returns_now {reply : Reply} (run : Run start past machine)
    (busy : start.control = .busy ⟨owner, base⟩ (.reply reply))
    (going : ∀ state ∈ past, ¬ state.Returns owner base) : past = [] ∧ machine = start := by
  rcases run.turn busy with same | ⟨later, rfl, -⟩
  · exact same
  · exact absurd ⟨reply, busy⟩ (going start List.mem_cons_self)

/-- What closing a board keeps to.  `halted` is the state in which the loops have been
waited for, `last` the one in which the handlers have been, too.  Every loop that was
running has ended, the iteration that it was in has been seen to end, and none has been
begun.  Every handler that was running at any time up to `halted` has ended.  Only then
the subscribers are dropped: whatever a task that has ended by then has published, was
delivered to all who were subscribed. -/
structure CloseKept (board : Board) (target : Ref .board) (owner : Option TaskId)
    (base : List Frame) (before : List Machine) (start : Machine) (waiting : List Machine)
    (halted : Machine) (finishing : List Machine) (last machine : Machine) : Prop where
  waited : halted.control = .busy ⟨owner, .closingLoops target :: base⟩ .nothing
  finished : last.control = .busy ⟨owner, .closingHandlers target :: base⟩ .nothing
  loops : ∀ task id, start.Announces task (.loopEnded board.scheduler id) →
    halted.Ended task ∧
      ∃ handle phase, LoopGoes board.scheduler handle task start phase ∧
        (phase.isIteration = true →
          ∃ state ∈ waiting, ∃ active, state.loopEvent? task handle = some (.ends active)) ∧
        ∀ state ∈ waiting ++ halted :: (finishing ++ [last]),
          state.loopEvent? task handle ≠ some .calls
  handlers : ∀ state ∈ waiting ++ [halted], ∀ task handle,
    state.Announces task (.handlerEnded board.dispatcher handle) → last.Ended task
  keeps : ∀ state ∈ waiting ++ halted :: finishing, state.KeepsBuses owner
  drops : machine.world = last.world.setBus board.bus Bus.clear
  returns : machine.control = .busy ⟨owner, base⟩ .nothing
  delivers : ∀ early state late task stack event,
    before ++ (waiting ++ halted :: (finishing ++ [last])) = early ++ state :: late →
    state.control = .busy ⟨some task, stack⟩ (.publish board.bus event) → last.Ended task →
    (∀ later ∈ late, later.ordinaryOn board.bus = true) →
      Telling.publication board.bus event (state.world.buses.get board.bus).subscribers <+:
        (state :: late).filterMap (telling? (some task) stack.length)

variable {looping : Bool} {registry : Registry} {names : List (String × Value)}
variable {before : List Machine} {target : Ref .board}

/-- A task that has ended has told all subscribers of whatever it has published. -/
theorem Run.delivered (run : Run (initial (.initial looping registry) names) past machine)
    {early late : List Machine} {state : Machine} {task : TaskId} {stack : List Frame}
    {bus : Ref .bus} {event : Value} (split : past = early ++ state :: late)
    (publishes : state.control = .busy ⟨some task, stack⟩ (.publish bus event))
    (ended : machine.Ended task) (ordinary : ∀ later ∈ late, later.ordinaryOn bus = true) :
    Telling.publication bus event (state.world.buses.get bus).subscribers <+:
      (state :: late).filterMap (telling? (some task) stack.length) := by
  subst split
  have sound := sound_initial looping registry names
  have silent := run.retired sound (retired_initial looping registry names)
  obtain ⟨first, rest⟩ := run.split
  have civil : ∀ later ∈ state :: late, later.ordinaryOn bus = true := by
    refine List.forall_mem_cons.mpr ⟨?_, ordinary⟩
    simp [ordinaryOn, publishes]
  cases rest.publication (first.sound sound) (show ([].all _) = true from rfl) publishes civil with
  | begun none_before => cases none_before
  | goes whole going => exact absurd (silent task ended) going.live
  | ended early last late split whole finished told =>
      rw [split, List.filterMap_append, told]
      exact List.prefix_append _ _

/-- The tasks of loops that are running when their handles are destroyed finish their
iteration, if they are in one, and begin no other. -/
theorem Run.winds_down {scheduler : Ref .scheduler} {task : TaskId} {handle : Ref .handle}
    {phase : LoopPhase} {next halted : Machine} {after late : List Machine}
    (goes : LoopGoes scheduler handle task start phase) (sound : start.Sound)
    (retired : start.Retired) (move : Move start next)
    (silent : start.loopEvent? task handle ≠ some .calls)
    (has : next.world.handles.Has handle) (destroyed : next.world.Destroyed handle)
    (run : Run next after halted) (ended : halted.Ended task) (rest : Run halted late machine) :
    (phase.isIteration = true →
      ∃ state ∈ start :: after, ∃ active, state.loopEvent? task handle = some (.ends active)) ∧
      ∀ state ∈ start :: after ++ late, state.loopEvent? task handle ≠ some .calls := by
  have kept := sound.move move
  have whole : Run start (start :: after) halted := Run.trans (.move .refl move) run
  obtain ⟨later, followed⟩ := goes.move move sound
  constructor
  · intro iterating
    cases goes with
    | fails => cases iterating
    | keeps state =>
        rcases whole.iterates sound state iterating with ⟨last, reached, still⟩ | seen
        · have alive := reached.live (LoopPhase.going still)
          exact absurd (whole.retired sound retired task ended) alive
        · exact seen
  · intro state member
    rcases List.mem_append.mp member with earlier | rest
    · rcases List.mem_cons.mp earlier with rfl | inside
      · exact silent
      · exact (run.calls_none kept followed has destroyed).2 state inside
    · have further := (run.trans ‹Run halted late machine›).calls_none kept followed has destroyed
      exact further.2 state (List.mem_append_right _ rest)

/-- The second wait of a call that closes a board, for the tasks of the handlers. -/
theorem Run.closes_handlers {board : Board} (run : Run machine past final)
    (sound : machine.Sound) (accounted : machine.Accounted)
    (has : machine.world.boards.Has target) (found : machine.world.boards.get target = board)
    (waited : machine.control = .busy ⟨owner, .closingLoops target :: base⟩ .nothing)
    (going : ∀ state ∈ past, ¬ state.Returns owner base) (returns : final.Returns owner base) :
    ∃ finishing last, past = machine :: (finishing ++ [last]) ∧
      Run machine (machine :: finishing) last ∧
      last.control = .busy ⟨owner, .closingHandlers target :: base⟩ .nothing ∧
      (∀ task ∈ (machine.world.dispatchers.get board.dispatcher).background, last.Ended task) ∧
      (∀ state ∈ machine :: finishing, state.KeepsBuses owner) ∧
      final = last.advance ⟨owner, .closingHandlers target :: base⟩ .nothing ∧
      final = last.go ⟨owner, base⟩ (last.world.setBus board.bus Bus.clear, .nothing) := by
  have continues : machine.advance ⟨owner, .closingLoops target :: base⟩ .nothing =
      machine.go ⟨owner, base⟩ (machine.world,
        .within (.closingHandlers target) (.await (.handlersIdle board.dispatcher))) := by
    rw [← found]
    rfl
  have onward := Move.turn waited
  rw [continues] at onward
  rcases run.turn waited with ⟨-, rfl⟩ | ⟨later, rfl, running⟩
  · obtain ⟨reply, replies⟩ := returns
    exact (not_back [] [] (waited.symm.trans replies)).elim
  rw [continues] at running
  obtain ⟨finishing, last, rest, rfl, second, finished, handlers, keeps, running⟩ :=
    running.waits (sound.move onward) rfl
      (fun state same thread => by simp only [Machine.await, World.begin, same]; rfl)
      (fun _ listed => accounted.exists_handler listed) returns
  have toLast : Run machine (machine :: finishing) last := Run.trans (.move .refl onward) second
  have same : last.world.boards.get target = board :=
    ((toLast.grows sound).boards target has).2.symm.trans found
  have leaves : last.advance ⟨owner, .closingHandlers target :: base⟩ .nothing =
      last.go ⟨owner, base⟩ (last.world.setBus board.bus Bus.clear, .nothing) := by
    rw [← same]
    rfl
  have replies : (last.advance ⟨owner, .closingHandlers target :: base⟩ .nothing).control =
      .busy ⟨owner, base⟩ .nothing := by
    rw [leaves]
    rfl
  obtain ⟨rfl, rfl⟩ := running.returns_now replies
    fun state member => going state (by simp [member])
  refine ⟨finishing, last, rfl, toLast, finished, handlers, ?_, rfl, leaves⟩
  intro state member
  rcases List.mem_cons.mp member with rfl | later
  · refine keepsBuses_of_busy waited ?_
    rw [continues]
    rfl
  · exact keeps state later

/-- Whoever closes a board, and whatever happens meanwhile, a call that returns has taken
its course. -/
theorem Run.closes
    (reached : Run (initial (.initial looping registry) names) before start)
    (has : start.world.boards.Has target)
    (called : start.control = .busy ⟨owner, base⟩ (.await (.closeBoard target)))
    (run : Run start past machine) (present : ∀ state ∈ before ++ past, state.Present)
    (faithful : Faithful (start.world.loopTable (start.world.boards.get target)) before)
    (going : ∀ state ∈ past, ¬ state.Returns owner base)
    (returns : machine.Returns owner base) :
    ∃ waiting halted finishing last, past = waiting ++ halted :: (finishing ++ [last]) ∧
      Closing (start.world.boards.get target) target owner base start waiting halted finishing
        last machine := by
  have sound := reached.sound (sound_initial looping registry names)
  obtain ⟨accounted, -⟩ := reached.accounted
    fun state member => present state (List.mem_append_left _ member)
  obtain ⟨known, issued, ledger⟩ := reached.ledger faithful
  obtain ⟨-, ending⟩ := World.closed_loops ledger
  generalize found : start.world.boards.get target = board at *
  have enters : start.advance ⟨owner, base⟩ (.await (.closeBoard target)) =
      start.go ⟨owner, base⟩ (start.world.closed board,
        .within (.closingLoops target) (.await (.loopsIdle board.scheduler))) := by
    rw [← found]
    rfl
  rcases run.turn called with ⟨-, rfl⟩ | ⟨after, rfl, running⟩
  · obtain ⟨reply, replies⟩ := returns
    rw [replies] at called
    cases called
  have turn := Move.turn called
  rw [enters] at running turn
  have listed : ∀ task ∈ (start.world.closed board).endingTasks board.scheduler,
      task.index < start.tasks.length := by
    rw [ending]
    intro task member
    obtain ⟨⟨id, task⟩, entry, rfl⟩ := List.mem_map.mp member
    exact accounted.exists_loop entry
  obtain ⟨waiting, halted, later, rfl, first, waited, loops, keepsFirst, running⟩ :=
    running.waits (sound.move turn) rfl
      (fun state same thread => by simp only [Machine.await, World.begin, same]; rfl)
      listed returns
  have toHalt : Run start (start :: waiting) halted := Run.trans (.move .refl turn) first
  obtain ⟨accountedHalt, -⟩ := (reached.trans toHalt).accounted (forall_mem_before present)
  obtain ⟨still, same⟩ := (toHalt.grows sound).boards target has
  obtain ⟨finishing, last, split, second, finished, handlers, keepsSecond, leaves, drops⟩ :=
    (Run.trans (.move .refl (.turn waited)) running).closes_handlers (toHalt.sound sound)
      accountedHalt still (same.symm.trans found) waited
      (fun state member => going state (.tail _ (List.mem_append_right _ member))) returns
  cases split
  refine ⟨start :: waiting, halted, finishing, last, by simp, enters, ⟨waiting, rfl, ?_⟩, waited,
    ?_, second, finished, handlers, ?_, leaves, drops⟩
  · rw [enters]
    exact first
  · intro entry member
    refine loops entry.2 ?_
    rw [ending]
    exact List.mem_map_of_mem member
  · intro state member
    rcases List.mem_append.mp member with earlier | later
    · rcases List.mem_cons.mp earlier with rfl | earlier
      · refine keepsBuses_of_busy called ?_
        rw [enters]
        exact World.closed_buses _ _
      · exact keepsFirst state earlier
    · exact keepsSecond state later

/-- Closing a board waits for all of its work and loses none of its events, whoever
closes it, whatever is going on, and whatever happens while it waits. -/
theorem close_waits_for_board
    (reached : Run (initial (.initial looping registry) names) before start)
    (has : start.world.boards.Has target)
    (called : start.control = .busy ⟨owner, base⟩ (.await (.closeBoard target)))
    (run : Run start past machine) (present : ∀ state ∈ before ++ past, state.Present)
    (faithful : Faithful (start.world.loopTable (start.world.boards.get target)) before)
    (going : ∀ state ∈ past, ¬ state.Returns owner base)
    (returns : machine.Returns owner base) :
    ∃ waiting halted finishing last, past = waiting ++ halted :: (finishing ++ [last]) ∧
      CloseKept (start.world.boards.get target) target owner base before start waiting halted
        finishing last machine := by
  have initially := sound_initial looping registry names
  have sound := reached.sound initially
  have earlier : ∀ state ∈ before, state.Present :=
    fun state member => present state (List.mem_append_left _ member)
  obtain ⟨accounted, -⟩ := reached.accounted earlier
  obtain ⟨known, issued, ledger⟩ := reached.ledger faithful
  obtain ⟨destroyed, -⟩ := World.closed_loops ledger
  obtain ⟨waiting, halted, finishing, last, rfl, closing⟩ :=
    reached.closes has called run present faithful going returns
  generalize start.world.boards.get target = board at *
  obtain ⟨after, rfl, first⟩ := closing.first
  have turn := Move.turn called
  have enters := closing.enters
  rw [enters] at first turn
  have toHalt : Run start (start :: after) halted := Run.trans (.move .refl turn) first
  have haltSound := toHalt.sound sound
  have registered := (reached.trans toHalt).registered (forall_mem_before present)
  have lastSound := closing.second.sound haltSound
  refine ⟨start :: after, halted, finishing, last, rfl, ?_⟩
  constructor
  case waited => exact closing.waited
  case finished => exact closing.finished
  case keeps => exact closing.keeps
  case drops => rw [closing.drops]; rfl
  case returns => rw [closing.drops]; rfl
  case loops =>
    intro task id announces
    have due := due_of_noted announces.noted rfl
    have ended := closing.loops (id, task) ((accounted.loops _ id task).mpr due)
    obtain ⟨handle, phase, given, goes⟩ :=
      (reached.linked board.scheduler earlier).running task id due
    have registered := issued handle given
    have silent : start.loopEvent? task handle ≠ some .calls := by
      simp only [loopEvent?, called]
      split <;> simp
    have hasHandle := ((turn.grows sound).handles handle (ledger.has handle registered)).1
    obtain ⟨finishes, calls⟩ := Run.winds_down goes sound
      (reached.retired initially (retired_initial looping registry names)) turn silent
      hasHandle (destroyed handle registered) first ended closing.toEnd
    exact ⟨ended, handle, phase, goes, finishes, calls⟩
  case handlers =>
    intro state member task handle announces
    have noted : halted.Noted task (.handlerEnded board.dispatcher handle) := by
      rcases List.mem_append.mp member with waits | same
      · obtain ⟨before, later, split⟩ := List.append_of_mem waits
        rw [split] at toHalt
        obtain ⟨reachedState, rest⟩ := toHalt.split
        exact Noted.run (.inr announces.noted) rest (reachedState.sound sound)
      · rw [List.mem_singleton.mp same] at announces
        exact .inr announces.noted
    rcases noted with ended | noted
    · exact ended.run closing.second haltSound
    · by_cases ended : halted.Ended task
      · exact ended.run closing.second haltSound
      · exact closing.handlers task
          (registered board.dispatcher task handle (due_of_noted noted rfl) ended)
  case delivers =>
    intro early state late task stack event split publishes ended ordinary
    have whole := reached.trans (toHalt.trans closing.toEnd)
    exact whole.delivered split publishes (ended.run closing.closed lastSound) ordinary

/-- A program that registers a loop and an asynchronous handler, presses the button and
closes the board. -/
def leaving : Program :=
  building <| .define .plain (fun _ => .finish .nothing) fun loop =>
    .call (.method (.bridge ⟨0⟩ .forever)) (.single loop) fun _ =>
      .define .coroutine (fun _ => .await (.sleep (.int 0)) .finish) fun handler =>
        .call (.method (.bridge ⟨0⟩ .onButtonPressed)) ⟨[.button .a, handler], []⟩ fun _ =>
          .call (.method (.board ⟨0⟩ .pressButton)) (.single (.button .a)) fun _ =>
            .await (.closeBoard ⟨0⟩) .finish

def closing : Machine := settle 34 (begun leaving)

/-- The loop sleeps, and so does the handler. -/
def pausing : Machine := settle 14 closing

def unwinding : Machine := settle 10 pausing.rouse

def departure : List Machine :=
  visited 14 closing ++ ([pausing] ++ (visited 10 pausing.rouse ++
    ([unwinding] ++ visited 8 unwinding.rouse)))

theorem run_departure : Run closing departure (settle 8 unwinding.rouse) :=
  (run_settle 14 closing).trans <| Run.trans (.move .refl (.wake rfl (.head _))) <|
    (run_settle 10 pausing.rouse).trans <| Run.trans (.move .refl (.wake rfl (.head _))) <|
      run_settle 8 unwinding.rouse

theorem close_waits_for_board_leaving :
    ∃ waiting halted finishing last, departure = waiting ++ halted :: (finishing ++ [last]) ∧
      CloseKept (closing.world.boards.get ⟨0⟩) ⟨0⟩ none [.program .finish]
        ([initial (.initial true .empty) []] ++ visited 34 (begun leaving)) closing waiting
        halted finishing last (settle 8 unwinding.rouse) :=
  close_waits_for_board (run_begun leaving 34) (by decide) rfl run_departure
    (present_of_evident rfl) (faithful_of_none rfl) (going_of_evident rfl) ⟨_, rfl⟩

/-- What a call that closes a board has done when it returns: all that had been issued is
destroyed, any loop that is left has been begun since, any handler that is left has been
begun, or has been taken on, after the loops had been waited for, and nobody is subscribed. -/
structure Parted (board : Board) (issued : Ref .handle → Prop) (start halted : Machine)
    (later : List Machine) (machine : Machine) : Prop where
  destroyed : ∀ handle, issued handle → machine.world.Destroyed handle
  loops : ∀ task id, machine.Announces task (.loopEnded board.scheduler id) →
    start.tasks.length ≤ task.index
  handlers : ∀ task handle, machine.Announces task (.handlerEnded board.dispatcher handle) →
    halted.tasks.length ≤ task.index ∨
      ∃ state ∈ later, ∃ thread,
        state.control = .busy thread (.adopt task board.dispatcher handle)
  deserted : (machine.world.buses.get board.bus).subscribers = []

/-- Whatever is left of a board that has been closed was begun while it was being closed. -/
theorem close_ends_earlier_work
    (reached : Run (initial (.initial looping registry) names) before start)
    (has : start.world.boards.Has target)
    (called : start.control = .busy ⟨owner, base⟩ (.await (.closeBoard target)))
    (run : Run start past machine) (present : ∀ state ∈ before ++ past, state.Present)
    (loops : Faithful (start.world.loopTable (start.world.boards.get target)) before)
    (handlers : Faithful (start.world.handlerTable (start.world.boards.get target)) before)
    (going : ∀ state ∈ past, ¬ state.Returns owner base)
    (returns : machine.Returns owner base) :
    ∃ waiting halted later, past = waiting ++ halted :: later ∧
      halted.control = .busy ⟨owner, .closingLoops target :: base⟩ .nothing ∧
      Parted (start.world.boards.get target)
        (IssuedBy (start.world.boards.get target) before start) start halted later machine := by
  have sound := reached.sound (sound_initial looping registry names)
  have wired := sound.world.board target has
  obtain ⟨accounted, -⟩ := reached.accounted
    fun state member => present state (List.mem_append_left _ member)
  obtain ⟨knownLoops, issuedLoops, ledgerLoops⟩ := reached.ledger loops
  obtain ⟨knownHandlers, issuedHandlers, ledgerHandlers⟩ := reached.ledger handlers
  obtain ⟨waiting, halted, finishing, last, rfl, closing⟩ :=
    reached.closes has called run present loops going returns
  generalize start.world.boards.get target = board at *
  obtain ⟨after, rfl, first⟩ := closing.first
  have turn := Move.turn called
  have toHalt := Run.trans (.move .refl turn) first
  have haltSound := toHalt.sound sound
  have registered := (reached.trans toHalt).registered (forall_mem_before present)
  refine ⟨start :: after, halted, finishing ++ [last], rfl, closing.waited, ?_⟩
  constructor
  case destroyed =>
    intro handle issued
    have has : start.world.handles.Has handle :=
      issued.elim (fun given => ledgerLoops.has handle (issuedLoops handle given))
        fun given => ledgerHandlers.has handle (issuedHandlers handle given)
    have destroyed : (start.world.closed board).Destroyed handle :=
      issued.elim
        (fun given => (World.closed_loops ledgerLoops).1 handle (issuedLoops handle given))
        fun given => World.closed_handlers ledgerHandlers handle (issuedHandlers handle given)
    have enters := closing.enters
    rw [enters] at first turn
    have still := ((turn.grows sound).handles handle has).1
    have grows := (first.trans closing.toEnd).grows (sound.move turn)
    exact (grows.handles handle still).2.destroyed destroyed
  case loops =>
    intro task id announces
    apply Nat.le_of_not_lt
    intro earlier
    have due := reached.due run present (due_of_noted announces.noted rfl) rfl earlier
    have ended := closing.loops (id, task) ((accounted.loops _ id task).mpr due)
    exact announces.unfinished (ended.run closing.toEnd haltSound)
  case handlers =>
    intro task handle announces
    refine (Nat.lt_or_ge task.index halted.tasks.length).symm.imp_right fun earlier => ?_
    rcases (reached.trans toHalt).due_cases closing.toEnd (by simpa using present)
        (due_of_noted announces.noted rfl) earlier with
      due | ⟨state, member, thread, _, _, same, adopts⟩
    · have running : ¬ halted.Ended task := fun ended =>
        announces.unfinished (ended.run closing.toEnd haltSound)
      have ended := closing.handlers task (registered board.dispatcher task handle due running)
      exact absurd (ended.run closing.closed (closing.second.sound haltSound))
        announces.unfinished
    · cases same
      rcases List.mem_cons.mp member with rfl | later
      · rw [closing.waited] at adopts
        cases adopts
      · exact ⟨state, later, thread, adopts⟩
  case deserted =>
    have hasBus : last.world.buses.Has board.bus :=
      (((toHalt.trans closing.second).grows sound).buses _ wired.hasBus).1
    rw [closing.drops]
    exact congrArg Bus.subscribers (Arena.get_modify_self Bus.clear hasBus)

theorem close_ends_earlier_work_leaving :
    ∃ waiting halted later, departure = waiting ++ halted :: later ∧
      halted.control = .busy ⟨none, [.closingLoops ⟨0⟩, .program .finish]⟩ .nothing ∧
      Parted (closing.world.boards.get ⟨0⟩)
        (IssuedBy (closing.world.boards.get ⟨0⟩)
          ([initial (.initial true .empty) []] ++ visited 34 (begun leaving)) closing)
        closing halted later (settle 8 unwinding.rouse) :=
  close_ends_earlier_work (run_begun leaving 34) (by decide) rfl run_departure
    (present_of_evident rfl) (faithful_of_none rfl) (faithful_of_none rfl)
    (going_of_evident rfl) ⟨_, rfl⟩

/-- A program that registers a loop whose iterations sleep before they register another
loop. -/
def relay : Program :=
  building <| .define .plain (fun _ => .finish .nothing) fun idle =>
    .define .coroutine (fun _ => .await (.sleep (.int 0)) fun _ =>
        .call (.method (.bridge ⟨0⟩ .forever)) (.single idle) .finish) fun loop =>
      .call (.method (.bridge ⟨0⟩ .forever)) (.single loop) .finish

def relaying : Machine := settle 20 (begun relay)

/-- The loop is in its first iteration, which sleeps. -/
def handing : Machine := settle 12 relaying.rouse

/-- The board is about to be closed from outside. -/
def parting : Machine := settle 2 (handing.entered (.await (.closeBoard ⟨0⟩) .finish))

def parted : Machine := settle 24 (settle 4 parting).rouse

theorem run_parting : ∃ before, Run (initial (.initial true .empty) []) before parting :=
  ⟨_, (run_begun relay 20).trans <| Run.trans (.move .refl (.wake rfl (.head _))) <|
    (run_settle 12 relaying.rouse).trans <| Run.trans (.move .refl (.enter _ rfl rfl)) <|
      run_settle 2 (handing.entered (.await (.closeBoard ⟨0⟩) .finish))⟩

/-- Closing a board does not stop the loops that are registered meanwhile: when the call
returns, one of them is active, and its task runs. -/
theorem close_leaves_relay :
    (∃ before, Run (initial (.initial true .empty) []) before parting) ∧
      parting.control = .busy ⟨none, [.program .finish]⟩ (.await (.closeBoard ⟨0⟩)) ∧
      ∃ past, Run parting past parted ∧
        (∀ state ∈ past, ¬ state.Returns none [.program .finish]) ∧
        parted.Returns none [.program .finish] ∧
        IssuedBy (parted.world.boards.get ⟨0⟩) past parted ⟨1⟩ ∧ parted.Active ⟨1⟩ ∧
        parted.Announces ⟨1⟩ (.loopEnded (parted.world.boards.get ⟨0⟩).scheduler 2) := by
  refine ⟨run_parting, rfl, visited 4 parting ++ ([settle 4 parting] ++
    visited 24 (settle 4 parting).rouse), ?_, going_of_evident rfl, ⟨_, rfl⟩, ?_, rfl, ?_⟩
  · exact (run_settle 4 parting).trans <| Run.trans (.move .refl (.wake rfl (.head _))) <|
      run_settle 24 (settle 4 parting).rouse
  · exact .inl ⟨parted, List.mem_append_right _ (List.mem_singleton_self _), .head _⟩
  · exact ⟨.head _, Bool.false_ne_true⟩

end Machine

end Microboard
