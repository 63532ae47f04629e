import Microboard.Proofs.Dispatcher.Roster
import Microboard.Proofs.Dispatcher.Serving
import Microboard.Proofs.Machine.Answering
import Microboard.Proofs.Machine.Dues

/-!
# Pressing a button

A press latches the button, tells everybody, and then serves the handlers that are listed
when all have been told.
-/

namespace Microboard

/-- The dispatcher whose handlers a method serves. -/
def Method.presses? (world : World) : Method → Option (Ref .dispatcher)
  | .dispatcher target .press => some target
  | .board target .pressButton => some (world.boards.get target).dispatcher
  | _ => none

namespace World

variable {world : World} {target : Ref .dispatcher} {button : Button}

/-- The event that a press of a button tells of. -/
def pressEvent (world : World) (button : Button) : Value :=
  .event (.buttonPress button) world.identities

/-- A world in which a button is latched, and a press of it has been recorded. -/
def latched (world : World) (target : Ref .dispatcher) (button : Button) : World :=
  { world with
    hardwares := world.hardwares.modify (world.dispatchers.get target).hardware
      (·.writeLatch button true)
    identities := world.identities + 1 }

theorem press_eq {value : Value} (accepted : value.toButton = .ok button) :
    world.press target value =
      (world.latched target button, .within (.pressed target button)
        (.publish (world.dispatchers.get target).bus (world.pressEvent button))) := by
  unfold press
  rw [accepted]
  rfl

theorem latch_latched (has : world.hardwares.Has (world.dispatchers.get target).hardware)
    (other : Button) :
    ((world.latched target button).hardwares.get (world.dispatchers.get target).hardware).latch
        other =
      if other = button then true
      else (world.hardwares.get (world.dispatchers.get target).hardware).latch other := by
  unfold latched
  rw [Arena.get_modify_self _ has]
  by_cases same : other = button
  · rw [if_pos same, same]
    exact PerButton.get_set_self _ _ _
  · rw [if_neg same]
    exact PerButton.get_set_of_ne _ _ same

theorem callMethod_press {method : Method} {arguments : Arguments}
    (presses : method.presses? world = some target) :
    world.callMethod method arguments = world.press target (arguments.get 0 "button") := by
  unfold Method.presses? at presses
  split at presses
  · cases presses
    rfl
  · cases presses
    rfl
  · cases presses

end World

namespace Machine

variable {start machine next : Machine} {past : List Machine} {owner : Option TaskId}
variable {base : List Frame} {target : Ref .dispatcher} {button : Button}
variable {bus : Ref .bus} {event : Value}

/-- Subscribers of a bus raise ordinary faults only, and what the handlers of a dispatcher come
back with is dealt with there. -/
structure Mild (bus : Ref .bus) (target : Ref .dispatcher) (machine : Machine) : Prop where
  subscribers : machine.ordinaryOn bus = true
  handlers : machine.enduredBy target = true

/-- While everybody is told of a press, no handler is called. -/
theorem Publishing.beat?
    (state : machine.Publishing owner [.pressed target button] base bus event)
    (sound : machine.Sound) : machine.beat? owner base.length = none := by
  rcases state.above with ⟨upper, focus, busy⟩ | ⟨upper, parked⟩
  · exact beat?_of_above busy fun _ => rfl
  · exact beat?_of_parked parked sound rfl

theorem Publishing.going
    (state : machine.Publishing owner [.pressed target button] base bus event)
    (sound : machine.Sound) : ¬ machine.Returns owner base := by
  rintro ⟨reply, ends⟩
  rcases state.above with ⟨upper, focus, busy⟩ | ⟨upper, parked⟩
  · exact not_back upper [] (busy.symm.trans ends)
  · exact parked.alone sound ends rfl

/-- By a state everybody has been told of a press, and no handler has been called before. -/
structure Told (owner : Option TaskId) (base : List Frame) (target : Ref .dispatcher)
    (button : Button) (bus : Ref .bus) (event : Value) (subscribers : List (Nat × Value))
    (early : List Machine) (told : Machine) : Prop where
  announced : early.filterMap (telling? owner base.length) =
    Telling.publication bus event subscribers
  unserved : early.filterMap (beat? owner base.length) = []
  finished : told.control = .busy ⟨owner, .pressed target button :: base⟩ .nothing

theorem Told.after {event : Value} {subscribers : List (Nat × Value)} {early : List Machine}
    {told first : Machine} (state : Told owner base target button bus event subscribers early told)
    (untold : first.telling? owner base.length = none)
    (unserved : first.beat? owner base.length = none) :
    Told owner base target button bus event subscribers (first :: early) told where
  announced := by rw [List.filterMap_cons_none untold, state.announced]
  unserved := by rw [List.filterMap_cons_none unserved, state.unserved]
  finished := state.finished

/-- How far a press has come: everybody is being told of it; or they have been, nothing has
been published since then, and the handlers that were listed then are being served. -/
inductive PressesAt (owner : Option TaskId) (base : List Frame) (target : Ref .dispatcher)
    (button : Button) (bus : Ref .bus) (event : Value)
    (subscribers : List (Nat × Value)) (past : List Machine) (machine : Machine) : Prop where
  | announces (state : machine.Publishing owner [.pressed target button] base bus event)
  | serves (early : List Machine) (turn : Machine) (late : List Machine)
      (split : past = early ++ turn :: late)
      (told : Told owner base target button bus event subscribers early turn)
      (silent : late.filterMap (published? owner base.length) = [])
      (expects : World → List Beat → Prop)
      (state : ServesAt owner base target machine expects)
      (follows : ∀ final tail, expects final tail → Served final
        (turn.world.roll target button) (late.filterMap (beat? owner base.length) ++ tail))

theorem Run.sound_of_mem {state : Machine} (run : Run start past machine) (sound : start.Sound)
    (member : state ∈ past) : state.Sound := by
  obtain ⟨early, late, rfl⟩ := List.append_of_mem member
  exact run.split.1.sound sound

/-- When everybody has been told, the handlers that are listed by then are served. -/
theorem Run.serves_told {told : Machine} (run : Run told (told :: past) machine)
    (sound : told.Sound)
    (finished : told.control = .busy ⟨owner, .pressed target button :: base⟩ .nothing)
    (endured : ∀ state ∈ past, state.enduredBy target = true)
    (going : ∀ state ∈ past, ¬ state.Returns owner base) :
    past.filterMap (published? owner base.length) = [] ∧
      ∃ expects, ServesAt owner base target machine expects ∧
        ∀ final tail, expects final tail → Served final (told.world.roll target button)
          (past.filterMap (beat? owner base.length) ++ tail) := by
  rcases run.turn finished with ⟨empty, -⟩ | ⟨late, same, rest⟩
  · cases empty
  cases same
  obtain ⟨expects, begun, served⟩ : ∃ expects, ServesAt owner base target
      (told.go ⟨owner, base⟩
        (told.world, told.world.serve target (told.world.roll target button))) expects ∧
      ∀ final tail, expects final tail →
        Served final (told.world.roll target button) tail := servesAt_serve rfl
  obtain ⟨silent, later, state, follows⟩ :=
    rest.serves (sound.move (.turn finished)) begun endured going
  exact ⟨silent, later, state, fun final tail seen => served final _ (follows final tail seen)⟩

theorem Run.presses (run : Run start past machine) (sound : start.Sound)
    (begun : start.control = .busy ⟨owner, .pressed target button :: base⟩ (.publish bus event))
    (mild : ∀ state ∈ past, state.Mild bus target)
    (going : ∀ state ∈ past, ¬ state.Returns owner base) :
    PressesAt owner base target button bus event (start.world.buses.get bus).subscribers
      past machine := by
  have published : Published owner [.pressed target button] base bus event _ past machine :=
    run.publication sound rfl begun fun state member => (mild state member).subscribers
  cases published with
  | begun none_before busy => exact .announces (.inl busy)
  | goes whole state => exact .announces (.inr ⟨_, _, state⟩)
  | ended early told late split whole finished announced =>
      subst split
      obtain ⟨before, rest⟩ := run.split
      have afterwards {state : Machine} (member : state ∈ late) : state ∈ early ++ told :: late :=
        List.mem_append_right _ (List.mem_cons_of_mem _ member)
      obtain ⟨silent, expects, state, follows⟩ := rest.serves_told (before.sound sound) finished
        (fun state member => (mild state (afterwards member)).handlers)
        fun state member => going state (afterwards member)
      have unserved : early.filterMap (beat? owner base.length) = [] :=
        List.filterMap_eq_nil_iff.mpr fun state member =>
          (whole state member).beat? (before.sound_of_mem sound member)
      exact .serves early told late rfl ⟨announced, unserved, finished⟩ silent expects state follows

/-- A task that is taken on joins the work of the dispatcher, which will be told of its end. -/
theorem adopt_takes_on {task : TaskId} (thread : Thread) (handle : Ref .handle)
    (listed : task.index < machine.tasks.length) :
    (machine.adopt thread task target handle).tasks.length = machine.tasks.length ∧
      ((machine.adopt thread task target handle).dues task).Perm
        (.handlerEnded target handle :: machine.dues task) ∧
      (machine.world.dispatchers.Has target →
        ((machine.adopt thread task target handle).world.dispatchers.get target).background =
          enlist (machine.world.dispatchers.get target).background task) := by
  have loud : (Notice.handlerEnded target handle).announces = true := rfl
  have owed := dues_watched loud listed task
  rw [if_pos rfl] at owed
  rw [adopt, if_pos listed]
  refine ⟨length_watch _ machine task, owed, fun has => ?_⟩
  exact congrArg Dispatcher.background (Arena.get_modify_self _ has)

/-- The state in which a press has latched its button and is about to tell of it. -/
def pressing (machine : Machine) (owner : Option TaskId) (base : List Frame)
    (target : Ref .dispatcher) (button : Button) : Machine :=
  machine.go ⟨owner, base⟩
    (machine.world.latched target button,
      .within (.pressed target button)
        (.publish (machine.world.dispatchers.get target).bus (machine.world.pressEvent button)))

section Calls

variable {method : Method} {arguments : Arguments}
variable (called : start.control = .busy ⟨owner, base⟩ (.call (.method method) arguments))
variable (presses : method.presses? start.world = some target)
variable (accepted : (arguments.get 0 "button").toButton = .ok button)

include presses accepted in
theorem advance_press :
    start.advance ⟨owner, base⟩ (.call (.method method) arguments) =
      start.pressing owner base target button := by
  have plain : start.advance ⟨owner, base⟩ (.call (.method method) arguments) =
      start.go ⟨owner, base⟩ (start.world.callMethod method arguments) := by
    cases method with
    | function function => cases presses
    | _ => rfl
  rw [plain, World.callMethod_press presses, World.press_eq accepted]
  rfl

include called presses accepted

/-- A press that goes on is about to tell of itself, or it has come as far as `PressesAt`
says. -/
theorem Run.pressed (run : Run start past machine) (sound : start.Sound)
    (mild : ∀ state ∈ past, state.Mild (start.world.dispatchers.get target).bus target)
    (going : ∀ state ∈ past, ¬ state.Returns owner base) :
    past = [] ∧ machine = start ∨
    past = [start] ∧ machine = start.pressing owner base target button ∨
    ∃ rest, past = start :: start.pressing owner base target button :: rest ∧
      PressesAt owner base target button (start.world.dispatchers.get target).bus
        (start.world.pressEvent button)
        (start.world.buses.get (start.world.dispatchers.get target).bus).subscribers
        rest machine := by
  apply (run.turn called).imp_right
  rintro ⟨late, rfl, further⟩
  have first := sound.move (.turn called)
  rw [advance_press presses accepted] at further first
  rcases further.turn rfl with ⟨rfl, rfl⟩ | ⟨rest, rfl, last⟩
  · exact .inl ⟨rfl, rfl⟩
  · have within {state : Machine} (member : state ∈ rest) :
        state ∈ start :: start.pressing owner base target button :: rest :=
      List.mem_cons_of_mem _ (List.mem_cons_of_mem _ member)
    refine .inr ⟨rest, rfl, ?_⟩
    exact last.presses (first.move (.turn rfl)) rfl
      (fun state member => mild state (within member))
      fun state member => going state (within member)

/-- Whatever is seen of a press is seen while it serves handlers. -/
theorem Run.beats {beat : Beat} (run : Run start past machine) (sound : start.Sound)
    (mild : ∀ state ∈ past, state.Mild (start.world.dispatchers.get target).bus target)
    (going : ∀ state ∈ past, ¬ state.Returns owner base)
    (shown : machine.beat? owner base.length = some beat) :
    ∃ expects, ServesAt owner base target machine expects := by
  rcases run.pressed called presses accepted sound mild going with
    ⟨-, rfl⟩ | ⟨-, rfl⟩ | ⟨rest, -, state⟩
  · rw [beat?_of_busy called] at shown
    cases shown
  · rw [beat?_of_busy rfl] at shown
    cases shown
  · cases state with
    | announces state =>
        rw [state.beat? (run.sound sound)] at shown
        cases shown
    | serves early turn late split told silent expects state follows => exact ⟨expects, state⟩

/-- A press that has returned has told everybody, has served the handlers that were listed
by then, and has not failed. -/
theorem Run.returns_press {reply : Reply} (run : Run start past machine) (sound : start.Sound)
    (mild : ∀ state ∈ past, state.Mild (start.world.dispatchers.get target).bus target)
    (going : ∀ state ∈ past, ¬ state.Returns owner base)
    (ends : machine.control = .busy ⟨owner, base⟩ (.reply reply)) :
    reply = .nothing ∧ ∃ early turn late, past = early ++ turn :: late ∧
      Told owner base target button (start.world.dispatchers.get target).bus
        (start.world.pressEvent button)
        (start.world.buses.get (start.world.dispatchers.get target).bus).subscribers early turn ∧
      late.filterMap (published? owner base.length) = [] ∧
      Served machine.world (turn.world.roll target button)
        (late.filterMap (beat? owner base.length)) := by
  have kept := run.sound sound
  rcases run.pressed called presses accepted sound mild going with
    ⟨-, rfl⟩ | ⟨-, rfl⟩ | ⟨rest, rfl, state⟩
  · rw [called] at ends
    cases ends
  · cases (Control.busy.inj ends).2
  · cases state with
    | announces state => exact absurd ⟨reply, ends⟩ (state.going kept)
    | serves early turn late split told silent expects state follows =>
        obtain ⟨rfl, last⟩ := state.finished kept ends
        have served := follows _ _ last
        rw [List.append_nil] at served
        refine ⟨rfl, start :: start.pressing owner base target button :: early, turn, late, ?_,
          ?_, silent, served⟩
        · rw [split]
          rfl
        · have opened : (start.pressing owner base target button).control = .busy _ _ := rfl
          refine (told.after ?_ (beat?_of_busy opened)).after ?_ (beat?_of_busy called)
          · simp [telling?, acts_self opened]
          · simp [telling?, acts_self called]

/-- A handler that is seen to be called has a callback, and it is this that is called. -/
theorem Run.invokes {second third : Machine} {handle : Ref .handle} {world : World}
    (run : Run start past machine) (sound : start.Sound)
    (mild : ∀ state ∈ past, state.Mild (start.world.dispatchers.get target).bus target)
    (going : ∀ state ∈ past, ¬ state.Returns owner base)
    (shown : machine.beat? owner base.length = some (.calls handle world))
    (move : Move machine second) (further : Move second third) :
    ∃ callback rest, (machine.world.handles.get handle).callback = some callback ∧
      third.control =
        .busy ⟨owner, .pressing target handle rest :: base⟩ (.call callback .empty) := by
  have kept := run.sound sound
  obtain ⟨expects, state⟩ := run.beats called presses accepted sound mild going shown
  obtain ⟨active, rest, busy⟩ := state.calling kept shown
  obtain ⟨callback, found⟩ :=
    (kept.world.handle handle (World.has_of_isActive active)).callback_of_active active
  refine ⟨callback, rest, found, ?_⟩
  obtain rfl := move.of_busy busy
  rw [further.of_invoke rfl found]
  rfl

/-- Work that is seen to be started becomes one task, which is queued. -/
theorem Run.schedules {second third : Machine} {handle : Ref .handle} {work : Work}
    {task : TaskId} (run : Run start past machine) (sound : start.Sound)
    (mild : ∀ state ∈ past, state.Mild (start.world.dispatchers.get target).bus target)
    (going : ∀ state ∈ past, ¬ state.Returns owner base)
    (shown : machine.beat? owner base.length = some (.starts handle work task))
    (move : Move machine second) (further : Move second third) :
    task = ⟨machine.tasks.length⟩ ∧
      third.tasks = machine.tasks ++ [⟨none, [.handlerEnded target handle]⟩] ∧
      third.ready = machine.ready ++ [.go ⟨some task, []⟩ (.await work)] := by
  obtain ⟨expects, state⟩ := run.beats called presses accepted sound mild going shown
  obtain ⟨rfl, rest, busy⟩ := state.starting (run.sound sound) shown
  obtain rfl := move.of_busy busy
  rw [further.of_busy rfl]
  exact ⟨rfl, rfl, rfl⟩

/-- A task that is seen to be taken on joins the work of the dispatcher, which will be told of
its end, and no task is begun. -/
theorem Run.takes_on {second third : Machine} {handle : Ref .handle} {task : TaskId}
    (run : Run start past machine) (sound : start.Sound)
    (mild : ∀ state ∈ past, state.Mild (start.world.dispatchers.get target).bus target)
    (going : ∀ state ∈ past, ¬ state.Returns owner base)
    (shown : machine.beat? owner base.length = some (.adopts handle task))
    (move : Move machine second) (further : Move second third) :
    task.index < machine.tasks.length ∧ third.tasks.length = machine.tasks.length ∧
      (third.dues task).Perm (.handlerEnded target handle :: machine.dues task) ∧
      (machine.world.dispatchers.Has target →
        (third.world.dispatchers.get target).background =
          enlist (machine.world.dispatchers.get target).background task) := by
  obtain ⟨expects, state⟩ := run.beats called presses accepted sound mild going shown
  obtain ⟨listed, rest, busy⟩ := state.adopting_of_shown (run.sound sound) shown
  obtain rfl := move.of_busy busy
  rw [further.of_busy rfl]
  exact ⟨listed, adopt_takes_on _ handle listed⟩

/-- A press returns, if everybody who is served on its behalf does. -/
theorem completes_press (answered : Answered owner base start) : Completes owner base start := by
  have opened : Reaches owner base start _ :=
    (Reaches.refl start).turn called (going_of_other called rfl)
  rw [advance_press presses accepted] at opened
  have pushed := opened.turn rfl (going_of_other rfl rfl)
  have publishing := pushed.turn rfl (going_of_deeper [] rfl)
  have silent : ∀ frame ∈ [Frame.pressed target button], frame.isServing = false := by
    intro frame member
    rw [List.mem_singleton.mp member]
    rfl
  obtain ⟨next, told, ends⟩ := publishing.told [.pressed target button] answered silent rfl
  have served := told.turn ends (going_of_deeper [] ends)
  exact served.serves answered rfl

end Calls

/-- What a press keeps to.  It latches its button and no other.  The handlers of a button are
listed in the order of their numbers, and no handler is listed for two buttons.  When the
press returns, it has not failed: it has told everybody of itself, once and before it called
any handler, has published nothing more, and has served the handlers that were listed by
then, as `Served` says.  A handler that it calls has not been destroyed.  Work that it starts
becomes one task, and a task that it takes on stays the only one.  And the press does return,
if all who are served on its behalf do. -/
structure Presses (owner : Option TaskId) (base : List Frame) (target : Ref .dispatcher)
    (button : Button) (start : Machine) : Prop where
  latches : ∀ next, Move start next →
    start.world.hardwares.Has (start.world.dispatchers.get target).hardware → ∀ other,
    (next.world.hardwares.get (start.world.dispatchers.get target).hardware).latch other =
      if other = button then true
      else (start.world.hardwares.get (start.world.dispatchers.get target).hardware).latch other
  rostered : ∀ past state, Run start past state → state.world.Rostered ∧
    ∀ other, other ≠ button → ∀ handle ∈ state.world.roll target button,
      handle ∉ state.world.roll target other
  returns : ∀ past machine reply, Run start past machine →
    (∀ state ∈ past, state.Mild (start.world.dispatchers.get target).bus target) →
    (∀ state ∈ past, ¬ state.Returns owner base) →
    machine.control = .busy ⟨owner, base⟩ (.reply reply) →
    reply = .nothing ∧ ∃ early turn late, past = early ++ turn :: late ∧
      Told owner base target button (start.world.dispatchers.get target).bus
        (start.world.pressEvent button)
        (start.world.buses.get (start.world.dispatchers.get target).bus).subscribers early turn ∧
      late.filterMap (published? owner base.length) = [] ∧
      Served machine.world (turn.world.roll target button)
        (late.filterMap (beat? owner base.length))
  invokes : ∀ past machine second third handle world, Run start past machine →
    (∀ state ∈ past, state.Mild (start.world.dispatchers.get target).bus target) →
    (∀ state ∈ past, ¬ state.Returns owner base) →
    machine.beat? owner base.length = some (.calls handle world) →
    Move machine second → Move second third →
    ∃ callback rest, (machine.world.handles.get handle).callback = some callback ∧
      third.control =
        .busy ⟨owner, .pressing target handle rest :: base⟩ (.call callback .empty)
  schedules : ∀ past machine second third handle work task, Run start past machine →
    (∀ state ∈ past, state.Mild (start.world.dispatchers.get target).bus target) →
    (∀ state ∈ past, ¬ state.Returns owner base) →
    machine.beat? owner base.length = some (.starts handle work task) →
    Move machine second → Move second third →
    task = ⟨machine.tasks.length⟩ ∧
      third.tasks = machine.tasks ++ [⟨none, [.handlerEnded target handle]⟩] ∧
      third.ready = machine.ready ++ [.go ⟨some task, []⟩ (.await work)]
  adopts : ∀ past machine second third handle task, Run start past machine →
    (∀ state ∈ past, state.Mild (start.world.dispatchers.get target).bus target) →
    (∀ state ∈ past, ¬ state.Returns owner base) →
    machine.beat? owner base.length = some (.adopts handle task) →
    Move machine second → Move second third →
    task.index < machine.tasks.length ∧ third.tasks.length = machine.tasks.length ∧
      (third.dues task).Perm (.handlerEnded target handle :: machine.dues task) ∧
      (machine.world.dispatchers.Has target →
        (third.world.dispatchers.get target).background =
          enlist (machine.world.dispatchers.get target).background task)
  ends : Answered owner base start → Completes owner base start

variable {looping : Bool} {registry : Registry} {names : List (String × Value)}
variable {before : List Machine}

/-- A handler that takes another one from its list, presses the other button and fails; and
a subscriber that registers one more while it is told of the press. -/
def chime : Program :=
  building <| .define .plain (fun _ => .finish .nothing) fun quiet =>
    .define .plain
      (fun invocation =>
        if invocation = 1 then
          .call (.method (.bridge ⟨0⟩ .onButtonPressed)) ⟨[.button .a, quiet], []⟩ .finish
        else .finish .nothing) fun subscriber =>
      .define .plain
        (fun _ =>
          .call (.method (.dispatcher ⟨0⟩ .unregister)) (.single (.handle ⟨1⟩)) fun _ =>
            .call (.method (.dispatcher ⟨0⟩ .press)) (.single (.button .b)) fun _ =>
              .finish (.complain .noEventLoop)) fun handler =>
        .call (.method (.bridge ⟨0⟩ .onButtonPressed)) ⟨[.button .a, handler], []⟩ fun _ =>
          .call (.method (.bridge ⟨0⟩ .onButtonPressed)) ⟨[.button .a, quiet], []⟩ fun _ =>
            .call (.method (.board ⟨0⟩ .subscribe)) (.single subscriber) fun _ =>
              .call (.method (.board ⟨0⟩ .pressButton)) (.single (.str "A")) .finish

def chiming : Machine := settle 21 (begun chime)

/-- A program that presses a button with two handlers, of which the first one fails without a
text. -/
def hush : Program :=
  building <| .define .plain (fun _ => .finish (.error mute)) fun failing =>
    .define .plain (fun _ => .finish .nothing) fun quiet =>
      .call (.method (.bridge ⟨0⟩ .onButtonPressed)) ⟨[.button .a, failing], []⟩ fun _ =>
        .call (.method (.bridge ⟨0⟩ .onButtonPressed)) ⟨[.button .a, quiet], []⟩ fun _ =>
          .call (.method (.board ⟨0⟩ .pressButton)) (.single (.str "A")) .finish

def hushing : Machine := settle 16 (begun hush)

end Machine

end Microboard
