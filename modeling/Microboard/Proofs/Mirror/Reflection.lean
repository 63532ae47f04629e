import Microboard.Proofs.Machine.Rests
import Microboard.Proofs.Machine.Sound
import Microboard.Proofs.Machine.Subscribers
import Microboard.Proofs.Mirror.Deeds

/-!
# Reflection of a board

A subscription to the events of a board is followed through a run.  A mirror that starts
all zero and takes over the rendering of every event that the subscription receives shows
the board whenever nothing is being published, and right after each delivery.
-/

namespace Microboard

structure Thread.Abides (scope : Scope) (thread : Thread) (focus : Focus) : Prop where
  frames : ∀ frame ∈ thread.stack, frame.Within scope
  inside : focus.Within scope

variable {scope other : Scope}

theorem Thread.Abides.widen {thread : Thread} {focus : Focus}
    (abides : thread.Abides scope focus) (narrower : scope.Narrower other) :
    thread.Abides other focus :=
  ⟨fun frame member => Frame.Within.widen (abides.frames frame member) narrower,
    Focus.Within.widen abides.inside narrower⟩

def Frame.publishesOn (bus : Ref .bus) : Frame → Bool
  | .publishing channel _ _ _ => channel = bus
  | _ => false

def Focus.publishesOn (bus : Ref .bus) : Focus → Bool
  | .within frame focus => frame.publishesOn bus || focus.publishesOn bus
  | .publish channel _ => channel = bus
  | _ => false

theorem Focus.Announces.publishes {bus : Ref .bus} {event : Event} {focus : Focus}
    (announces : focus.Announces scope bus event) : focus.publishesOn bus = true := by
  induction announces with
  | here => simp [publishesOn]
  | within _ _ induction => simp [publishesOn, induction]

namespace Machine

/-- The running thread hands an event round on a bus, or is about to. -/
def publishesOn (bus : Ref .bus) (machine : Machine) : Bool :=
  match machine.control with
  | .idle => false
  | .busy thread focus => thread.stack.any (·.publishesOn bus) || focus.publishesOn bus

theorem begins_abides : Begins (Thread.Abides scope) where
  tasks _ _ := ⟨fun _ member => absurd member List.not_mem_nil, trivial⟩
  spawned _ _ := by
    constructor
    case frames =>
      intro frame member
      cases List.mem_singleton.mp member
      trivial
    case inside => trivial
  programs _ _ := ⟨fun _ member => absurd member List.not_mem_nil, trivial⟩

def rendering? : Value → Option Entries
  | .event event _ => some event.record
  | _ => none

/-- The rendering that a subscription is about to receive. -/
def heard? (bus : Ref .bus) (id : Nat) (machine : Machine) : Option Entries :=
  match machine.control with
  | .busy _ (.within (.publishing channel _ current _) (.call _ arguments)) =>
    if channel = bus ∧ current = id then rendering? (arguments.get 0 "event") else none
  | _ => none

/-- The mirror of an observer that has received all that its subscription was given. -/
def reflection (bus : Ref .bus) (id : Nat) (past : List Machine) : Mirror :=
  (past.filterMap (heard? bus id)).foldl Mirror.hear .zero

/-- How an event stands to the mirror of a subscription while it is handed round: those
who still wait for it are to learn of the change. -/
structure Due (id : Nat) (others : List (Nat × Value)) (event : Event)
    (mirror picture : Mirror) : Prop where
  single : (others.map (·.1)).Nodup
  ahead : id ∈ others.map (·.1) → picture = mirror.hear event.record
  behind : id ∉ others.map (·.1) → picture = mirror

/-- The shapes of a machine by how a mirror stands to a board. -/
inductive Mirrors (board : Board) (id : Nat) (mirror : Mirror) (machine : Machine) : Prop where
  | rests (idle : machine.control = .idle) (shows : machine.world.picture board = mirror)
  | calm {thread : Thread} {focus : Focus} (busy : machine.control = .busy thread focus)
      (abides : thread.Abides (machine.world.around board) focus)
      (shows : machine.world.picture board = mirror)
  | owes {thread : Thread} {focus : Focus} {event : Event}
      (busy : machine.control = .busy thread focus)
      (frames : ∀ frame ∈ thread.stack, frame.Within (machine.world.around board))
      (announces : focus.Announces (machine.world.around board) board.bus event)
      (told : machine.world.picture board = mirror.hear event.record)
  | hands {owner : Option TaskId} {below : List Frame} {event : Event} {identity : Nat}
      (others : List (Nat × Value))
      (busy : machine.control =
        .busy ⟨owner, below⟩ (World.publishRest board.bus (.event event identity) others))
      (frames : ∀ frame ∈ below, frame.Within (machine.world.around board))
      (due : Due id others event mirror (machine.world.picture board))
  | serves {owner : Option TaskId} {above below : List Frame} {focus : Focus} {event : Event}
      {identity current : Nat} (others : List (Nat × Value))
      (busy : machine.control =
        .busy ⟨owner, above ++ .publishing board.bus (.event event identity) current others ::
          below⟩ focus)
      (serving : Serving board.hardware (fun channel => channel ≠ board.bus) machine.world above
        focus)
      (frames : ∀ frame ∈ below, frame.Within (machine.world.around board))
      (due : Due id others event mirror (machine.world.picture board))

/-- A mirror follows a board. -/
structure Follows (board : Board) (id : Nat) (mirror : Mirror) (machine : Machine) : Prop where
  attended : machine.world.Attended board id
  rests : machine.Rests (Thread.Abides (machine.world.around board))
  mirrors : Mirrors board id mirror machine

variable {machine next : Machine} {board : Board} {id : Nat} {mirror : Mirror}

theorem heard?_of_within {thread : Thread} {focus : Focus}
    (busy : machine.control = .busy thread focus)
    (inside : focus.Within (machine.world.around board)) : machine.heard? board.bus id = none := by
  unfold heard?
  split
  next channel event current rest value arguments running =>
    rw [busy] at running
    cases running
    have differs : channel ≠ board.bus := inside.1
    simp [differs]
  next => rfl

theorem heard?_of_announces {thread : Thread} {focus : Focus} {event : Event}
    (busy : machine.control = .busy thread focus)
    (announces : focus.Announces scope board.bus event) : machine.heard? board.bus id = none := by
  cases announces with
  | here => simp [heard?, busy]
  | within inside announces => cases announces <;> simp [heard?, busy]

/-- What a turn leaves of a subscription and of a mirror. -/
structure Turned (board : Board) (id : Nat) (mirror : Mirror) (machine next : Machine) :
    Prop where
  attends : machine.world.Attended board id → next.world.Attended board id
  mirrors : Mirrors board id mirror next

theorem turned_of_deed {thread : Thread} {result : World × Focus}
    (deed : World.Deed board id machine.world result)
    (grows : World.Grows machine.world result.1)
    (frames : ∀ frame ∈ thread.stack, frame.Within (machine.world.around board)) :
    Turned board id (machine.world.picture board) machine (machine.go thread result) := by
  have narrower : (machine.world.around board).Narrower (result.1.around board) :=
    World.around_grows grows
  have kept : ∀ frame ∈ thread.stack, frame.Within (result.1.around board) :=
    fun frame member => Frame.Within.widen (frames frame member) narrower
  refine ⟨deed.attends, ?_⟩
  cases deed.accounts with
  | silent same inside => exact .calm rfl ⟨kept, Focus.Within.widen inside narrower⟩ same
  | tells event announces told => exact .owes rfl kept (announces.widen narrower) told

theorem turned_of_turn {owner : Option TaskId} {stack : List Frame}
    (turn : Turn (machine.world.aside board) machine owner stack next)
    (wired : machine.world.Wired board)
    (frames : ∀ frame ∈ stack, frame.Within (machine.world.around board)) :
    Turned board id (machine.world.picture board) machine next := by
  have attends (steps : World.Steps (machine.world.aside board) machine.world next.world)
      (attended : machine.world.Attended board id) : next.world.Attended board id := by
    rw [World.Attended, (steps.aside wired).2]
    exact attended
  cases turn with
  | goes above focus steps busy fresh inside =>
      have narrower : (machine.world.around board).Narrower (next.world.around board) :=
        World.around_grows steps.grows
      refine ⟨attends steps, .calm busy ?_ (steps.aside wired).1⟩
      constructor
      case frames =>
        intro frame member
        rcases List.mem_append.mp member with early | late
        · exact Frame.Within.widen
            (Frame.Within.widen (fresh frame early) World.aside_narrower) narrower
        · exact Frame.Within.widen (frames frame late) narrower
      case inside =>
        exact Focus.Within.widen (Focus.Within.widen inside World.aside_narrower) narrower
  | parks above steps idle => exact ⟨attends steps, .rests idle (steps.aside wired).1⟩

variable {target : Ref .board}

theorem advance_calm {thread : Thread} {focus : Focus} (sound : machine.Sound)
    (has : machine.world.boards.Has target) (own : machine.world.boards.get target = board)
    (busy : machine.control = .busy thread focus)
    (abides : thread.Abides (machine.world.around board) focus)
    (proper : focus.Proper machine.world target id) :
    Turned board id (machine.world.picture board) machine (machine.advance thread focus) := by
  have wired : machine.world.Wired board := own ▸ sound.world.board target has
  have grows : World.Grows machine.world (machine.advance thread focus).world :=
    (Move.turn busy).grows sound
  have closed : (machine.world.aside board).Closed machine.world :=
    World.apart_closed sound.world
  have turns (inside : focus.Within (machine.world.aside board))
      (permitted : focus.Permitted (machine.world.aside board) machine.world)
      (going : ∀ reply, focus ≠ .reply reply) :
      Turned board id (machine.world.picture board) machine (machine.advance thread focus) :=
    turned_of_turn
      (advance_turn closed (fun _ member => absurd member List.not_mem_nil) inside permitted
        fun reply same => absurd same (going reply))
      wired abides.frames
  cases focus with
  | reply reply =>
      simp only [advance] at grows ⊢
      split
      next empty =>
        unfold finish
        split <;> exact ⟨fun attended => attended, .rests rfl rfl⟩
      next frame rest listed =>
        rw [listed] at grows
        have inside := abides.frames
        rw [listed] at inside
        exact turned_of_deed
          (World.resume_deed wired sound.world (inside frame List.mem_cons_self) reply) grows
          fun other member => inside other (List.mem_cons_of_mem _ member)
  | within frame focus =>
      refine ⟨fun attended => attended, .calm rfl ⟨?_, abides.inside.2⟩ rfl⟩
      intro other member
      rcases List.mem_cons.mp member with rfl | below
      · exact abides.inside.1
      · exact abides.frames other below
  | call value arguments =>
      have deed := World.callValue_deed wired sound.world own proper
      cases proper with
      | bridge | board | leaves | leavesBy => exact turned_of_deed deed grows abides.frames
      | apart permitted => exact turns trivial (own ▸ permitted) fun _ => Focus.noConfusion
  | await work =>
      cases work with
      | body | future => exact turns trivial trivial fun _ => Focus.noConfusion
      | _ =>
          exact turned_of_deed (World.begin_deed wired sound.world (own ▸ proper)) grows
            abides.frames
  | _ => exact turns abides.inside trivial fun _ => Focus.noConfusion

theorem due_of_subscribed {subscribers : List (Nat × Value)} {event : Event} {picture : Mirror}
    (single : (subscribers.map (·.1)).Nodup) (attended : id ∈ subscribers.map (·.1))
    (told : picture = mirror.hear event.record) : Due id subscribers event mirror picture :=
  ⟨single, fun _ => told, fun missing => absurd attended missing⟩

theorem Due.received {current : Nat} {subscriber : Value} {rest : List (Nat × Value)}
    {event : Event} {picture : Mirror}
    (due : Due id ((current, subscriber) :: rest) event mirror picture) :
    Due id rest event (if current = id then mirror.hear event.record else mirror) picture := by
  obtain ⟨fresh, single⟩ := List.nodup_cons.mp due.single
  by_cases own : current = id
  · subst own
    rw [if_pos rfl]
    exact ⟨single, fun again => absurd again fresh, fun _ => due.ahead List.mem_cons_self⟩
  · rw [if_neg own]
    refine ⟨single, fun ahead => due.ahead (List.mem_cons_of_mem _ ahead), ?_⟩
    intro behind
    apply due.behind
    intro member
    rcases List.mem_cons.mp member with same | later
    · exact own same.symm
    · exact behind later

def hearing (bus : Ref .bus) (id : Nat) (machine : Machine) (mirror : Mirror) : Mirror :=
  (machine.heard? bus id).toList.foldl Mirror.hear mirror

theorem hearing_of_none {bus : Ref .bus} (silent : machine.heard? bus id = none) :
    machine.hearing bus id mirror = mirror := by
  rw [hearing, silent]
  rfl

theorem Mirrors.advance {thread : Thread} {focus : Focus}
    (mirrors : Mirrors board id mirror machine) (attended : machine.world.Attended board id)
    (sound : machine.Sound) (has : machine.world.boards.Has target)
    (own : machine.world.boards.get target = board)
    (busy : machine.control = .busy thread focus)
    (civil : machine.Civil board.hardware board.bus fun channel => channel ≠ board.bus)
    (proper : focus.Proper machine.world target id) :
    Turned board id (machine.hearing board.bus id mirror) machine
      (machine.advance thread focus) := by
  have wired : machine.world.Wired board := own ▸ sound.world.board target has
  cases mirrors with
  | rests idle =>
      rw [busy] at idle
      cases idle
  | calm running abides shows =>
      obtain ⟨rfl, rfl⟩ := Control.busy.inj (running.symm.trans busy)
      rw [hearing_of_none (heard?_of_within busy abides.inside), ← shows]
      exact advance_calm sound has own busy abides proper
  | @owes _ _ event running frames announces told =>
      obtain ⟨rfl, rfl⟩ := Control.busy.inj (running.symm.trans busy)
      rw [hearing_of_none (heard?_of_announces busy announces)]
      cases announces with
      | here identity =>
          have single : ((machine.world.buses.get board.bus).subscribers.map (·.1)).Nodup :=
            (sound.world.bus _ wired.hasBus).ascending.imp Nat.ne_of_lt
          exact ⟨fun attended => attended,
            .hands _ rfl frames (due_of_subscribed single attended told)⟩
      | within inside announces =>
          refine ⟨fun attended => attended, .owes rfl ?_ announces told⟩
          intro other member
          rcases List.mem_cons.mp member with rfl | below
          · exact inside
          · exact frames other below
  | @hands owner below event identity others running frames due =>
      obtain ⟨rfl, rfl⟩ := Control.busy.inj (running.symm.trans busy)
      cases others with
      | nil =>
          have silent : machine.heard? board.bus id = none := by
            simp [heard?, busy, World.publishRest, Focus.nothing]
          rw [hearing_of_none silent, ← due.behind List.not_mem_nil]
          exact advance_calm sound has own busy ⟨frames, trivial⟩ trivial
      | cons subscription rest =>
          obtain ⟨current, subscriber⟩ := subscription
          have served : Serving board.hardware (fun channel => channel ≠ board.bus)
              machine.world [] (.call subscriber (.single (.event event identity))) :=
            ⟨fun _ member => absurd member List.not_mem_nil, trivial⟩
          have heard : machine.hearing board.bus id mirror =
              if current = id then mirror.hear event.record else mirror := by
            by_cases same : current = id <;>
              simp [hearing, heard?, busy, World.publishRest, same, rendering?, Arguments.get,
                Arguments.find?, Arguments.single]
          rw [heard]
          exact ⟨fun attended => attended,
            .serves rest (show _ = Control.busy ⟨owner, [] ++ _⟩ _ from rfl) served frames
              due.received⟩
  | @serves owner above below focus event identity current others running serving frames due =>
      obtain ⟨rfl, rfl⟩ := Control.busy.inj (running.symm.trans busy)
      have inside : focus.Within (machine.world.around board) :=
        Focus.Within.widen serving.inside World.aside_narrower
      rw [hearing_of_none (heard?_of_within busy inside)]
      obtain ⟨steps, goes⟩ := serving.advance sound civil busy
      obtain ⟨picture, bus⟩ := steps.aside wired
      have kept : ∀ frame ∈ below, frame.Within
          ((machine.advance _ focus).world.around board) := fun frame member =>
        Frame.Within.widen (frames frame member) (World.around_grows steps.grows)
      rw [← picture] at due
      constructor
      case attends =>
        intro attended
        rw [World.Attended, bus]
        exact attended
      case mirrors =>
        rcases goes with handed | ⟨after, focus', control, served⟩
        · exact .hands others handed kept due
        · exact .serves others control served kept due

theorem Mirrors.settled (mirrors : Mirrors board id mirror machine)
    (quiet : machine.publishesOn board.bus = false) : machine.world.picture board = mirror := by
  cases mirrors with
  | rests idle shows => exact shows
  | calm busy abides shows => exact shows
  | owes busy frames announces told =>
      simp [publishesOn, busy, announces.publishes] at quiet
  | hands others busy frames due =>
      cases others with
      | nil => exact due.behind List.not_mem_nil
      | cons => simp [publishesOn, busy, World.publishRest, Focus.publishesOn, Frame.publishesOn]
          at quiet
  | serves others busy => simp [publishesOn, busy, Frame.publishesOn] at quiet

theorem Mirrors.informed {record : Entries} (mirrors : Mirrors board id mirror machine)
    (heard : machine.heard? board.bus id = some record) (move : Move machine next) :
    next.world.picture board = machine.hearing board.bus id mirror := by
  have told (silent : machine.heard? board.bus id = none) :
      next.world.picture board = machine.hearing board.bus id mirror := by
    rw [heard] at silent
    cases silent
  cases mirrors with
  | rests idle => exact told (by simp [heard?, idle])
  | calm busy abides => exact told (heard?_of_within busy abides.inside)
  | owes busy frames announces => exact told (heard?_of_announces busy announces)
  | serves others busy serving =>
      exact told (heard?_of_within busy (Focus.Within.widen serving.inside World.aside_narrower))
  | hands others busy frames due =>
      cases others with
      | nil => exact told (by simp [heard?, busy, World.publishRest, Focus.nothing])
      | cons subscription rest =>
          obtain ⟨current, subscriber⟩ := subscription
          by_cases same : current = id
          · subst same
            rw [move.of_busy busy]
            apply (due.ahead List.mem_cons_self).trans
            simp [hearing, heard?, busy, World.publishRest, rendering?, Arguments.get,
              Arguments.find?, Arguments.single]
          · exact told (by simp [heard?, busy, World.publishRest, same])

theorem Mirrors.suspends {thread : Thread} {focus : Focus}
    (mirrors : Mirrors board id mirror machine) (busy : machine.control = .busy thread focus)
    (civil : machine.Civil board.hardware board.bus fun channel => channel ≠ board.bus)
    (suspends : focus.Suspends) : thread.Abides (machine.world.around board) .nothing := by
  cases mirrors with
  | rests idle =>
      rw [busy] at idle
      cases idle
  | calm running abides =>
      obtain ⟨rfl, rfl⟩ := Control.busy.inj (running.symm.trans busy)
      exact ⟨abides.frames, trivial⟩
  | owes running frames announces =>
      obtain ⟨rfl, rfl⟩ := Control.busy.inj (running.symm.trans busy)
      exact ⟨frames, trivial⟩
  | hands others running frames =>
      obtain ⟨rfl, rfl⟩ := Control.busy.inj (running.symm.trans busy)
      exact ⟨frames, trivial⟩
  | serves others running =>
      obtain ⟨rfl, rfl⟩ := Control.busy.inj (running.symm.trans busy)
      obtain ⟨sleeps, waits⟩ := civil.awake _ _ busy
        ⟨_, _, _, List.mem_append_right _ List.mem_cons_self⟩
      rcases suspends with ⟨interval, same⟩ | ⟨tasks, same⟩
      · exact absurd same (sleeps interval)
      · exact absurd same (waits tasks)

def Proper (target : Ref .board) (id : Nat) (machine : Machine) : Prop :=
  ∀ thread focus, machine.control = .busy thread focus → focus.Proper machine.world target id

/-- Every move keeps a mirror that follows a board. -/
theorem Follows.move (follows : Follows board id mirror machine) (move : Move machine next)
    (sound : machine.Sound) (has : machine.world.boards.Has target)
    (own : machine.world.boards.get target = board)
    (civil : machine.Civil board.hardware board.bus fun channel => channel ≠ board.bus)
    (proper : machine.Proper target id) :
    Follows board id (machine.hearing board.bus id mirror) next := by
  have narrower : (machine.world.around board).Narrower (next.world.around board) :=
    World.around_grows (move.grows sound)
  cases control : machine.control with
  | idle =>
      have wired : machine.world.Wired board := own ▸ sound.world.board target has
      have steps : World.Steps (machine.world.aside board) machine.world next.world :=
        move.steps_of_idle control
      obtain ⟨picture, bus⟩ := steps.aside wired
      obtain ⟨rests, running⟩ := follows.rests.idle begins_abides control move
      have shows : next.world.picture board = mirror :=
        picture.trans (follows.mirrors.settled (by simp [publishesOn, control]))
      have silent : machine.heard? board.bus id = none := by simp [heard?, control]
      rw [hearing_of_none silent]
      refine ⟨?_, rests.mono fun _ _ abides => abides.widen narrower, ?_⟩
      · rw [World.Attended, bus]
        exact follows.attended
      · cases after : next.control with
        | idle => exact .rests after shows
        | busy thread focus => exact .calm after ((running thread focus after).widen narrower) shows
  | busy thread focus =>
      have turned := follows.mirrors.advance follows.attended sound has own control civil
        (proper thread focus control)
      have rests := follows.rests.advance begins_abides
        (follows.mirrors.suspends control civil)
      rw [move.of_busy control] at narrower ⊢
      exact ⟨turned.attends follows.attended,
        rests.mono fun _ _ abides => abides.widen narrower, turned.mirrors⟩

theorem reflection_snoc (bus : Ref .bus) (past : List Machine) :
    reflection bus id (past ++ [machine]) = machine.hearing bus id (reflection bus id past) := by
  rw [reflection, filterMap_snoc, List.foldl_append]
  rfl

variable {start : Machine} {past : List Machine}

theorem Run.follows (run : Run start past machine) (sound : start.Sound)
    (has : start.world.boards.Has target) (own : start.world.boards.get target = board)
    (begun : Follows board id .zero start)
    (civil : ∀ state ∈ past,
      state.Civil board.hardware board.bus fun channel => channel ≠ board.bus)
    (proper : ∀ state ∈ past, state.Proper target id) :
    Follows board id (reflection board.bus id past) machine := by
  induction run with
  | refl => exact begun
  | @move past machine next run move induction =>
      obtain ⟨civilBefore, civilLast⟩ := forall_snoc civil
      obtain ⟨properBefore, properLast⟩ := forall_snoc proper
      obtain ⟨still, same⟩ := (run.grows sound).boards target has
      rw [reflection_snoc]
      exact (induction civilBefore properBefore).move move (run.sound sound) still
        (same ▸ own) civilLast properLast

/-- A board as it is when it has just been built: its hardware is at power-on, and no
thread is about to tell of it. -/
structure Fresh (board : Board) (machine : Machine) : Prop where
  hardware : machine.world.hardwares.get board.hardware =
    .initial board.config.pins.pinIds board.config.display.width board.config.display.height
  rests : machine.Rests (Thread.Abides (machine.world.around board))
  running : ∀ thread focus, machine.control = .busy thread focus →
    thread.Abides (machine.world.around board) focus

theorem Fresh.follows (fresh : machine.Fresh board) (attended : machine.world.Attended board id) :
    Follows board id .zero machine := by
  have picture : machine.world.picture board = .zero := by
    rw [World.picture, fresh.hardware]
    exact Hardware.mirror_initial _ _ _
  refine ⟨attended, fresh.rests, ?_⟩
  cases control : machine.control with
  | idle => exact .rests control picture
  | busy thread focus => exact .calm control (fresh.running thread focus control) picture

/-- The mirror of an observer shows the snapshot of a board right after each delivery, and
whenever nothing is being published. -/
structure Reflects (board : Board) (id : Nat) (past : List Machine) (machine : Machine) :
    Prop where
  informed : ∀ earlier last, past = earlier ++ [last] → last.heard? board.bus id ≠ none →
    (machine.world.hardwares.get board.hardware).snapshot.mirror = reflection board.bus id past
  settled : machine.publishesOn board.bus = false →
    (machine.world.hardwares.get board.hardware).snapshot.mirror = reflection board.bus id past

variable {looping : Bool} {registry : Registry} {names : List (String × Value)}
variable {before : List Machine}

/-- Whatever is done with a board and in whatever order, an observer that has subscribed
when the board was built can tell its state from the events that it receives. -/
theorem mirror_reflects_board
    (reached : Run (initial (.initial looping registry) names) before start)
    (has : start.world.boards.Has target) (fresh : start.Fresh (start.world.boards.get target))
    (attended : start.world.Attended (start.world.boards.get target) id)
    (run : Run start past machine)
    (civil : ∀ state ∈ past, state.Civil (start.world.boards.get target).hardware
      (start.world.boards.get target).bus
      fun channel => channel ≠ (start.world.boards.get target).bus)
    (proper : ∀ state ∈ past, state.Proper target id) :
    Reflects (start.world.boards.get target) id past machine := by
  have sound := reached.sound (sound_initial looping registry names)
  have begun := fresh.follows attended
  constructor
  case informed =>
    rintro earlier last rfl heard
    obtain ⟨record, found⟩ := Option.ne_none_iff_exists'.mp heard
    obtain ⟨led, move⟩ := run.last
    have follows :=
      led.follows sound has rfl begun (forall_snoc civil).1 (forall_snoc proper).1
    rw [reflection_snoc]
    exact follows.mirrors.informed found move
  case settled =>
    exact (run.follows sound has rfl begun civil proper).mirrors.settled

/-- An evident case of what is relied on: recorders and callbacks are called, and the board
and its bridge while no subscriber is served. -/
def evidentlyPolite (target : Ref .board) (machine : Machine) : Bool :=
  match machine.control with
  | .idle => true
  | .busy thread focus =>
    let alone := thread.stack.all fun frame => !frame.isPublishing
    match focus with
    | .call (.recorder _) _ | .call (.callback _) _ => true
    | .call (.method (.bridge bridge _)) _ =>
      alone && bridge = (machine.world.boards.get target).bridge
    | .call (.method (.board board _)) _ => alone && board = target
    | .reply (.error _) => alone
    | .call .. | .await _ | .sleep _ | .wait _ => false
    | _ => true

theorem civil_of_polite {hardware : Ref .hardware} {bus : Ref .bus} {channels : Ref .bus → Prop}
    (polite : machine.evidentlyPolite target = true) :
    machine.Civil hardware bus channels := by
  unfold evidentlyPolite at polite
  constructor
  case ordinary =>
    unfold ordinaryOn
    split
    next busy => simp [busy, Frame.isPublishing] at polite
    next => rfl
  case apart =>
    intro thread focus busy serves
    simp only [busy, serves.shown, Bool.false_and] at polite
    cases focus with
    | call value arguments =>
        cases value with
        | method method => cases method <;> cases polite
        | _ => trivial
    | await => cases polite
    | _ => trivial
  case awake =>
    intro thread focus busy serves
    simp only [busy] at polite
    cases focus with
    | sleep | wait => cases polite
    | _ => exact ⟨fun _ => Focus.noConfusion, fun _ => Focus.noConfusion⟩

theorem proper_of_polite (polite : machine.evidentlyPolite target = true) :
    machine.Proper target id := by
  intro thread focus busy
  unfold evidentlyPolite at polite
  rw [busy] at polite
  cases focus with
  | call value arguments =>
      cases value with
      | recorder | callback => exact .apart trivial
      | method method =>
          cases method with
          | bridge bridge operation =>
              simp only [Bool.and_eq_true, decide_eq_true_eq] at polite
              rw [polite.2]
              exact .bridge operation
          | board board operation =>
              simp only [Bool.and_eq_true, decide_eq_true_eq] at polite
              rw [polite.2]
              exact .board operation
          | _ => cases polite
      | _ => cases polite
  | await => cases polite
  | _ => trivial

def press : Program :=
  building <| .call (.method (.board ⟨0⟩ .subscribe)) (.single (.recorder "events")) fun _ =>
    .define .plain
      (fun _ => .call (.method (.bridge ⟨0⟩ .plot)) ⟨[.bool true, .int 0], []⟩ .finish)
      fun callback =>
        .call (.method (.bridge ⟨0⟩ .onButtonPressed)) ⟨[.button .a, callback], []⟩ fun _ =>
          .call (.method (.board ⟨0⟩ .pressButton)) (.single (.button .a)) .finish

def subscribed : Machine := settle 7 (begun press)

theorem fresh_subscribed : subscribed.Fresh (subscribed.world.boards.get ⟨0⟩) := by
  constructor
  case hardware => rfl
  case rests =>
    constructor
    case queued =>
      intro thread focus member
      cases (show _ ∈ ([] : List Job) from member)
    case asleep =>
      intro sleeper member
      cases (show _ ∈ ([] : List Sleeper) from member)
    case waits =>
      intro waiter member
      cases (show _ ∈ ([] : List Waiter) from member)
  case running =>
    intro thread focus busy
    have shown : subscribed.control = .busy ⟨none, [.program _]⟩ (.value (.token ⟨0⟩ 1)) := rfl
    obtain ⟨rfl, rfl⟩ := Control.busy.inj (shown.symm.trans busy)
    constructor
    case frames =>
      intro frame member
      cases List.mem_singleton.mp member
      trivial
    case inside => trivial

theorem mirror_reflects_board_press :
    Reflects (subscribed.world.boards.get ⟨0⟩) 1 (visited 31 subscribed)
      (settle 31 subscribed) := by
  have polite : (visited 31 subscribed).all (evidentlyPolite ⟨0⟩) = true := rfl
  have all := List.all_eq_true.mp polite
  exact mirror_reflects_board (run_begun press 7) (by decide) fresh_subscribed
    List.mem_cons_self (run_settle 31 subscribed)
    (fun state member => civil_of_polite (all state member))
    fun state member => proper_of_polite (all state member)

end Machine

end Microboard
