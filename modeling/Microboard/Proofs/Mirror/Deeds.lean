import Microboard.Proofs.Board.Stop
import Microboard.Proofs.Mirror.Hearing
import Microboard.Proofs.World.Apart

/-!
# Deeds of a board

What every operation of a board does to the picture of its hardware.  Either the picture
stays as it is, or the operation is about to publish an event whose rendering makes the
same change.
-/

namespace Microboard

/-- An operation is on its way to publish an event, through operations that wait. -/
inductive Focus.Announces (scope : Scope) (bus : Ref .bus) (event : Event) : Focus → Prop where
  | here (identity : Nat) : Announces scope bus event (.publish bus (.event event identity))
  | within {frame : Frame} {focus : Focus} (inside : frame.Within scope)
      (announces : Announces scope bus event focus) :
      Announces scope bus event (.within frame focus)

theorem Focus.Announces.widen {scope other : Scope} {bus : Ref .bus} {event : Event}
    {focus : Focus} (announces : focus.Announces scope bus event)
    (narrower : scope.Narrower other) : focus.Announces other bus event := by
  induction announces with
  | here identity => exact .here identity
  | within inside _ induction => exact .within (Frame.Within.widen inside narrower) induction

namespace World

/-- Everything that keeps apart from a board. -/
abbrev aside (world : World) (board : Board) : Scope :=
  world.apart board.hardware fun channel => channel ≠ board.bus

/-- Everything that keeps apart from a board, and the bridge of the board. -/
def around (world : World) (board : Board) : Scope :=
  { world.aside board with
    bridge := fun target => target = board.bridge ∨ (world.aside board).bridge target }

def picture (world : World) (board : Board) : Mirror :=
  (world.hardwares.get board.hardware).mirror

def Attended (world : World) (board : Board) (id : Nat) : Prop :=
  id ∈ (world.buses.get board.bus).ids

end World

/-- A call that leaves a subscription to the events of a board alone: an operation of the
board or of its bridge, the end of another subscription, or a call that keeps apart from
the board. -/
inductive Value.Proper (world : World) (target : Ref .board) (id : Nat)
    (arguments : Arguments) : Value → Prop where
  | bridge (operation : BridgeMethod) :
      Proper world target id arguments
        (.method (.bridge (world.boards.get target).bridge operation))
  | board (operation : BoardMethod) :
      Proper world target id arguments (.method (.board target operation))
  | leaves {other : Nat} (differs : id ≠ other) :
      Proper world target id arguments (.token (world.boards.get target).bus other)
  | leavesBy {other : Nat} (differs : id ≠ other) :
      Proper world target id arguments (.method (.token (world.boards.get target).bus other))
  | apart {value : Value}
      (permitted : value.Permitted (world.aside (world.boards.get target)) world arguments) :
      Proper world target id arguments value

/-- The call or the awaited work that is at hand is proper; a board is not closed. -/
def Focus.Proper (world : World) (target : Ref .board) (id : Nat) : Focus → Prop
  | .call value arguments => value.Proper world target id arguments
  | .await work => work.Within (world.around (world.boards.get target)) world
  | _ => True

namespace World

variable {world old new : World} {board : Board} {id : Nat}

theorem aside_narrower : (world.aside board).Narrower (world.around board) where
  hardware _ inside := inside
  bus _ inside := inside
  dispatcher _ inside := inside
  bridge _ inside := .inr inside
  board _ inside := inside

theorem around_grows (grows : Grows old new) : (old.around board).Narrower (new.around board) where
  hardware _ inside := inside
  bus _ inside := inside
  dispatcher _ inside := inside.grows grows
  bridge _ inside := inside.imp id fun apart => apart.grows grows
  board _ inside := inside.grows grows

/-- A change of the world accounts for what it does to the picture of a board. -/
inductive Accounts (board : Board) (world : World) (next : World × Focus) : Prop where
  | silent (same : next.1.picture board = world.picture board)
      (inside : next.2.Within (world.around board))
  | tells (event : Event) (announces : next.2.Announces (world.around board) board.bus event)
      (told : next.1.picture board = (world.picture board).hear event.record)

/-- What an operation does to a board, as a subscriber of its events sees it. -/
structure Deed (board : Board) (id : Nat) (world : World) (next : World × Focus) : Prop where
  attends : world.Attended board id → next.1.Attended board id
  accounts : Accounts board world next

theorem Deed.within {next : World × Focus} {frame : Frame} (deed : Deed board id world next)
    (inside : frame.Within (world.around board)) :
    Deed board id world (next.1, .within frame next.2) := by
  refine ⟨deed.attends, ?_⟩
  cases deed.accounts with
  | silent same focus => exact .silent same ⟨inside, focus⟩
  | tells event announces told => exact .tells event (.within inside announces) told

theorem deed_reply (reply : Reply) : Deed board id world (world, .reply reply) :=
  ⟨fun attended => attended, .silent rfl trivial⟩

theorem Steps.aside (steps : Steps (old.aside board) old new) (wired : old.Wired board) :
    new.picture board = old.picture board ∧
      new.buses.get board.bus = old.buses.get board.bus :=
  ⟨congrArg Hardware.mirror (steps.hardware_apart wired.hasHardware),
    steps.bus_outside wired.hasBus fun inside => inside rfl⟩

/-- Whatever keeps apart from a board is a silent deed. -/
theorem Deed.of_conduct {next : World × Focus} (wired : world.Wired board)
    (conduct : Conduct (world.aside board) world next) : Deed board id world next := by
  obtain ⟨picture, bus⟩ := conduct.steps.aside wired
  constructor
  case attends =>
    intro attended
    rw [Attended, bus]
    exact attended
  case accounts => exact .silent picture (Focus.Within.widen conduct.focus aside_narrower)

theorem deed_announce (wired : world.Wired board) {change : Hardware → Hardware} {event : Event}
    (told : (change (world.hardwares.get board.hardware)).mirror =
      (world.picture board).hear event.record) :
    Deed board id world ((world.setHardware board.hardware change).announce board.bus event) := by
  refine ⟨fun attended => attended, .tells event (.here _) ?_⟩
  exact (congrArg Hardware.mirror (Arena.get_modify_self change wired.hasHardware)).trans told

variable (wired : world.Wired board) (sound : world.Sound)
include wired

theorem press_deed (button : Value) :
    Deed board id world (world.press board.dispatcher button) := by
  unfold press
  cases button.toButton with
  | error fault => exact deed_reply _
  | ok known =>
      simp only [wired.dispatcher.1, wired.dispatcher.2]
      refine Deed.within ?_ trivial
      apply deed_announce wired
      rw [Hardware.mirror_writeLatch, Mirror.hear_buttonPress]
      rfl

theorem reset_deed : Deed board id world (world.resetBoard board.bridge) := by
  rw [resetBoard_eq wired]
  constructor
  case attends =>
    intro attended
    change id ∈ ((world.stopped board).buses.get board.bus).ids
    rw [stopped_buses]
    exact attended
  case accounts =>
    refine .tells .reset (.within trivial (.here _)) ?_
    apply (congrArg Hardware.mirror (stopped_hardware wired)).trans
    rw [Hardware.mirror_reset, Mirror.hear_reset]

theorem digitalWrite_deed (pin level : Value) :
    Deed board id world (world.digitalWrite board.bridge pin level) := by
  have hardware := congrArg Bridge.hardware wired.bridge
  have bus := congrArg Bridge.bus wired.bridge
  rcases digitalWrite_cases world board.bridge pin level with
    ⟨fault, failed⟩ | ⟨name, stored, known, written⟩
  · rw [failed]
    exact deed_reply _
  · rw [hardware] at known
    rw [written, hardware, bus]
    apply deed_announce wired
    rw [Hardware.mirror_writePin known, Mirror.hear_pinChange]
    rfl

theorem analogWrite_deed (pin level : Value) :
    Deed board id world (world.storeHardware board.hardware
      ((world.hardwares.get board.hardware).setLevel .analog pin level)) := by
  cases written : (world.hardwares.get board.hardware).setLevel .analog pin level with
  | error fault => exact deed_reply _
  | ok changed =>
      obtain ⟨name, stored, -, -, -, rfl⟩ := Hardware.setLevel_eq_ok written
      refine ⟨fun attended => attended, .silent ?_ trivial⟩
      apply (congrArg Hardware.mirror (Arena.get_modify_self _ wired.hasHardware)).trans
      exact Hardware.mirror_writeAnalog _ _ _

theorem subscribe_deed (subscriber : Value) :
    Deed board id world (world.subscribe board.bus subscriber) := by
  unfold subscribe
  by_cases callable : subscriber.isCallable = true
  · simp only [callable, if_true]
    constructor
    case attends =>
      intro attended
      rw [Attended, setBus, Arena.get_modify_self _ wired.hasBus, Bus.ids_subscribe]
      exact List.mem_append_left _ attended
    case accounts => exact .silent rfl trivial
  · simp only [callable]
    exact deed_reply _

theorem unsubscribe_deed {other : Nat} (differs : id ≠ other) :
    Deed board id world (world.unsubscribe board.bus (.token board.bus other)) := by
  simp only [unsubscribe, if_true]
  constructor
  case attends =>
    intro attended
    rw [Attended, setBus, Arena.get_modify_self _ wired.hasBus, Bus.ids_unsubscribe]
    exact List.mem_filter.mpr ⟨attended, by simpa using differs⟩
  case accounts => exact .silent rfl trivial

theorem sweep_deed (places : List (Nat × Nat)) :
    Deed board id world (world.sweep board.bridge places) := by
  cases places with
  | nil => exact deed_reply _
  | cons place rest =>
      simp only [sweep, congrArg Bridge.hardware wired.bridge, congrArg Bridge.bus wired.bridge]
      refine Deed.within (deed_announce wired ?_) (.inl rfl)
      rw [Hardware.mirror_darken, Mirror.hear_ledChange]
      rfl

include sound

theorem drawCell_deed (x y : Value) (lit : Bool) :
    Deed board id world (world.drawCell board.bridge x y lit) := by
  have hardware := congrArg Bridge.hardware wired.bridge
  have bus := congrArg Bridge.bus wired.bridge
  rcases drawCell_cases world board.bridge x y lit with
    ⟨fault, failed⟩ | ⟨column, row, inside, drawn⟩
  · rw [failed]
    exact deed_reply _
  · rw [hardware] at inside
    rw [drawn, hardware, bus]
    apply deed_announce wired
    rw [Hardware.mirror_writeLed (sound.hardware _ wired.hasHardware) inside,
      Mirror.hear_ledChange]
    cases lit <;> rfl

theorem draw_deed (interval : Value) (strokes : List Scroll.Stroke) :
    Deed board id world (world.draw (.matrix board.bridge) interval strokes) := by
  cases strokes with
  | nil => exact deed_reply _
  | cons stroke rest =>
      cases stroke with
      | pause => exact ⟨fun attended => attended, .silent rfl ⟨.inl rfl, trivial⟩⟩
      | clear => exact Deed.within (sweep_deed wired _) (.inl rfl)
      | plot x y => exact Deed.within (drawCell_deed wired sound _ _ _) (.inl rfl)

theorem scroll_deed {target : Ref .scroller}
    (inside : (world.scrollers.get target).surface.Within (world.around board)) (text : String)
    (interval : Value) : Deed board id world (world.scroll target text interval) := by
  have elsewhere (apart : (world.scrollers.get target).surface.Within (world.aside board)) :
      Deed board id world (world.scroll target text interval) :=
    .of_conduct wired (scroll_conduct (apart_closed sound) apart text interval)
  cases surface : (world.scrollers.get target).surface with
  | panel label =>
      rw [surface] at elsewhere
      exact elsewhere trivial
  | matrix bridge =>
      rw [surface] at inside elsewhere
      rcases inside with rfl | apart
      · unfold scroll
        cases world.framesOf target text with
        | error fault => exact deed_reply _
        | ok frames =>
            simp only [surface]
            exact draw_deed wired sound interval _
      · exact elsewhere apart

theorem begin_deed {work : Work} (inside : work.Within (world.around board) world) :
    Deed board id world (world.begin work) := by
  have closed : (world.aside board).Closed world := apart_closed sound
  have elsewhere (apart : work.Within (world.aside board) world) :
      Deed board id world (world.begin work) :=
    .of_conduct wired (begin_conduct closed apart)
  cases work with
  | showString target text interval =>
      refine scroll_deed wired sound ?_ _ _
      rcases inside with rfl | apart
      · rw [congrArg Scroller.surface wired.scroller]
        exact .inl rfl
      · rw [(sound.surface target apart.has).2]
        exact .inr apart
  | scroll target text interval => exact scroll_deed wired sound inside _ _
  | _ => exact elsewhere inside

theorem resume_deed {frame : Frame} (inside : frame.Within (world.around board))
    (reply : Reply) : Deed board id world (world.resume frame reply) := by
  have elsewhere (apart : frame.Within (world.aside board)) :
      Deed board id world (world.resume frame reply) :=
    .of_conduct wired (resume_conduct (apart_closed sound) apart reply)
  cases frame with
  | clearing target rest =>
      rcases inside with rfl | apart
      · cases reply with
        | ok value => exact sweep_deed wired rest
        | error fault => exact deed_reply _
      · exact elsewhere apart
  | drawing surface interval rest =>
      cases surface with
      | panel label => exact elsewhere trivial
      | matrix target =>
          rcases inside with rfl | apart
          · cases reply with
            | ok value => exact draw_deed wired sound interval rest
            | error fault => exact deed_reply _
          · exact elsewhere apart
  | _ => exact elsewhere inside

theorem callBridge_deed (operation : BridgeMethod) (arguments : Arguments) :
    Deed board id world (world.callBridge board.bridge operation arguments) := by
  unfold callBridge
  rw [wired.bridge]
  cases operation with
  | digitalWrite => exact digitalWrite_deed wired _ _
  | digitalRead | analogRead | point | buttonIsPressed =>
      exact .of_conduct wired (answerWith_conduct _ _)
  | analogWrite => exact analogWrite_deed wired _ _
  | plot | unplot => exact drawCell_deed wired sound _ _ _
  | clearScreen => exact sweep_deed wired _
  | onButtonPressed => exact .of_conduct wired (registerHandler_conduct _ _ _)
  | clearButtonHandlers =>
      exact .of_conduct wired (.after (clearHandlers_steps _) (conduct_reply _))
  | showString | pause => exact deed_reply _
  | forever => exact .of_conduct wired (startLoop_conduct _ _)
  | reset => exact reset_deed wired

omit sound in
theorem callBoard_deed {target : Ref .board} (own : world.boards.get target = board)
    (operation : BoardMethod) (arguments : Arguments) :
    Deed board id world (world.callBoard target operation arguments) := by
  unfold callBoard
  rw [own]
  cases operation with
  | subscribe => exact subscribe_deed wired _
  | snapshot => exact .of_conduct wired (answerSnapshot_conduct _)
  | pressButton => exact press_deed wired _
  | reset => exact reset_deed wired
  | close | scriptModule => exact deed_reply _

/-- Every proper call is a deed of the board. -/
theorem callValue_deed {target : Ref .board} {value : Value} {arguments : Arguments}
    (own : world.boards.get target = board)
    (proper : value.Proper world target id arguments) :
    Deed board id world (world.callValue value arguments) := by
  subst own
  cases proper with
  | bridge operation => exact callBridge_deed wired sound operation arguments
  | board operation => exact callBoard_deed wired rfl operation arguments
  | leaves differs | leavesBy differs => exact unsubscribe_deed wired differs
  | apart permitted =>
      exact .of_conduct wired (callValue_conduct (apart_closed sound) permitted)

end World

end Microboard
