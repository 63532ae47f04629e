import Microboard.Proofs.Board.Stop
import Microboard.Proofs.Scroll.Drawing

/-!
# Attempts

What a call of a board or of its bridge comes to, said before anything is done: the fault
that it raises, or the events that it tells of.  A call that is refused leaves the world
as it is; any other call goes on to tell of its events.
-/

namespace Microboard

/-- An operation of a board, or of the bridge of the board. -/
inductive Request where
  | bridge (operation : BridgeMethod)
  | board (operation : BoardMethod)
deriving DecidableEq

def Request.method (board : Board) (target : Ref .board) : Request → Method
  | .bridge operation => .bridge board.bridge operation
  | .board operation => .board target operation

/-- One cell after the other goes dark. -/
def darkenings (places : List (Nat × Nat)) : List Event :=
  places.map fun place => World.cellEvent place.1 place.2 false

namespace Hardware

def attemptLevel (hardware : Hardware) (pin level : Value) : Except Fault (String × Int) := do
  let name ← hardware.checkPin pin
  let level ← orFault level.index
  return (name, level)

def attemptCell (hardware : Hardware) (x y : Value) (level : Int) :
    Except Fault (List Event) := do
  let _ ← hardware.checkLed x y
  let column ← orFault x.whole
  let row ← orFault y.whole
  return [.ledChange column row level]

end Hardware

def Value.attemptCallback (callback : Value) (refusal : Complaint) :
    Except Fault (List Event) :=
  if callback.isCallable then .ok [] else .error (.complaint refusal)

/-- What a call comes to: the fault that it raises, or the events that it tells of. -/
def World.attempt (world : World) (board : Board) (arguments : Arguments) :
    Request → Except Fault (List Event)
  | .bridge .digitalWrite => do
    let (name, level) ← (world.hardwares.get board.hardware).attemptLevel
      (arguments.get 0 "pin") (arguments.get 1 "value")
    return [.pinChange name level .digital]
  | .bridge .analogWrite => do
    let _ ← (world.hardwares.get board.hardware).attemptLevel
      (arguments.get 0 "pin") (arguments.get 1 "value")
    return []
  | .bridge .digitalRead | .bridge .analogRead => do
    let _ ← (world.hardwares.get board.hardware).checkPin (arguments.get 0 "pin")
    return []
  | .bridge .plot =>
    (world.hardwares.get board.hardware).attemptCell
      (arguments.get 0 "x") (arguments.get 1 "y") 1
  | .bridge .unplot =>
    (world.hardwares.get board.hardware).attemptCell
      (arguments.get 0 "x") (arguments.get 1 "y") 0
  | .bridge .point => do
    let _ ← (world.hardwares.get board.hardware).checkLed
      (arguments.get 0 "x") (arguments.get 1 "y")
    return []
  | .bridge .clearScreen =>
    return darkenings (Scroll.cells board.config.display.width.toNat
      board.config.display.height.toNat)
  | .bridge .onButtonPressed => do
    let button ← (arguments.get 0 "button").toButton
    (arguments.get 1 "handler").attemptCallback
      (.callbackNotCallable ("button " ++ button.name))
  | .bridge .buttonIsPressed => do
    let _ ← (arguments.get 0 "button").toButton
    return []
  | .bridge .forever =>
    if world.looping then
      (arguments.get 0 "callback").attemptCallback (.callbackNotCallable "forever")
    else .error (.complaint .noEventLoop)
  | .board .pressButton => do
    let button ← (arguments.get 0 "button").toButton
    return [.buttonPress button]
  | .board .subscribe => (arguments.get 0 "callback").attemptCallback .subscriberNotCallable
  | .bridge .reset | .board .reset => return [.reset]
  | .bridge .clearButtonHandlers | .bridge .showString | .bridge .pause
  | .board .snapshot | .board .close | .board .scriptModule => return []

variable {board : Board} {todo : List Event}

/-- The frames in which a call waits until all subscribers have been told, and the events
that it tells of afterwards. -/
inductive Leads (board : Board) : List Frame → List Event → Prop where
  | ends : Leads board [] []
  | announces : Leads board [.announced] []
  | latches (button : Button) : Leads board [.pressed board.dispatcher button] []
  | sweeps (places : List (Nat × Nat)) :
      Leads board [.clearing board.bridge places] (darkenings places)

/-- How a call goes on, and the events that it still owes to the subscribers. -/
inductive Focus.Owes (board : Board) : List Event → Focus → Prop where
  | returns (value : Value) : Owes board [] (.value value)
  | publishes (event : Event) (identity : Nat) :
      Owes board [event] (.publish board.bus (.event event identity))
  | opens {frame : Frame} {todo : List Event} (event : Event) (identity : Nat)
      (leads : Leads board [frame] todo) :
      Owes board (event :: todo)
        (.within frame (.publish board.bus (.event event identity)))
  | serves (handle : Ref .handle) (rest : List (Ref .handle)) :
      Owes board [] (.within (.pressing board.dispatcher handle rest) (.invoke handle))
  | hands (handle : Ref .handle) (rest : List (Ref .handle)) (work : Work) (notice : Notice) :
      Owes board [] (.within (.pressing board.dispatcher handle rest) (.start work notice))
  | enlists (value : Value) (work : Work) (notice : Notice) :
      Owes board [] (.within (.program fun _ => .finish (.ok value)) (.start work notice))
  | finishes (value : Value) : Owes board [] (.run (.finish (.ok value)))

namespace World

variable {world : World} {arguments : Arguments} {target : Ref .board}

/-- A call does as it was said to do. -/
def Meets (world : World) (board : Board) (result : World × Focus) :
    Except Fault (List Event) → Prop
  | .error fault => result = (world, .raise fault)
  | .ok todo => result.2.Owes board todo

/-- Whatever is only read is told to nobody. -/
theorem answerWith_meets {α β : Type} (record : α → Value) (checked : Except Fault β)
    (read : β → α) :
    Meets world board (world.answerWith record (checked >>= fun found => pure (read found)))
      (checked >>= fun _ => pure []) := by
  cases checked with
  | error fault => rfl
  | ok found => exact .returns (record (read found))

theorem attemptCallback_meets {result : World × Focus} {callback : Value}
    {refusal : Complaint} (accepts : callback.isCallable = true → result.2.Owes board [])
    (refuses : callback.isCallable = false → result = (world, .raise (.complaint refusal))) :
    Meets world board result (callback.attemptCallback refusal) := by
  unfold Value.attemptCallback
  cases callable : callback.isCallable with
  | true => exact accepts callable
  | false => exact refuses callable

theorem checkPin_eq_ok {hardware : Hardware} {pin : Value} {name : String}
    (known : hardware.checkPin pin = .ok name) :
    pin.word? = some name ∧ (hardware.levels? name).isSome = true := by
  unfold Hardware.checkPin at known
  split at known
  next word named =>
    split at known
    next found =>
      cases known
      exact ⟨named, found⟩
    next => cases known
  next => cases known

theorem checkPin_of_attemptLevel {hardware : Hardware} {pin value : Value} {name : String}
    {level : Int} (given : hardware.attemptLevel pin value = .ok (name, level)) :
    hardware.checkPin pin = .ok name := by
  unfold Hardware.attemptLevel at given
  cases known : hardware.checkPin pin with
  | error fault => simp [known, bind, Except.bind] at given
  | ok found =>
      cases number : value.index with
      | error cause => simp [known, number, orFault, bind, Except.bind] at given
      | ok stored =>
          simp only [known, number, orFault, bind, Except.bind, pure, Except.pure,
            Except.ok.injEq, Prod.mk.injEq] at given
          exact congrArg _ given.1

theorem setLevel_eq (hardware : Hardware) (kind : PinKind) (pin value : Value) :
    hardware.setLevel kind pin value =
      (hardware.attemptLevel pin value).map fun written =>
        hardware.writePin written.1 kind written.2 := by
  unfold Hardware.setLevel Hardware.attemptLevel
  cases hardware.checkPin pin with
  | error fault => rfl
  | ok name => cases value.index <;> rfl

theorem digitalWrite_eq (wired : world.Wired board) {pin value : Value} {name : String}
    {level : Int}
    (given : (world.hardwares.get board.hardware).attemptLevel pin value = .ok (name, level)) :
    world.digitalWrite board.bridge pin value =
      (world.setHardware board.hardware
        fun _ => (world.hardwares.get board.hardware).writePin name .digital level).announce
          board.bus (.pinChange name level .digital) := by
  obtain ⟨named, listed⟩ := checkPin_eq_ok (checkPin_of_attemptLevel given)
  obtain ⟨levels, found⟩ := Option.isSome_iff_exists.mp listed
  have stored : ((((world.hardwares.get board.hardware).writePin name .digital
      level).levels? name).getD .zero).digital = level := by
    rw [Hardware.levels?_writePin, if_pos rfl, found]
    rfl
  simp only [digitalWrite, setLevel_eq, congrArg Bridge.hardware wired.bridge,
    congrArg Bridge.bus wired.bridge, given, Except.map, named, Option.getD_some, stored]

theorem digitalWrite_meets (wired : world.Wired board) :
    Meets world board
      (world.digitalWrite board.bridge (arguments.get 0 "pin") (arguments.get 1 "value"))
      (world.attempt board arguments (.bridge .digitalWrite)) := by
  unfold attempt
  cases given : (world.hardwares.get board.hardware).attemptLevel (arguments.get 0 "pin")
      (arguments.get 1 "value") with
  | error fault =>
      simp only [Meets, bind, Except.bind, digitalWrite, congrArg Bridge.hardware wired.bridge,
        setLevel_eq, given, Except.map]
  | ok written =>
      rw [digitalWrite_eq wired given]
      exact .publishes _ _

/-- A level that is told of has been stored. -/
theorem digitalWrite_stores (wired : world.Wired board) {events : List Event}
    (accepted : world.attempt board arguments (.bridge .digitalWrite) = .ok events) :
    ∃ name level, events = [.pinChange name level .digital] ∧
      ((world.digitalWrite board.bridge (arguments.get 0 "pin")
        (arguments.get 1 "value")).1.hardwares.get board.hardware).getLevel .digital
          (arguments.get 0 "pin") = .ok level := by
  unfold attempt at accepted
  cases given : (world.hardwares.get board.hardware).attemptLevel (arguments.get 0 "pin")
      (arguments.get 1 "value") with
  | error fault => simp [given, bind, Except.bind] at accepted
  | ok written =>
      obtain ⟨name, level⟩ := written
      simp only [given, bind, Except.bind, pure, Except.pure, Except.ok.injEq] at accepted
      refine ⟨name, level, accepted.symm, ?_⟩
      obtain ⟨named, listed⟩ := checkPin_eq_ok (checkPin_of_attemptLevel given)
      obtain ⟨levels, found⟩ := Option.isSome_iff_exists.mp listed
      have changed : (world.setHardware board.hardware
          fun _ => (world.hardwares.get board.hardware).writePin name .digital level).hardwares.get
            board.hardware = (world.hardwares.get board.hardware).writePin name .digital level :=
        Arena.get_modify_self _ wired.hasHardware
      rw [digitalWrite_eq wired given]
      simp only [announce, withFresh, changed, Hardware.getLevel, Hardware.checkPin, named,
        Hardware.levels?_writePin, if_true, found, Option.map_some, Option.isSome_some, bind,
        Except.bind, pure, Except.pure, Option.getD_some]
      rfl

theorem drawCell_meets (wired : world.Wired board) (x y : Value) (lit : Bool) :
    Meets world board (world.drawCell board.bridge x y lit)
      ((world.hardwares.get board.hardware).attemptCell x y (if lit then 1 else 0)) := by
  simp only [drawCell, Hardware.attemptCell, Hardware.setLed,
    congrArg Bridge.hardware wired.bridge, congrArg Bridge.bus wired.bridge]
  cases (world.hardwares.get board.hardware).checkLed x y with
  | error fault => rfl
  | ok cell =>
      cases x.whole with
      | error cause => rfl
      | ok column =>
          cases y.whole with
          | error cause => rfl
          | ok row => exact .publishes _ _

theorem press_meets (wired : world.Wired board) :
    Meets world board (world.press board.dispatcher (arguments.get 0 "button"))
      (world.attempt board arguments (.board .pressButton)) := by
  simp only [press, attempt, wired.dispatcher.1, wired.dispatcher.2]
  cases (arguments.get 0 "button").toButton with
  | error fault => rfl
  | ok button => exact .opens _ _ (.latches button)

theorem sweep_owes (wired : world.Wired board) (places : List (Nat × Nat)) :
    (world.sweep board.bridge places).2.Owes board (darkenings places) := by
  cases places with
  | nil => exact .returns .none
  | cons place rest =>
      simp only [sweep, congrArg Bridge.bus wired.bridge]
      exact .opens _ _ (.sweeps rest)

theorem clearScreen_meets (wired : world.Wired board) :
    Meets world board (world.clearScreen board.bridge)
      (world.attempt board arguments (.bridge .clearScreen)) := by
  have size : cellsOf (world.hardwares.get board.hardware) =
      Scroll.cells board.config.display.width.toNat board.config.display.height.toNat := by
    rw [cellsOf, wired.width, wired.height]
    rfl
  simp only [clearScreen, congrArg Bridge.hardware wired.bridge, size]
  exact sweep_owes wired _

theorem registerHandler_meets :
    Meets world board
      (world.registerHandler board.dispatcher (arguments.get 0 "button")
        (arguments.get 1 "handler"))
      (world.attempt board arguments (.bridge .onButtonPressed)) := by
  simp only [registerHandler, attempt, createHandle]
  cases (arguments.get 0 "button").toButton with
  | error fault => rfl
  | ok button =>
      apply attemptCallback_meets
      case accepts =>
        intro callable
        simp only [callable, if_true]
        exact .returns _
      case refuses =>
        intro uncallable
        simp only [uncallable, Bool.false_eq_true, if_false]

theorem startLoop_meets :
    Meets world board (world.startLoop board.scheduler (arguments.get 0 "callback"))
      (world.attempt board arguments (.bridge .forever)) := by
  simp only [startLoop, attempt, createHandle]
  cases world.looping with
  | false => rfl
  | true =>
      apply attemptCallback_meets
      case accepts =>
        intro callable
        simp only [callable, if_true]
        exact .enlists _ _ _
      case refuses =>
        intro uncallable
        simp only [uncallable, Bool.false_eq_true, if_false]
        rfl

theorem subscribe_meets :
    Meets world board (world.subscribe board.bus (arguments.get 0 "callback"))
      (world.attempt board arguments (.board .subscribe)) := by
  simp only [subscribe, attempt]
  apply attemptCallback_meets
  case accepts =>
    intro callable
    simp only [callable, if_true]
    exact .returns _
  case refuses =>
    intro uncallable
    simp only [uncallable, Bool.false_eq_true, if_false]
    rfl

theorem analogWrite_meets :
    Meets world board
      (world.storeHardware board.hardware ((world.hardwares.get board.hardware).setLevel
        .analog (arguments.get 0 "pin") (arguments.get 1 "value")))
      (world.attempt board arguments (.bridge .analogWrite)) := by
  rw [attempt, setLevel_eq]
  cases (world.hardwares.get board.hardware).attemptLevel (arguments.get 0 "pin")
      (arguments.get 1 "value") with
  | error fault => rfl
  | ok written => exact .returns .none

theorem resetBoard_meets (wired : world.Wired board) :
    Meets world board (world.resetBoard board.bridge) (.ok [.reset]) := by
  rw [resetBoard_eq wired]
  exact .opens _ _ .announces

theorem callBridge_meets (wired : world.Wired board) (operation : BridgeMethod) :
    Meets world board (world.callBridge board.bridge operation arguments)
      (world.attempt board arguments (.bridge operation)) := by
  unfold callBridge
  rw [wired.bridge]
  cases operation with
  | digitalWrite => exact digitalWrite_meets wired
  | analogWrite => exact analogWrite_meets
  | plot => exact drawCell_meets wired _ _ true
  | unplot => exact drawCell_meets wired _ _ false
  | clearScreen => exact clearScreen_meets wired
  | onButtonPressed => exact registerHandler_meets
  | forever => exact startLoop_meets
  | reset => exact resetBoard_meets wired
  | clearButtonHandlers | showString | pause => exact .returns _
  | digitalRead | analogRead | point | buttonIsPressed => exact answerWith_meets _ _ _

theorem callBoard_meets {target : Ref .board} (own : world.boards.get target = board)
    (wired : world.Wired board) (operation : BoardMethod) :
    Meets world board (world.callBoard target operation arguments)
      (world.attempt board arguments (.board operation)) := by
  unfold callBoard
  rw [own]
  cases operation with
  | subscribe => exact subscribe_meets
  | pressButton => exact press_meets wired
  | reset => exact resetBoard_meets wired
  | snapshot | close | scriptModule => exact .returns _

/-- A call is refused and has changed nothing, or it goes on to tell of its events. -/
theorem callMethod_meets (own : world.boards.get target = board) (wired : world.Wired board)
    (request : Request) :
    Meets world board (world.callMethod (request.method board target) arguments)
      (world.attempt board arguments request) := by
  cases request with
  | bridge operation => exact callBridge_meets wired operation
  | board operation => exact callBoard_meets own wired operation

theorem serve_owes (handles : List (Ref .handle)) :
    (world.serve board.dispatcher handles).Owes board [] := by
  induction handles with
  | nil => exact .returns .none
  | cons handle rest induction =>
      unfold serve
      split
      next => exact .serves handle rest
      next => exact induction

/-- When the subscribers have been told, a call goes on with what it owes. -/
theorem resume_owes {frame : Frame} (wired : world.Wired board)
    (leads : Leads board [frame] todo) (value : Value) :
    (world.resume frame (.ok value)).2.Owes board todo := by
  cases leads with
  | announces => exact .returns .none
  | latches button => exact serve_owes _
  | sweeps places => exact sweep_owes wired places

/-- When a handler has ended, the next one is served, unless a future is to be taken on
first. -/
theorem resume_pressing_owes {handle : Ref .handle} {rest : List (Ref .handle)} {reply : Reply}
    (kept : ∀ fault, reply = .error fault → fault.escape? = none) :
    (world.resume (.pressing board.dispatcher handle rest) reply).2.Owes board [] ∨
      ∃ task, reply = .ok (.awaitable (.future task)) ∧ world.looping = true ∧
        world.resume (.pressing board.dispatcher handle rest) reply =
          (world, .within (.serving board.dispatcher rest)
            (.adopt task board.dispatcher handle)) := by
  cases reply with
  | error fault =>
      simp only [resume, kept fault rfl]
      exact .inl (serve_owes rest)
  | ok value =>
      cases awaits : value.work? with
      | none =>
          simp only [resume, awaits]
          exact .inl (serve_owes rest)
      | some work =>
          by_cases looping : world.looping = true
          · simp only [resume, awaits, looping, if_true]
            cases work with
            | future task =>
                cases value <;> cases awaits
                exact .inr ⟨task, rfl, trivial, rfl⟩
            | _ => exact .inl (.hands handle rest _ _)
          · simp only [resume, awaits, looping]
            exact .inl (serve_owes rest)

end World

end Microboard
