import Microboard.Proofs.World.Calls
import Microboard.Proofs.World.Leaves

/-!
# Changes of a bus

Three operations change who is subscribed to a bus, and each says so in the call.  Whatever
else the library does leaves every bus as it is; at most it makes a new one.
-/

namespace Microboard

/-- What an operation does to a bus. -/
inductive Bus.Change where
  | issues (subscriber : Value)
  | drops (id : Nat)
  | clears

def Bus.Change.apply : Bus.Change → Bus → Bus
  | issues subscriber, bus => bus.subscribe subscriber
  | drops id, bus => bus.unsubscribe id
  | clears, bus => bus.clear

namespace World

/-- Subscribing changes a bus if the subscriber can be called. -/
def subscribes? (target : Ref .bus) (subscriber : Value) : Option (Ref .bus × Bus.Change) :=
  if subscriber.isCallable then some (target, .issues subscriber) else none

/-- A bus drops the tokens that it has issued itself. -/
def unsubscribes? (target : Ref .bus) : Value → Option (Ref .bus × Bus.Change)
  | .token issuer id => if issuer = target then some (target, .drops id) else none
  | _ => none

/-- The bus that calling a method changes. -/
def busChange? (world : World) (arguments : Arguments) :
    Method → Option (Ref .bus × Bus.Change)
  | .bus target .subscribe => subscribes? target (arguments.get 0 "callback")
  | .board target .subscribe =>
    subscribes? (world.boards.get target).bus (arguments.get 0 "callback")
  | .bus target .unsubscribe => unsubscribes? target (arguments.get 0 "token")
  | .token target id => some (target, .drops id)
  | .bus target .clear => some (target, .clears)
  | _ => none

/-- The bus that calling a value changes. -/
def change? (world : World) (arguments : Arguments) : Value → Option (Ref .bus × Bus.Change)
  | .method method => world.busChange? arguments method
  | .token target id => some (target, .drops id)
  | _ => none

/-- The bus that is changed when a call below a frame has ended. -/
def ends? (world : World) (reply : Reply) : Frame → Option (Ref .bus × Bus.Change)
  | .closingHandlers target =>
    match reply with
    | .ok _ => some ((world.boards.get target).bus, .clears)
    | .error _ => none
  | _ => none

/-- Nothing may be done to a bus, and nothing be asked of a part that would do it. -/
def deaf : Scope :=
  { hardware := fun _ => True
    bus := fun _ => False
    dispatcher := fun _ => False
    bridge := fun _ => False
    board := fun _ => False
    destroys := fun _ _ => True }

/-- A change of the world that leaves all buses alone. -/
abbrev Spares (world : World) (next : World × Focus) : Prop :=
  Steps deaf world next.1

/-- The world changes as announced: one bus does, or none. -/
def Changes (world next : World) : Option (Ref .bus × Bus.Change) → Prop
  | some (bus, change) => next = world.setBus bus change.apply
  | none => Steps deaf world next

variable {world : World}

theorem deaf_closed : deaf.Closed world where
  dispatcher _ inside := inside.elim
  bridge _ inside := inside.elim
  board _ inside := inside.elim

theorem spares_announce (bus : Ref .bus) (event : Event) :
    world.Spares (world.announce bus event) :=
  steps_withFresh world (.event event)

theorem spares_press (target : Ref .dispatcher) (button : Value) :
    world.Spares (world.press target button) := by
  unfold press
  cases button.toButton with
  | error fault => exact steps_refl world
  | ok known =>
      exact (Steps.one (.setHardware trivial (Hardware.succeeds_writeLatch _ known true))).trans
        (spares_announce (world.dispatchers.get target).bus (.buttonPress known))

theorem spares_sweep (target : Ref .bridge) (cells : List (Nat × Nat)) :
    world.Spares (world.sweep target cells) := by
  cases cells with
  | nil => exact steps_refl world
  | cons cell rest =>
      exact (Steps.one (.setHardware trivial (Hardware.succeeds_writeLed _ _ _ _))).trans
        (spares_announce (world.bridges.get target).bus
          (.ledChange (.number cell.1) (.number cell.2) 0))

theorem spares_drawCell (target : Ref .bridge) (x y : Value) (lit : Bool) :
    world.Spares (world.drawCell target x y lit) := by
  rcases drawCell_cases world target x y lit with ⟨fault, failed⟩ | ⟨column, row, -, drawn⟩
  · rw [failed]
  · rw [drawn]
    exact (Steps.one (.setHardware trivial (Hardware.succeeds_writeLed _ _ _ _))).trans
      (spares_announce _ _)

theorem spares_digitalWrite (target : Ref .bridge) (pin level : Value) :
    world.Spares (world.digitalWrite target pin level) := by
  rcases digitalWrite_cases world target pin level with
    ⟨fault, failed⟩ | ⟨name, stored, -, written⟩
  · rw [failed]
  · rw [written]
    exact (Steps.one (.setHardware trivial (Hardware.succeeds_writePin _ _ _ _))).trans
      (spares_announce _ _)

theorem spares_resetBoard (target : Ref .bridge) : world.Spares (world.resetBoard target) := by
  apply (cancelAll_steps (world.bridges.get target).scheduler).trans
  apply (resetDispatcher_steps trivial).trans
  exact (Steps.one (.setHardware trivial (Hardware.succeeds_reset _))).trans
    (spares_announce (world.bridges.get target).bus .reset)

theorem spares_draw (surface : Surface) (interval : Value) (strokes : List Scroll.Stroke) :
    world.Spares (world.draw surface interval strokes) := by
  induction strokes generalizing world with
  | nil => exact steps_refl world
  | cons stroke rest induction =>
      cases stroke with
      | pause => exact steps_refl world
      | clear =>
          cases surface with
          | matrix bridge => exact spares_sweep bridge _
          | panel label => exact (steps_observe world _).trans induction
      | plot x y =>
          cases surface with
          | matrix bridge => exact spares_drawCell bridge _ _ true
          | panel label => exact (steps_observe world _).trans induction

theorem spares_scroll (target : Ref .scroller) (text : String) (interval : Value) :
    world.Spares (world.scroll target text interval) := by
  unfold scroll
  cases world.framesOf target text with
  | error fault => exact steps_refl world
  | ok frames => exact spares_draw _ interval _

theorem spares_begin (work : Work) : world.Spares (world.begin work) := by
  cases work with
  | showString target text interval => exact spares_scroll _ _ _
  | scroll target text interval => exact spares_scroll target text interval
  | closeBoard target =>
      exact (cancelAll_steps (world.boards.get target).scheduler).trans
        (clearHandlers_steps (world.boards.get target).dispatcher)
  | _ => exact (begin_conduct deaf_closed (by trivial)).steps

/-- The end of a call changes a bus as announced, or spares them all. -/
theorem resume_changes (frame : Frame) (reply : Reply) :
    world.Changes (world.resume frame reply).1 (world.ends? reply frame) := by
  cases frame with
  | publishing bus event id rest =>
      rcases resume_publishing_cases world bus event id rest reply with
        ⟨value, -, same⟩ | ⟨fault, -, -, same⟩ | ⟨fault, -, -, same⟩
      · exact same ▸ steps_refl world
      · exact same ▸ steps_observe world _
      · exact same ▸ steps_refl world
  | clearing target rest =>
      cases reply with
      | ok value => exact spares_sweep target rest
      | error fault => exact steps_refl world
  | drawing surface interval rest =>
      cases reply with
      | ok value => exact spares_draw surface interval rest
      | error fault => exact steps_refl world
  | closingLoops target => cases reply <;> exact steps_refl world
  | closingHandlers target =>
      cases reply with
      | ok value => rfl
      | error fault => exact steps_refl world
  | _ => exact (resume_conduct deaf_closed (by trivial) reply).steps

theorem subscribe_changes (target : Ref .bus) (subscriber : Value) :
    world.Changes (world.subscribe target subscriber).1 (subscribes? target subscriber) := by
  unfold subscribes? subscribe
  by_cases callable : subscriber.isCallable = true
  · simp only [callable, if_true]
    rfl
  · simp only [callable]
    exact steps_refl world

theorem unsubscribe_changes (target : Ref .bus) (token : Value) :
    world.Changes (world.unsubscribe target token).1 (unsubscribes? target token) := by
  cases token with
  | token issuer id =>
      unfold unsubscribes? unsubscribe
      by_cases own : issuer = target
      · simp only [own, if_true]
        rfl
      · simp only [own, if_false]
        exact steps_refl world
  | _ => exact steps_refl world

theorem token_changes (target : Ref .bus) (id : Nat) :
    (world.unsubscribe target (.token target id)).1 =
      world.setBus target (Bus.Change.drops id).apply := by
  simp only [unsubscribe, if_true]
  rfl

theorem spares_callDispatcher (target : Ref .dispatcher) (operation : DispatcherMethod)
    (arguments : Arguments) : world.Spares (world.callDispatcher target operation arguments) := by
  cases operation with
  | register => exact (registerHandler_conduct target _ _).steps
  | handlers | isPressed => exact (answerWith_conduct _ _).steps
  | unregister => exact (withHandle_conduct fun _ _ => unregister_steps trivial).steps
  | press => exact spares_press target _
  | waitIdle => exact steps_refl world
  | clear => exact clearHandlers_steps target
  | reset => exact resetDispatcher_steps trivial

theorem spares_callBridge (target : Ref .bridge) (operation : BridgeMethod)
    (arguments : Arguments) : world.Spares (world.callBridge target operation arguments) := by
  cases operation with
  | digitalWrite => exact spares_digitalWrite target _ _
  | digitalRead | analogRead | point | buttonIsPressed => exact (answerWith_conduct _ _).steps
  | analogWrite =>
      exact (storeHardware_conduct trivial fun _ => Hardware.succeeds_setLevel).steps
  | plot | unplot => exact spares_drawCell target _ _ _
  | clearScreen => exact spares_sweep target _
  | onButtonPressed => exact (registerHandler_conduct _ _ _).steps
  | clearButtonHandlers => exact clearHandlers_steps _
  | showString | pause => exact steps_refl world
  | forever => exact (startLoop_conduct _ _).steps
  | reset => exact spares_resetBoard target

/-- A call changes a bus as announced, or spares them all. -/
theorem callValue_changes (target : Value) (arguments : Arguments) :
    world.Changes (world.callValue target arguments).1 (world.change? arguments target) := by
  cases target with
  | token bus id => exact token_changes bus id
  | method method =>
      cases method with
      | bus target operation =>
          cases operation with
          | subscribe => exact subscribe_changes target _
          | unsubscribe => exact unsubscribe_changes target _
          | isSubscribed =>
              change Spares world (world.callBus target .isSubscribed arguments)
              unfold callBus
              cases arguments.get 0 "token" <;> exact steps_refl world
          | publish => exact steps_refl world
          | clear => rfl
      | token target id => exact token_changes target id
      | dispatcher target operation => exact spares_callDispatcher target operation arguments
      | bridge target operation => exact spares_callBridge target operation arguments
      | board target operation =>
          cases operation with
          | subscribe => exact subscribe_changes _ _
          | snapshot => exact (answerSnapshot_conduct _).steps
          | pressButton => exact spares_press _ _
          | reset => exact spares_resetBoard _
          | close | scriptModule => exact steps_refl world
      | _ => exact (callMethod_conduct deaf_closed ⟨by trivial, fun _ _ _ => trivial⟩).steps
  | _ => exact (callValue_conduct deaf_closed (by trivial)).steps

theorem subscribe_issues {target bus : Ref .bus} {given subscriber : Value}
    (issues : subscribes? target given = some (bus, .issues subscriber)) :
    (world.subscribe target given).2 = .value (.token bus (world.buses.get bus).next) := by
  unfold subscribes? at issues
  by_cases callable : given.isCallable = true
  · simp only [callable, if_true, Option.some.injEq, Prod.mk.injEq] at issues
    simp only [subscribe, callable, if_true, issues.1]
  · simp [callable] at issues

theorem unsubscribes?_issues_nothing {target bus : Ref .bus} {token subscriber : Value} :
    unsubscribes? target token ≠ some (bus, .issues subscriber) := by
  cases token with
  | token issuer id =>
      unfold unsubscribes?
      by_cases own : issuer = target <;> simp [own]
  | _ => simp [unsubscribes?]

/-- A call that issues a token answers with it. -/
theorem callValue_issues {target : Value} {arguments : Arguments} {bus : Ref .bus}
    {subscriber : Value}
    (issues : world.change? arguments target = some (bus, .issues subscriber)) :
    (world.callValue target arguments).2 = .value (.token bus (world.buses.get bus).next) := by
  cases target with
  | method method =>
      cases method with
      | bus target operation =>
          cases operation with
          | subscribe => exact subscribe_issues issues
          | unsubscribe => exact absurd issues unsubscribes?_issues_nothing
          | _ => cases issues
      | board target operation =>
          cases operation with
          | subscribe => exact subscribe_issues issues
          | _ => cases issues
      | _ => cases issues
  | _ => cases issues

end World

end Microboard
