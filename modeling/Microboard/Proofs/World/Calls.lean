import Microboard.Proofs.World.Building
import Microboard.Proofs.World.Conduct

/-!
# Conduct of calls

Calling a value keeps to the scope that permits the call, whatever the value is:
an operation of one of the parts, a class, a recorder, or something that cannot be
called at all.
-/

namespace Microboard.World

variable {scope : Scope} {world : World}

theorem answerWith_conduct {α : Type} (record : α → Value) (result : Except Fault α) :
    Conduct scope world (world.answerWith record result) := by
  cases result <;> exact conduct_reply _

theorem storeHardware_conduct {target : Ref .hardware} (inside : scope.hardware target)
    {result : Except Fault Hardware}
    (keeps : ∀ changed, result = .ok changed →
      (world.hardwares.get target).Succeeds changed) :
    Conduct scope world (world.storeHardware target result) := by
  cases result with
  | error fault => exact conduct_reply _
  | ok changed =>
      exact .after (.one (.setHardware inside (keeps changed rfl))) (conduct_reply _)

theorem answerSnapshot_conduct (target : Ref .hardware) :
    Conduct scope world (world.answerSnapshot target) :=
  ⟨steps_withFresh world (.snapshot (world.hardwares.get target).snapshot), trivial⟩

theorem callHardware_conduct {target : Ref .hardware} (inside : scope.hardware target)
    (operation : HardwareMethod) (arguments : Arguments) :
    Conduct scope world (world.callHardware target operation arguments) := by
  cases operation with
  | setDigital | setAnalog =>
      exact storeHardware_conduct inside fun _ => Hardware.succeeds_setLevel
  | setLed => exact storeHardware_conduct inside fun _ => Hardware.succeeds_setLed
  | setButton => exact storeHardware_conduct inside fun _ => Hardware.succeeds_setButton
  | getDigital | getAnalog | getLed | getButton => exact answerWith_conduct _ _
  | clearLeds =>
      exact .after (.one (.setHardware inside (Hardware.succeeds_clearLeds _)))
        (conduct_reply _)
  | reset =>
      exact .after (.one (.setHardware inside (Hardware.succeeds_reset _))) (conduct_reply _)
  | snapshot => exact answerSnapshot_conduct target

theorem subscribe_conduct {target : Ref .bus} (inside : scope.bus target)
    (subscriber : Value) : Conduct scope world (world.subscribe target subscriber) := by
  unfold subscribe
  by_cases callable : subscriber.isCallable = true
  · simp only [callable, if_true]
    exact .after (.one (.setBus inside (Bus.succeeds_subscribe _ subscriber))) (conduct_reply _)
  · simp only [callable]
    exact conduct_reply _

theorem unsubscribe_conduct {target : Ref .bus} (inside : scope.bus target)
    (token : Value) : Conduct scope world (world.unsubscribe target token) := by
  cases token with
  | token bus id =>
      unfold unsubscribe
      by_cases same : bus = target
      · simp only [same, if_true]
        exact .after (.one (.setBus inside (Bus.succeeds_unsubscribe _ id))) (conduct_reply _)
      · simp only [same]
        exact conduct_reply _
  | _ => exact conduct_reply _

theorem callBus_conduct {target : Ref .bus} (inside : scope.bus target)
    (operation : BusMethod) (arguments : Arguments) :
    Conduct scope world (world.callBus target operation arguments) := by
  cases operation with
  | subscribe => exact subscribe_conduct inside _
  | unsubscribe => exact unsubscribe_conduct inside _
  | isSubscribed =>
      unfold callBus
      cases arguments.get 0 "token" <;> exact conduct_reply _
  | publish => exact ⟨steps_refl world, inside⟩
  | clear =>
      exact .after (.one (.setBus inside (Bus.succeeds_clear _))) (conduct_reply _)

theorem withHandle_conduct {value : Value} {change : Ref .handle → World}
    (changes : ∀ handle, value = .handle handle → Steps scope world (change handle)) :
    Conduct scope world (world.withHandle value change) := by
  cases value with
  | handle handle => exact ⟨changes handle rfl, trivial⟩
  | _ => exact conduct_reply _

theorem callTable_conduct {target : Ref .table} {operation : TableMethod}
    {arguments : Arguments}
    (permitted : (Method.table target operation).Permitted scope world arguments) :
    Conduct scope world (world.callTable target operation arguments) := by
  cases operation with
  | create =>
      have creation : HandleStep scope world _ :=
        .create world target (arguments.get 0 "callback") (arguments.get 1 "kind").plain
      unfold callTable
      simp only
      split
      next created handle result =>
        rw [result] at creation
        exact .after (.handles creation) (conduct_reply _)
      next created fault result =>
        rw [result] at creation
        exact .after (.handles creation) (conduct_reply _)
  | get => exact conduct_reply _
  | destroy =>
      apply withHandle_conduct
      intro handle given
      exact Steps.handles (.destroy (permitted.destroys target handle (by
        simp only [destroyed?, given])))
  | destroyAll => exact .after (.handles (.destroyAll world target)) (conduct_reply _)

/-- A failure is stored by hand if its cause has a text; otherwise nothing happens. -/
theorem recordFailure_cases (world : World) (target : Ref .handle) (arguments : Arguments) :
    (∃ fault, (arguments.get 0 "exc").textFault? = some fault ∧
      world.callHandle target .recordFailure arguments = (world, .raise fault)) ∨
    ((arguments.get 0 "exc").textFault? = none ∧
      world.callHandle target .recordFailure arguments =
        ((world.storeFailure target (arguments.get 0 "exc")).1,
          .value (world.storeFailure target (arguments.get 0 "exc")).2)) := by
  simp only [callHandle, recordFailure]
  cases written : (arguments.get 0 "exc").textFault? with
  | some fault => exact .inl ⟨fault, rfl, rfl⟩
  | none => exact .inr ⟨rfl, rfl⟩

theorem callHandle_conduct (target : Ref .handle) (operation : HandleMethod)
    (arguments : Arguments) :
    Conduct scope world (world.callHandle target operation arguments) := by
  cases operation with
  | activate =>
      unfold callHandle
      by_cases destroyed : (world.handles.get target).isDestroyed = true
      · simp only [destroyed, if_true]
        exact conduct_reply _
      · simp only [destroyed]
        exact .after (.handles (.activate world target)) (conduct_reply _)
  | invoke => exact ⟨steps_refl world, trivial⟩
  | recordFailure =>
      rcases recordFailure_cases world target arguments with ⟨fault, -, same⟩ | ⟨-, same⟩
      · exact same ▸ conduct_reply _
      · exact same ▸ .after (.handles (.storeFailure world target (arguments.get 0 "exc")))
          (conduct_reply _)

theorem callScheduler_conduct {target : Ref .scheduler} {operation : SchedulerMethod}
    {arguments : Arguments}
    (permitted : (Method.scheduler target operation).Permitted scope world arguments) :
    Conduct scope world (world.callScheduler target operation arguments) := by
  cases operation with
  | register => exact startLoop_conduct target _
  | cancel =>
      apply withHandle_conduct
      intro handle given
      exact Steps.handles (.destroy (permitted.destroys _ handle (by
        simp only [destroyed?, given])))
  | cancelAll => exact .after (cancelAll_steps target) (conduct_reply _)
  | waitIdle => exact conduct_reply _

theorem callDispatcher_conduct (closed : scope.Closed world) {target : Ref .dispatcher}
    {operation : DispatcherMethod} {arguments : Arguments}
    (permitted : (Method.dispatcher target operation).Permitted scope world arguments) :
    Conduct scope world (world.callDispatcher target operation arguments) := by
  cases operation with
  | register => exact registerHandler_conduct target _ _
  | handlers | isPressed => exact answerWith_conduct _ _
  | unregister =>
      apply withHandle_conduct
      intro handle given
      apply unregister_steps
      exact permitted.destroys _ handle (by simp only [destroyed?, given])
  | press => exact press_conduct closed permitted.inside _
  | waitIdle => exact conduct_reply _
  | clear => exact .after (clearHandlers_steps target) (conduct_reply _)
  | reset =>
      exact .after (resetDispatcher_steps (closed.dispatcher target permitted.inside).1)
        (conduct_reply _)

theorem callBridge_conduct (closed : scope.Closed world) {target : Ref .bridge}
    (inside : scope.bridge target) (operation : BridgeMethod) (arguments : Arguments) :
    Conduct scope world (world.callBridge target operation arguments) := by
  cases operation with
  | digitalWrite => exact digitalWrite_conduct closed inside _ _
  | digitalRead | analogRead | point | buttonIsPressed => exact answerWith_conduct _ _
  | analogWrite =>
      exact storeHardware_conduct (closed.bridge target inside).1
        fun _ => Hardware.succeeds_setLevel
  | plot | unplot => exact drawCell_conduct closed inside _ _ _
  | clearScreen => exact clearScreen_conduct closed inside
  | onButtonPressed => exact registerHandler_conduct _ _ _
  | clearButtonHandlers => exact .after (clearHandlers_steps _) (conduct_reply _)
  | showString | pause => exact conduct_reply _
  | forever => exact startLoop_conduct _ _
  | reset => exact resetBoard_conduct closed inside

theorem callBoard_conduct (closed : scope.Closed world) {target : Ref .board}
    (inside : scope.board target) (operation : BoardMethod) (arguments : Arguments) :
    Conduct scope world (world.callBoard target operation arguments) := by
  obtain ⟨_, bus, dispatcher, bridge⟩ := closed.board target inside
  cases operation with
  | subscribe => exact subscribe_conduct bus _
  | snapshot => exact answerSnapshot_conduct _
  | pressButton => exact press_conduct closed dispatcher _
  | reset => exact resetBoard_conduct closed bridge
  | close | scriptModule => exact conduct_reply _

theorem callRegistry_conduct (target : Ref .registry) (operation : RegistryMethod)
    (arguments : Arguments) :
    Conduct scope world (world.callRegistry target operation arguments) := by
  cases operation with
  | register => exact ⟨registerBoard_steps target _ _, trivial⟩
  | boardClass | names => exact conduct_reply _
  | create => exact ⟨createBoard_steps target _ _, trivial⟩

theorem callMethod_conduct (closed : scope.Closed world) {method : Method}
    {arguments : Arguments} (permitted : method.Permitted scope world arguments) :
    Conduct scope world (world.callMethod method arguments) := by
  cases method with
  | hardware target operation => exact callHardware_conduct permitted.inside _ _
  | bus target operation => exact callBus_conduct permitted.inside _ _
  | token target id => exact unsubscribe_conduct permitted.inside (.token target id)
  | table target operation => exact callTable_conduct permitted
  | handle target operation => exact callHandle_conduct target _ _
  | scheduler target operation => exact callScheduler_conduct permitted
  | dispatcher target operation => exact callDispatcher_conduct closed permitted
  | bridge target operation => exact callBridge_conduct closed permitted.inside _ _
  | scroller target operation =>
      cases operation with
      | frames => exact answerWith_conduct _ _
      | scroll => exact conduct_reply _
  | board target operation => exact callBoard_conduct closed permitted.inside _ _
  | registry target operation => exact callRegistry_conduct target _ _
  | keeperClose | eventRecord | now | sleep => exact conduct_reply _
  | function function => exact ⟨callFunction_steps function _, trivial⟩

/-- Calling a value keeps to the scope that permits it. -/
theorem callValue_conduct (closed : scope.Closed world) {target : Value}
    {arguments : Arguments} (permitted : target.Permitted scope world arguments) :
    Conduct scope world (world.callValue target arguments) := by
  cases target with
  | method method => exact callMethod_conduct closed permitted
  | token bus id => exact unsubscribe_conduct permitted (.token bus id)
  | recorder label =>
      unfold callValue deliver
      cases arguments.get 0 "event" with
      | event event identity => exact .after (steps_observe world _) (conduct_reply _)
      | _ => exact conduct_reply _
  | type className => exact ⟨construct_steps className arguments, trivial⟩
  | _ => exact conduct_reply _

end Microboard.World
