import Microboard.Proofs.Pairing.Operations

/-!
# Calls in worlds that are alike

Reading and calling give the same on both sides, up to the numbers of handles and
subscriptions, as long as no table is asked to destroy a handle whose numbers do not
stand for each other in it.
-/

namespace Microboard

variable {pairing : Pairing} {grade : Grade}

/-- What is found on both sides, if anything, is seen alike. -/
abbrev Legible.Alike (pairing : Pairing) (grade : Grade) (left right : Option Value) : Prop :=
  Option.Rel (Value.Seen pairing grade) left right

theorem Legible.alike {found : Option Value} (legible : Legible pairing found) :
    Legible.Alike pairing grade found found := by
  cases found with
  | none => exact .none
  | some value => exact .some (.alike (.same (legible value rfl)))

theorem Legible.plain {value : Value} (blind : value.Blind pairing) :
    Legible.Alike pairing grade (Option.some value) (Option.some value) :=
  .some (.alike (.same blind))

namespace World.Alike

variable {left right : World}

theorem handleProperty? (alike : left.Alike pairing right) (target : Ref .handle)
    (name : String) :
    Legible.Alike pairing ((Value.handle target).propertyGrade name)
      (left.handleProperty? target name) (right.handleProperty? target name) := by
  have handle := alike.handles.each target
  simp only [World.handleProperty?, alike.isActive, alike.isDestroyed, ← handle.kind,
    ← handle.stage, ← handle.failures]
  split
  · exact .some (.number handle.id)
  · exact Legible.plain trivial
  · exact Legible.plain trivial
  · exact Legible.plain trivial
  · exact Legible.plain trivial
  · exact Legible.plain trivial
  · exact .some (.alike handle.lastFailure)
  · exact Legible.plain trivial
  · exact Legible.plain trivial
  · exact Legible.plain trivial
  · exact .none

theorem tokenProperty? (alike : left.Alike pairing right) {bus : Ref .bus} {id other : Nat}
    (since : Since (pairing.token bus) id other) (name : String) :
    Legible.Alike pairing ((Value.token bus id).propertyGrade name)
      (left.tokenProperty? bus id name) (right.tokenProperty? bus other name) := by
  simp only [World.tokenProperty?, (alike.buses.each bus).isSubscribed since]
  split
  · exact .some (.token since)
  · exact Legible.plain trivial
  · exact Legible.plain trivial
  · exact .some (.alike (.unsubscriber since))
  · exact .none

theorem activeHandles (alike : left.Alike pairing right) (table : Ref .table) :
    right.activeHandles table = left.activeHandles table := by
  simp only [World.activeHandles, (alike.tables.each table).handles, alike.isActive]

theorem legible_hardware (world : World) (target : Ref .hardware) (name : String) :
    Legible pairing (world.hardwareProperty? target name) := by
  unfold World.hardwareProperty?
  split
  · exact .some (blind_textTuple _)
  · exact .some trivial
  · exact .some trivial
  · exact .map _ fun _ => trivial

theorem legible_bus (world : World) (target : Ref .bus) (name : String) :
    Legible pairing (world.busProperty? target name) := by
  unfold World.busProperty?
  split
  · exact .some trivial
  · exact .map _ fun _ => trivial

theorem legible_scheduler (alike : left.Alike pairing right) (target : Ref .scheduler)
    (name : String) : Legible pairing (left.schedulerProperty? target name) := by
  unfold World.schedulerProperty?
  split
  · exact .some (alike.schedulers.each target).blind
  · exact .some (blind_handles _)
  · exact .map _ fun _ => trivial

theorem legible_board (world : World) (target : Ref .board) (name : String) :
    Legible pairing (world.boardProperty? target name) := by
  unfold World.boardProperty?
  split <;> first | exact .some trivial | exact .none

theorem legible_space (world : World) (bridge : Ref .bridge) (space : Space) (name : String) :
    Legible pairing (world.spaceProperty? bridge space name) := by
  unfold World.spaceProperty?
  split
  · split
    · exact .some trivial
    · exact .none
  · exact .map _ fun _ => trivial

/-- What can be read off one value in two worlds. -/
theorem property?_same (alike : left.Alike pairing right) {value : Value}
    (blind : value.Blind pairing) (name : String) :
    Legible.Alike pairing (value.propertyGrade name) (left.property? value name)
      (right.property? value name) := by
  cases value with
  | event event identity => exact (legible_event event name).alike
  | levels levels identity =>
      refine Legible.alike ?_
      simp only [World.property?]
      split <;> first | exact .some trivial | exact .none
  | snapshot snapshot identity => exact (legible_snapshot snapshot identity name).alike
  | boardConfig config identity => exact (legible_config config name).alike
  | pinsConfig config => exact (legible_pins config name).alike
  | displayConfig config => exact (legible_display config name).alike
  | timingConfig config => exact (legible_timing config name).alike
  | fault fault identity => exact (legible_fault blind name).alike
  | button button =>
      refine Legible.alike ?_
      simp only [World.property?]
      split
      · exact .some trivial
      · exact .map _ fun _ => trivial
  | pinKind kind =>
      refine Legible.alike ?_
      simp only [World.property?]
      split <;> first | exact .some trivial | exact .none
  | type className =>
      obtain rfl : className = .button := blind
      exact Legible.alike (.map _ fun _ => trivial)
  | space bridge space =>
      simp only [World.property?, World.spaceProperty?, alike.hardwares, alike.bridges]
      exact (legible_space left bridge space name).alike
  | clock clock =>
      refine Legible.alike ?_
      simp only [World.property?]
      split <;> first | exact .some trivial | exact .none
  | hardware target =>
      simp only [World.property?, World.hardwareProperty?, alike.hardwares]
      exact (legible_hardware left target name).alike
  | bus target =>
      have count := (alike.buses.each target).subscribers.length_eq
      simp only [World.property?, World.busProperty?, ← count]
      exact (legible_bus left target name).alike
  | token bus id => exact alike.tokenProperty? blind name
  | handle target => exact alike.handleProperty? target name
  | scheduler target =>
      simp only [World.property?, World.schedulerProperty?, alike.table, alike.interval,
        alike.activeHandles]
      exact (alike.legible_scheduler target name).alike
  | dispatcher target | bridge target => exact Legible.alike (.map _ fun _ => trivial)
  | scroller target =>
      refine Legible.alike ?_
      simp only [World.property?]
      split <;> first | exact .some trivial | exact .none
  | board target =>
      simp only [World.property?, World.boardProperty?, alike.boards]
      exact (legible_board left target name).alike
  | table | registry | keeper => exact blind.elim
  | _ => exact .none

theorem property?_handleDestroyed (id : Value) {name : String} (plain : name ≠ "details") :
    (Fault.handleDestroyed id).property? name = if name = "handle_id" then some id else none := by
  unfold Fault.property?
  split <;> simp_all

theorem property?_callbackFailure (id kind cause : Value) {name : String}
    (plain : name ≠ "details") :
    (Fault.callbackFailure id kind cause).property? name =
      if name = "handle_id" then some id
      else if name = "kind" then some kind
      else if name = "cause" then some cause
      else none := by
  unfold Fault.property?
  split <;> simp_all

theorem property?_fault {fault other : Fault} {identity : Nat}
    (faults : fault.Alike pairing other) {name : String} (plain : name ≠ "details") :
    Legible.Alike pairing ((Value.fault fault identity).propertyGrade name)
      (fault.property? name) (other.property? name) := by
  cases faults with
  | same blind => exact (legible_fault blind name).alike
  | handleDestroyed named =>
      rw [property?_handleDestroyed _ plain, property?_handleDestroyed _ plain]
      split
      next asked =>
        subst asked
        exact .some (.number named)
      · exact .none
  | callbackFailure named causes =>
      rw [property?_callbackFailure _ _ _ plain, property?_callbackFailure _ _ _ plain]
      split
      next asked =>
        subst asked
        exact .some (.number named)
      · split
        · exact Legible.plain trivial
        · split
          · exact .some (.alike causes)
          · exact .none

theorem missing (left right : World) {value other : Value} (values : value.Alike pairing other)
    (name : String) : right.missing other name = left.missing value name := by
  have sameType := values.typeName
  cases values with
  | same blind =>
      cases value with
      | keeper => exact blind.elim
      | type className =>
          obtain rfl : className = .button := blind
          rfl
      | _ => rfl
  | token | unsubscriber => rfl
  | fault => exact congrArg (Complaint.noAttribute · name) sameType

theorem property_eq (world : World) {value : Value} (name : String)
    (flat : ∀ entries, value ≠ .dict entries) :
    world.property value name =
      (world.property? value name).elim (.complain (world.missing value name)) .ok := by
  unfold World.property
  split
  · exact absurd rfl (flat _)
  · split <;> simp [*]

/-- Reading a property gives the same on both sides, up to numbers. -/
theorem property (alike : left.Alike pairing right) {value other : Value}
    (values : value.Alike pairing other) {name : String}
    (shared : value.Shared pairing other name) :
    Reply.Alike pairing (value.propertyGrade name) (left.property value name)
      (right.property other name) := by
  have replied (found : Legible.Alike pairing (value.propertyGrade name)
      (left.property? value name) (right.property? other name))
      (flat : ∀ entries, value ≠ .dict entries)
      (even : ∀ entries, other ≠ .dict entries) :
      Reply.Alike pairing (value.propertyGrade name) (left.property value name)
        (right.property other name) := by
    rw [property_eq left name flat, property_eq right name even, missing left right values]
    generalize left.property? value name = first, right.property? other name = second at found
    cases found with
    | some seen => exact .ok seen
    | none => exact .error (.same trivial)
  cases values with
  | same blind =>
      by_cases dict : ∃ entries, value = .dict entries
      · obtain ⟨entries, rfl⟩ := dict
        simp only [World.property]
        cases found : Value.lookup? entries (.str name) with
        | none => exact .error (.same ⟨trivial, trivial⟩)
        | some value => exact .value (blind_lookup blind _ value found)
      · have flat := fun entries same => dict ⟨entries, same⟩
        exact replied (alike.property?_same blind name) flat flat
  | token since => exact replied (alike.tokenProperty? since name) (by simp) (by simp)
  | unsubscriber => exact replied .none (by simp) (by simp)
  | fault faults =>
      refine replied ?_ (by simp) (by simp)
      by_cases detailed : name = "details"
      · obtain ⟨blind, same⟩ := shared detailed
        rw [same]
        exact alike.property?_same blind name
      · exact property?_fault faults detailed

theorem answerWith {α : Type} (alike : left.Alike pairing right) {record : α → Value}
    {result : Except Fault α} (sheltered : Sheltered pairing result)
    (blind : ∀ item, (record item).Blind pairing) :
    Outcome.Alike pairing grade (left.answerWith record result)
      (right.answerWith record result) := by
  cases result with
  | error fault => exact .raise alike (sheltered fault rfl)
  | ok item => exact ⟨alike, .value (blind item)⟩

theorem storeHardware (alike : left.Alike pairing right) (target : Ref .hardware)
    {result : Except Fault Hardware} (sheltered : Sheltered pairing result) :
    Outcome.Alike pairing grade (left.storeHardware target result)
      (right.storeHardware target result) := by
  cases result with
  | error fault => exact .raise alike (sheltered fault rfl)
  | ok hardware => exact .nothing (alike.setHardware target _)

theorem answerSnapshot (alike : left.Alike pairing right) (target : Ref .hardware) :
    Outcome.Alike pairing grade (left.answerSnapshot target) (right.answerSnapshot target) := by
  refine ⟨alike.counted, ?_⟩
  simp only [World.answerSnapshot, World.withFresh, alike.hardwares, alike.identities]
  exact .value trivial

theorem answer (alike : left.Alike pairing right) {value : Value} (blind : value.Blind pairing) :
    Outcome.Alike pairing grade (left.answer (.ok value)) (right.answer (.ok value)) :=
  ⟨alike, .value blind⟩

theorem complain (alike : left.Alike pairing right) (cause : Complaint) :
    Outcome.Alike pairing grade (left.answer (.complain cause)) (right.answer (.complain cause)) :=
  ⟨alike, .complaint cause⟩

theorem callHardware (alike : left.Alike pairing right) (target : Ref .hardware)
    (operation : HardwareMethod) {arguments : Arguments} (given : arguments.Blind pairing) :
    Outcome.Alike pairing grade (left.callHardware target operation arguments)
      (right.callHardware target operation arguments) := by
  have pin := given.get 0 "pin"
  simp only [World.callHardware, alike.hardwares]
  cases operation with
  | setDigital | setAnalog =>
      exact alike.storeHardware target (Hardware.sheltered_setLevel _ _ pin _)
  | getDigital | getAnalog =>
      exact alike.answerWith (Hardware.sheltered_getLevel _ _ pin) fun _ => trivial
  | setLed => exact alike.storeHardware target (Hardware.sheltered_setLed _ _ _ _)
  | getLed => exact alike.answerWith (Hardware.sheltered_getLed _ _ _) fun _ => trivial
  | clearLeds | reset => exact .nothing (alike.setHardware target _)
  | setButton => exact alike.storeHardware target (Hardware.sheltered_setButton _ _ _)
  | getButton => exact alike.answerWith (Hardware.sheltered_getButton _ _) fun _ => trivial
  | snapshot => exact alike.answerSnapshot target

theorem subscribe (alike : left.Alike pairing right) (target : Ref .bus) {subscriber : Value}
    (blind : subscriber.Blind pairing) :
    Outcome.Alike pairing grade (left.subscribe target subscriber)
      (right.subscribe target subscriber) := by
  simp only [World.subscribe]
  split
  · refine ⟨alike.setBus target fun keeps => keeps.subscribe blind, .reply (.ok (.alike ?_))⟩
    exact .token (alike.buses.each target).next
  · exact alike.complain _

theorem unsubscribeToken (alike : left.Alike pairing right) (target : Ref .bus) {bus : Ref .bus}
    {id other : Nat} (since : Since (pairing.token bus) id other) :
    Outcome.Alike pairing grade (left.unsubscribe target (.token bus id))
      (right.unsubscribe target (.token bus other)) := by
  simp only [World.unsubscribe]
  split
  next own =>
    subst own
    exact .nothing (alike.setBus bus fun keeps => keeps.unsubscribe since)
  · exact .nothing alike

theorem unsubscribe (alike : left.Alike pairing right) (target : Ref .bus) {token other : Value}
    (tokens : token.Alike pairing other) :
    Outcome.Alike pairing grade (left.unsubscribe target token)
      (right.unsubscribe target other) := by
  have sameType := tokens.typeName
  cases tokens with
  | same blind =>
      cases token with
      | token bus id => exact alike.unsubscribeToken target blind
      | _ => exact alike.complain _
  | token since => exact alike.unsubscribeToken target since
  | unsubscriber => exact alike.complain _
  | fault =>
      simp only [World.unsubscribe, sameType]
      exact alike.complain _

theorem isSubscribedToken (alike : left.Alike pairing right) (target : Ref .bus) {bus : Ref .bus}
    {id other : Nat} (since : Since (pairing.token bus) id other) :
    (bus = target && (right.buses.get target).isSubscribed other) =
      (bus = target && (left.buses.get target).isSubscribed id) := by
  by_cases own : bus = target
  · subst own
    rw [(alike.buses.each bus).isSubscribed since]
  · simp [own]

theorem isSubscribed (alike : left.Alike pairing right) (target : Ref .bus)
    {arguments others : Arguments}
    (tokens : (arguments.get 0 "token").Alike pairing (others.get 0 "token")) :
    Outcome.Alike pairing grade (left.callBus target .isSubscribed arguments)
      (right.callBus target .isSubscribed others) := by
  have sameType := tokens.typeName
  simp only [World.callBus]
  generalize arguments.get 0 "token" = token, others.get 0 "token" = other at tokens sameType
  cases tokens with
  | same blind =>
      cases token with
      | token bus id =>
          simp only [alike.isSubscribedToken target blind]
          exact alike.answer trivial
      | _ => exact alike.complain _
  | token since =>
      simp only [alike.isSubscribedToken target since]
      exact alike.answer trivial
  | unsubscriber => exact alike.complain _
  | fault =>
      simp only [sameType]
      exact alike.complain _

theorem callBus (alike : left.Alike pairing right) (target : Ref .bus) (operation : BusMethod)
    {arguments : Arguments} (given : arguments.Blind pairing)
    (shown : Value.Shows (.method (.bus target operation)) arguments) :
    Outcome.Alike pairing grade (left.callBus target operation arguments)
      (right.callBus target operation arguments) := by
  cases operation with
  | subscribe => exact alike.subscribe target (given.get 0 "callback")
  | unsubscribe => exact alike.unsubscribe target (.same (given.get 0 "token"))
  | isSubscribed => exact alike.isSubscribed target (.same (given.get 0 "token"))
  | publish => exact ⟨alike, .publish (given.get 0 "event") shown⟩
  | clear => exact .nothing (alike.setBus target fun keeps => ⟨keeps.next, .nil⟩)

theorem withHandle (alike : left.Alike pairing right) (value : Value)
    {change other : Ref .handle → World}
    (keeps : ∀ handle, value = .handle handle → (change handle).Alike pairing (other handle)) :
    Outcome.Alike pairing grade (left.withHandle value change) (right.withHandle value other) := by
  cases value with
  | handle handle => exact .nothing (keeps handle rfl)
  | _ => exact alike.complain _

theorem recordsFailure (alike : left.Alike pairing right) (target : Ref .handle)
    {arguments others : Arguments}
    (causes : (arguments.get 0 "exc").Alike pairing (others.get 0 "exc")) :
    Outcome.Alike pairing grade (left.callHandle target .recordFailure arguments)
      (right.callHandle target .recordFailure others) := by
  obtain ⟨same, harmless⟩ := causes.textFault?
  simp only [World.callHandle, World.recordFailure, same]
  cases written : (arguments.get 0 "exc").textFault? with
  | some fault => exact .raise alike (harmless fault written)
  | none =>
      have stored := alike.storeFailure target causes
      exact ⟨stored.1, .reply (.ok (.alike stored.2))⟩

theorem callHandle (alike : left.Alike pairing right) (target : Ref .handle)
    (operation : HandleMethod) {arguments : Arguments} (given : arguments.Blind pairing) :
    Outcome.Alike pairing ((Value.method (.handle target operation)).callGrade pairing)
      (left.callHandle target operation arguments)
      (right.callHandle target operation arguments) := by
  cases operation with
  | activate =>
      simp only [World.callHandle, alike.isDestroyed]
      split
      · exact ⟨alike, .raise (.handleDestroyed (alike.handles.each target).id)⟩
      · exact .nothing (alike.activate target)
  | invoke => exact ⟨alike, .invoke target⟩
  | recordFailure => exact alike.recordsFailure target (.same (given.get 0 "exc"))

/-- The numbers of a handle stand for each other in a table. -/
def Matched (pairing : Pairing) (left right : World) (table : Ref .table)
    (handle : Ref .handle) : Prop :=
  Since (pairing.number table) (left.handles.get handle).id (right.handles.get handle).id

theorem callScheduler (alike : left.Alike pairing right) (target : Ref .scheduler)
    (operation : SchedulerMethod) {arguments : Arguments} (given : arguments.Blind pairing)
    (fair : ∀ table handle,
      left.destroyed? (.scheduler target operation) arguments = some (table, handle) →
        Matched pairing left right table handle) :
    Outcome.Alike pairing grade (left.callScheduler target operation arguments)
      (right.callScheduler target operation arguments) := by
  cases operation with
  | register => exact alike.startLoop target (given.get 0 "callback")
  | cancel =>
      simp only [World.callScheduler, alike.table]
      refine alike.withHandle _ fun handle named => alike.destroyHandle (fair _ handle ?_)
      simp only [World.destroyed?, named]
  | cancelAll => exact .nothing (alike.cancelAll target)
  | waitIdle => exact ⟨alike, .value trivial⟩

theorem callDispatcher (alike : left.Alike pairing right) (target : Ref .dispatcher)
    (operation : DispatcherMethod) {arguments : Arguments} (given : arguments.Blind pairing)
    (fair : ∀ table handle,
      left.destroyed? (.dispatcher target operation) arguments = some (table, handle) →
        Matched pairing left right table handle) :
    Outcome.Alike pairing grade (left.callDispatcher target operation arguments)
      (right.callDispatcher target operation arguments) := by
  cases operation with
  | register => exact alike.registerHandler target _ (given.get 1 "handler")
  | handlers =>
      simp only [World.callDispatcher, alike.handlersOf]
      exact alike.answerWith (sheltered_toButton _) fun _ => blind_handles _
  | unregister =>
      refine alike.withHandle _ fun handle named => alike.unregister target (fair _ handle ?_)
      simp only [World.destroyed?, named]
  | isPressed =>
      simp only [World.callDispatcher, alike.dispatchers, alike.hardwares]
      exact alike.answerWith (Hardware.sheltered_getButton _ _) fun _ => trivial
  | press => exact alike.press target _
  | waitIdle => exact ⟨alike, .value trivial⟩
  | clear => exact .nothing (alike.clearHandlers target)
  | reset => exact .nothing (alike.resetDispatcher target)

theorem callBridge (alike : left.Alike pairing right) (target : Ref .bridge)
    (operation : BridgeMethod) {arguments : Arguments} (given : arguments.Blind pairing)
    (shown : Value.Shows (.method (.bridge target operation)) arguments) :
    Outcome.Alike pairing grade (left.callBridge target operation arguments)
      (right.callBridge target operation arguments) := by
  have pin := given.get 0 "pin"
  simp only [World.callBridge, alike.bridges, alike.hardwares]
  cases operation with
  | digitalWrite => exact alike.digitalWrite target pin _
  | digitalRead | analogRead =>
      exact alike.answerWith (Hardware.sheltered_getLevel _ _ pin) fun _ => trivial
  | analogWrite => exact alike.storeHardware _ (Hardware.sheltered_setLevel _ _ pin _)
  | plot | unplot => exact alike.drawCell target _ _ _
  | point => exact alike.answerWith (Hardware.sheltered_getLed _ _ _) fun _ => trivial
  | clearScreen => exact alike.clearScreen target
  | onButtonPressed => exact alike.registerHandler _ _ (given.get 1 "handler")
  | buttonIsPressed =>
      exact alike.answerWith (Hardware.sheltered_getButton _ _) fun _ => trivial
  | clearButtonHandlers => exact .nothing (alike.clearHandlers _)
  | showString => exact ⟨alike, .value shown⟩
  | forever => exact alike.startLoop _ (given.get 0 "callback")
  | pause => exact ⟨alike, .value trivial⟩
  | reset => exact alike.resetBoard target

theorem callScroller (alike : left.Alike pairing right) (target : Ref .scroller)
    (operation : ScrollerMethod) (arguments : Arguments) :
    Outcome.Alike pairing grade (left.callScroller target operation arguments)
      (right.callScroller target operation arguments) := by
  cases operation with
  | frames =>
      simp only [World.callScroller, alike.framesOf]
      refine alike.answerWith (left.sheltered_framesOf target _) fun frames => ?_
      refine itemsBlind_iff.mpr fun item member => ?_
      obtain ⟨frame, -, rfl⟩ := List.mem_map.mp member
      exact blind_glyph frame
  | scroll => exact ⟨alike, .value trivial⟩

theorem callBoard (alike : left.Alike pairing right) (target : Ref .board)
    (operation : BoardMethod) {arguments : Arguments} (given : arguments.Blind pairing) :
    Outcome.Alike pairing grade (left.callBoard target operation arguments)
      (right.callBoard target operation arguments) := by
  simp only [World.callBoard, alike.boards]
  cases operation with
  | subscribe => exact alike.subscribe _ (given.get 0 "callback")
  | snapshot => exact alike.answerSnapshot _
  | pressButton => exact alike.press _ _
  | reset => exact alike.resetBoard _
  | close => exact ⟨alike, .value trivial⟩
  | scriptModule => exact ⟨alike, .value (by simp [moduleEntries, Value.Blind, EntriesBlind])⟩

/-- Calling an operation with the same arguments gives the same on both sides. -/
theorem callMethod (alike : left.Alike pairing right) {method : Method}
    (blind : method.Blind pairing) {arguments : Arguments} (given : arguments.Blind pairing)
    (shown : Value.Shows (.method method) arguments)
    (fair : ∀ table handle, left.destroyed? method arguments = some (table, handle) →
      Matched pairing left right table handle) :
    Outcome.Alike pairing ((Value.method method).callGrade pairing)
      (left.callMethod method arguments) (right.callMethod method arguments) := by
  cases method with
  | hardware target operation => exact alike.callHardware target operation given
  | bus target operation => exact alike.callBus target operation given shown
  | token target id => exact alike.unsubscribeToken target blind
  | handle target operation => exact alike.callHandle target operation given
  | scheduler target operation => exact alike.callScheduler target operation given fair
  | dispatcher target operation => exact alike.callDispatcher target operation given fair
  | bridge target operation => exact alike.callBridge target operation given shown
  | scroller target operation => exact alike.callScroller target operation arguments
  | board target operation => exact alike.callBoard target operation given
  | eventRecord event => exact alike.answer (blind_record event)
  | now clock =>
      simp only [World.callMethod, alike.now]
      exact alike.answer trivial
  | sleep clock => exact ⟨alike, .value trivial⟩
  | table | keeperClose | registry | function => exact blind.elim

theorem deliver (alike : left.Alike pairing right) (label : String) (event : Value) :
    Outcome.Alike pairing grade (left.deliver label event) (right.deliver label event) := by
  cases event with
  | event event identity => exact .nothing (alike.observe _)
  | _ => exact alike.complain _

theorem constructButton (alike : left.Alike pairing right) (arguments : Arguments) :
    Outcome.Alike pairing grade (left.callValue (.type .button) arguments)
      (right.callValue (.type .button) arguments) := by
  simp only [World.callValue, World.construct]
  cases known : (arguments.get 0 "value").toButton with
  | error fault => exact .raise alike (sheltered_toButton _ fault known)
  | ok button => exact alike.answer trivial

/-- Calling a value does the same on both sides. -/
theorem callValue (alike : left.Alike pairing right) {target other : Value}
    {arguments others : Arguments} (calls : Call.Alike pairing target arguments other others)
    (fair : ∀ method table handle, target = .method method →
      left.destroyed? method arguments = some (table, handle) →
        Matched pairing left right table handle) :
    Outcome.Alike pairing (target.callGrade pairing) (left.callValue target arguments)
      (right.callValue other others) := by
  cases calls with
  | same blind given shown =>
      cases target with
      | method method =>
          exact alike.callMethod blind given shown fun table handle => fair method table handle rfl
      | token bus id => exact alike.unsubscribeToken bus blind
      | recorder label => exact alike.deliver label _
      | type className =>
          obtain rfl : className = .button := blind
          exact alike.constructButton arguments
      | _ => exact alike.complain _
  | token since | unsubscriber since => exact alike.unsubscribeToken _ since
  | fault faults =>
      simp only [World.callValue, Value.typeName, faults.kind]
      exact alike.complain _
  | unsubscribe tokens => exact alike.unsubscribe _ tokens
  | isSubscribed tokens => exact alike.isSubscribed _ tokens
  | recordFailure causes => exact alike.recordsFailure _ causes

end World.Alike

end Microboard
