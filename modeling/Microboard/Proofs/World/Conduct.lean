import Microboard.Proofs.World.Growth

/-!
# Conduct of a board

Every operation of a board keeps to the scope of the objects that it is asked to
act on: it changes the world by permitted steps only, and what it leaves to be
done next stays inside the scope as well.
-/

namespace Microboard.World

/-- A change of the world together with what is to be done next keeps to a scope. -/
structure Conduct (scope : Scope) (world : World) (next : World × Focus) : Prop where
  steps : Steps scope world next.1
  focus : next.2.Within scope

variable {scope : Scope} {world : World}

theorem Conduct.after {middle : World} {next : World × Focus}
    (steps : Steps scope world middle) (conduct : Conduct scope middle next) :
    Conduct scope world next :=
  ⟨steps.trans conduct.steps, conduct.focus⟩

theorem conduct_reply (reply : Reply) : Conduct scope world (world, .reply reply) :=
  ⟨steps_refl world, trivial⟩

theorem Conduct.within {next : World × Focus} {frame : Frame}
    (conduct : Conduct scope world next) (inside : frame.Within scope) :
    Conduct scope world (next.1, .within frame next.2) :=
  ⟨conduct.steps, inside, conduct.focus⟩

theorem whole_of_index {value : Value} {number : Int} (index : value.index = .ok number) :
    ∃ whole, value.whole = .ok whole ∧ whole.toInt = number := by
  cases value with
  | bool flag => exact ⟨.flag flag, rfl, by simpa [Value.index, Whole.toInt] using index⟩
  | int given => exact ⟨.number given, rfl, by simpa [Value.index, Whole.toInt] using index⟩
  | _ => simp [Value.index] at index

theorem setHardware_const (world : World) (target : Ref .hardware)
    (change : Hardware → Hardware) :
    (world.setHardware target fun _ => change (world.hardwares.get target)) =
      world.setHardware target change := by
  unfold setHardware
  rw [Arena.modify_const]

@[simp] theorem destroyAll_dispatchers (world : World) (table : Ref .table) :
    (world.destroyAll table).dispatchers = world.dispatchers := by
  obtain ⟨_, _, _, same⟩ := destroyAll_eq world table
  rw [same]

@[simp] theorem destroyAll_schedulers (world : World) (table : Ref .table) :
    (world.destroyAll table).schedulers = world.schedulers := by
  obtain ⟨_, _, _, same⟩ := destroyAll_eq world table
  rw [same]

@[simp] theorem destroyAll_buses (world : World) (table : Ref .table) :
    (world.destroyAll table).buses = world.buses := by
  obtain ⟨_, _, _, same⟩ := destroyAll_eq world table
  rw [same]

@[simp] theorem destroyAll_hardwares (world : World) (table : Ref .table) :
    (world.destroyAll table).hardwares = world.hardwares := by
  obtain ⟨_, _, _, same⟩ := destroyAll_eq world table
  rw [same]

@[simp] theorem cancelAll_dispatchers (world : World) (target : Ref .scheduler) :
    (world.cancelAll target).dispatchers = world.dispatchers :=
  destroyAll_dispatchers world _

/-- Drawing a cell either fails and changes nothing, or writes the cell and tells of
it in the spelling that was given. -/
theorem drawCell_cases (world : World) (target : Ref .bridge) (x y : Value) (lit : Bool) :
    let bridge := world.bridges.get target
    (∃ fault, world.drawCell target x y lit = (world, .raise fault)) ∨
    ∃ column row, (world.hardwares.get bridge.hardware).inMatrix
        column.toInt row.toInt = true ∧
      world.drawCell target x y lit =
        (world.setHardware bridge.hardware
          (·.writeLed column.toInt.toNat row.toInt.toNat lit)).announce bridge.bus
            (.ledChange column row (if lit then 1 else 0)) := by
  intro bridge
  cases written : (world.hardwares.get (world.bridges.get target).hardware).setLed x y
      (.bool lit) with
  | error fault =>
      refine .inl ⟨fault, ?_⟩
      simp only [drawCell, written]
  | ok changed =>
      obtain ⟨column, row, first, second, inside, rfl⟩ := Hardware.setLed_eq_ok written
      obtain ⟨left, wholeLeft, rfl⟩ := whole_of_index first
      obtain ⟨right, wholeRight, rfl⟩ := whole_of_index second
      refine .inr ⟨left, right, inside, ?_⟩
      simp only [drawCell, written, wholeLeft, wholeRight]
      exact congrArg (fun stored : World => stored.announce bridge.bus _)
        (setHardware_const world bridge.hardware
          (·.writeLed left.toInt.toNat right.toInt.toNat lit))

/-- Writing a digital level either fails and changes nothing, or stores the level
and tells of it. -/
theorem digitalWrite_cases (world : World) (target : Ref .bridge) (pin level : Value) :
    let bridge := world.bridges.get target
    (∃ fault, world.digitalWrite target pin level = (world, .raise fault)) ∨
    ∃ name stored, ((world.hardwares.get bridge.hardware).levels? name).isSome = true ∧
      world.digitalWrite target pin level =
        (world.setHardware bridge.hardware (·.writePin name .digital stored)).announce
          bridge.bus (.pinChange name stored .digital) := by
  intro bridge
  cases written : (world.hardwares.get (world.bridges.get target).hardware).setLevel .digital
      pin level with
  | error fault =>
      refine .inl ⟨fault, ?_⟩
      simp only [digitalWrite, written]
  | ok changed =>
      obtain ⟨name, stored, word, known, -, rfl⟩ := Hardware.setLevel_eq_ok written
      refine .inr ⟨name, stored, known, ?_⟩
      obtain ⟨levels, found⟩ := Option.isSome_iff_exists.mp known
      have shown : (((world.hardwares.get bridge.hardware).writePin name .digital stored).levels?
          name).getD .zero = levels.set .digital stored := by
        rw [Hardware.levels?_writePin, if_pos rfl, found]
        rfl
      simp only [digitalWrite, written, word, Option.getD_some]
      rw [shown]
      exact congrArg (fun changed : World => changed.announce bridge.bus _)
        (setHardware_const world bridge.hardware (·.writePin name .digital stored))

theorem publishRest_within {bus : Ref .bus} (inside : scope.bus bus) (event : Value)
    (subscribers : List (Nat × Value)) :
    (publishRest bus event subscribers).Within scope := by
  cases subscribers with
  | nil => trivial
  | cons entry rest => exact ⟨inside, trivial⟩

theorem announce_conduct {bus : Ref .bus} (inside : scope.bus bus) (event : Event) :
    Conduct scope world (world.announce bus event) :=
  ⟨steps_withFresh world (.event event), inside⟩

theorem cancelAll_steps (target : Ref .scheduler) :
    Steps scope world (world.cancelAll target) :=
  .handles (.destroyAll world _)

theorem startLoop_conduct (target : Ref .scheduler) (callback : Value) :
    Conduct scope world (world.startLoop target callback) := by
  unfold startLoop
  by_cases looping : world.looping = true
  · simp only [looping, Bool.not_true, Bool.false_eq_true, if_false]
    have creation : HandleStep scope world _ :=
      .create world (world.schedulers.get target).table callback "forever"
    split
    next created fault result =>
      rw [result] at creation
      exact .after (.handles creation) (conduct_reply _)
    next created handle result =>
      rw [result] at creation
      apply Conduct.after (.handles creation)
      apply Conduct.after (.handles (.activate _ handle))
      exact ⟨steps_refl _, trivial, fun _ => Notice.noConfusion⟩
  · simp only [looping, Bool.not_false, if_true]
    exact conduct_reply _

theorem continueLoop_conduct (target : Ref .scheduler) (handle : Ref .handle) :
    Conduct scope world (world.continueLoop target handle) := by
  unfold continueLoop
  by_cases active : (world.handles.get handle).isActive = true
  · simp only [active, if_true]
    exact ⟨steps_refl world, trivial, trivial⟩
  · simp only [active]
    exact ⟨steps_log world _ _ _, trivial⟩

theorem iterateLoop_conduct (target : Ref .scheduler) (handle : Ref .handle) :
    Conduct scope world (world.iterateLoop target handle) := by
  unfold iterateLoop
  by_cases active : (world.handles.get handle).isActive = true
  · simp only [active, if_true]
    exact ⟨steps_refl world, trivial, trivial⟩
  · simp only [active]
    exact ⟨steps_log world _ _ _, trivial⟩

theorem registerHandler_conduct (target : Ref .dispatcher) (button handler : Value) :
    Conduct scope world (world.registerHandler target button handler) := by
  unfold registerHandler
  cases button.toButton with
  | error fault => exact conduct_reply _
  | ok known =>
      have creation : HandleStep scope world _ :=
        .create world (world.dispatchers.get target).table handler
          ("button " ++ known.name)
      simp only
      split
      next created fault result =>
        rw [result] at creation
        exact .after (.handles creation) (conduct_reply _)
      next created handle result =>
        rw [result] at creation
        apply Conduct.after (.handles creation)
        apply Conduct.after (.handles (.activate _ handle))
        exact .after
          (.one (.setHandlers _ target fun dispatcher =>
            dispatcher.handlers.set known (dispatcher.handlers.get known ++ [handle])))
          (conduct_reply _)

theorem unregister_eq (world : World) (target : Ref .dispatcher) (handle : Ref .handle) :
    world.unregister target handle =
      (world.setDispatcher target fun dispatcher =>
        { dispatcher with handlers := dispatcher.handlers.map (·.erase handle) }).destroyHandle
        (world.dispatchers.get target).table handle := by
  have table := world.dispatchers.get_modify_field Dispatcher.table
    (fun dispatcher => { dispatcher with handlers := dispatcher.handlers.map (·.erase handle) })
    (fun _ => rfl) target target
  exact congrArg (World.destroyHandle _ · handle) table

theorem unregister_tables (world : World) (target : Ref .dispatcher) (handle : Ref .handle) :
    (world.unregister target handle).tables =
      world.tables.modify (world.dispatchers.get target).table
        (·.erase (world.handles.get handle).id) := by
  rw [unregister_eq, destroyHandle_tables]
  rfl

theorem unregister_handles (world : World) (target : Ref .dispatcher) (handle : Ref .handle) :
    (world.unregister target handle).handles = world.handles.modify handle Handle.destroy :=
  destroyHandle_handles _ _ _

theorem unregister_dispatchers (world : World) (target : Ref .dispatcher) (handle : Ref .handle) :
    (world.unregister target handle).dispatchers = world.dispatchers.modify target fun dispatcher =>
      { dispatcher with handlers := dispatcher.handlers.map (·.erase handle) } := by
  obtain ⟨_, _, _, same⟩ := destroyHandle_eq (world.setDispatcher target _) _ handle
  rw [unregister_eq, same]
  rfl

theorem unregister_steps {target : Ref .dispatcher} {handle : Ref .handle}
    (permitted : scope.destroys (world.dispatchers.get target).table handle) :
    Steps scope world (world.unregister target handle) := by
  rw [unregister_eq]
  have struck : Step scope world _ :=
    .setHandlers world target fun dispatcher => dispatcher.handlers.map (·.erase handle)
  exact (Steps.one struck).trans (Steps.handles (.destroy permitted))

theorem clearHandlers_steps (target : Ref .dispatcher) :
    Steps scope world (world.clearHandlers target) :=
  (Steps.handles (.destroyAll world _)).trans (Steps.one (.setHandlers _ target fun _ => .const []))

@[simp] theorem clearHandlers_hardware (target other : Ref .dispatcher) :
    ((world.clearHandlers target).dispatchers.get other).hardware =
      (world.dispatchers.get other).hardware := by
  have same := world.dispatchers.get_modify_field Dispatcher.hardware
    (fun dispatcher => { dispatcher with handlers := .const [] }) (fun _ => rfl) target other
  simpa [clearHandlers, setDispatcher] using same

theorem resetDispatcher_steps {target : Ref .dispatcher}
    (inside : scope.hardware (world.dispatchers.get target).hardware) :
    Steps scope world (world.resetDispatcher target) := by
  refine (clearHandlers_steps target).trans (Steps.one (.setHardware ?_ ?_))
  · rw [clearHandlers_hardware]
    exact inside
  · exact Hardware.succeeds_releaseLatches _

theorem serve_within (target : Ref .dispatcher) (handles : List (Ref .handle)) :
    (world.serve target handles).Within scope := by
  induction handles with
  | nil => trivial
  | cons handle rest induction =>
      unfold serve
      by_cases active : (world.handles.get handle).isActive = true
      · simp only [active, if_true]
        exact ⟨trivial, trivial⟩
      · simp only [active]
        exact induction

variable (closed : scope.Closed world)
include closed

theorem press_conduct {target : Ref .dispatcher} (inside : scope.dispatcher target)
    (button : Value) : Conduct scope world (world.press target button) := by
  unfold press
  cases button.toButton with
  | error fault => exact conduct_reply _
  | ok known =>
      obtain ⟨hardware, bus⟩ := closed.dispatcher target inside
      have latched : Step scope world (world.setHardware _ (·.writeLatch known true)) :=
        .setHardware hardware (Hardware.succeeds_writeLatch _ known true)
      exact .after (.one latched) ((announce_conduct bus _).within trivial)

theorem sweep_conduct {target : Ref .bridge} (inside : scope.bridge target)
    (cells : List (Nat × Nat)) : Conduct scope world (world.sweep target cells) := by
  cases cells with
  | nil => exact conduct_reply _
  | cons cell rest =>
      obtain ⟨hardware, bus, _⟩ := closed.bridge target inside
      have darkened : Step scope world (world.setHardware _ (·.writeLed cell.1 cell.2 false)) :=
        .setHardware hardware (Hardware.succeeds_writeLed _ cell.1 cell.2 false)
      exact .after (.one darkened) ((announce_conduct bus _).within inside)

theorem clearScreen_conduct {target : Ref .bridge} (inside : scope.bridge target) :
    Conduct scope world (world.clearScreen target) :=
  sweep_conduct closed inside _

theorem drawCell_conduct {target : Ref .bridge} (inside : scope.bridge target)
    (x y : Value) (lit : Bool) : Conduct scope world (world.drawCell target x y lit) := by
  obtain ⟨hardware, bus, _⟩ := closed.bridge target inside
  rcases drawCell_cases world target x y lit with ⟨fault, failed⟩ | ⟨column, row, -, drawn⟩
  · rw [failed]
    exact conduct_reply _
  · rw [drawn]
    exact .after (.one (.setHardware hardware (Hardware.succeeds_writeLed _ _ _ _)))
      (announce_conduct bus _)

theorem digitalWrite_conduct {target : Ref .bridge} (inside : scope.bridge target)
    (pin level : Value) : Conduct scope world (world.digitalWrite target pin level) := by
  obtain ⟨hardware, bus, _⟩ := closed.bridge target inside
  rcases digitalWrite_cases world target pin level with
    ⟨fault, failed⟩ | ⟨name, stored, -, written⟩
  · rw [failed]
    exact conduct_reply _
  · rw [written]
    exact .after (.one (.setHardware hardware (Hardware.succeeds_writePin _ _ _ _)))
      (announce_conduct bus _)

theorem resetBoard_conduct {target : Ref .bridge} (inside : scope.bridge target) :
    Conduct scope world (world.resetBoard target) := by
  obtain ⟨hardware, bus, dispatcher, _⟩ := closed.bridge target inside
  obtain ⟨latches, _⟩ := closed.dispatcher _ dispatcher
  have released : Steps scope (world.cancelAll (world.bridges.get target).scheduler)
      ((world.cancelAll (world.bridges.get target).scheduler).resetDispatcher
        (world.bridges.get target).dispatcher) := by
    apply resetDispatcher_steps
    rw [cancelAll_dispatchers]
    exact latches
  apply Conduct.after (cancelAll_steps (world.bridges.get target).scheduler)
  apply Conduct.after released
  exact .after (.one (.setHardware hardware (Hardware.succeeds_reset _)))
    ((announce_conduct bus _).within trivial)

omit closed in
theorem closed_observe (closed : scope.Closed world) (entry : Entry) :
    scope.Closed (world.observe entry) :=
  ⟨closed.dispatcher, closed.bridge, closed.board⟩

theorem draw_conduct {surface : Surface} (inside : surface.Within scope) (interval : Value)
    (strokes : List Scroll.Stroke) :
    Conduct scope world (world.draw surface interval strokes) := by
  induction strokes generalizing world with
  | nil => exact conduct_reply _
  | cons stroke rest induction =>
      cases stroke with
      | pause => exact ⟨steps_refl world, inside, trivial⟩
      | clear =>
          cases surface with
          | matrix bridge => exact (clearScreen_conduct closed inside).within inside
          | panel label =>
              exact .after (steps_observe world _) (induction (closed_observe closed _))
      | plot x y =>
          cases surface with
          | matrix bridge => exact (drawCell_conduct closed inside _ _ true).within inside
          | panel label =>
              exact .after (steps_observe world _) (induction (closed_observe closed _))

theorem scroll_conduct {target : Ref .scroller}
    (inside : (world.scrollers.get target).surface.Within scope) (text : String)
    (interval : Value) : Conduct scope world (world.scroll target text interval) := by
  unfold scroll
  cases world.framesOf target text with
  | error fault => exact conduct_reply _
  | ok frames => exact draw_conduct closed inside interval _

omit closed in
theorem closeBoard_conduct {target : Ref .board} (inside : scope.board target) :
    Conduct scope world (world.closeBoard target) := by
  apply Conduct.after (cancelAll_steps (world.boards.get target).scheduler)
  apply Conduct.after (clearHandlers_steps (world.boards.get target).dispatcher)
  exact ⟨steps_refl _, inside, trivial⟩

omit closed in
theorem waitFor_within (tasks : List TaskId) : (waitFor tasks).Within scope := by
  cases tasks with
  | nil => trivial
  | cons task rest => exact List.cons_ne_nil task rest

theorem begin_conduct {work : Work} (inside : work.Within scope world) :
    Conduct scope world (world.begin work) := by
  cases work with
  | body | sleep | future => exact ⟨steps_refl world, trivial⟩
  | showString target text interval =>
      exact scroll_conduct closed (closed.bridge target inside).2.2.2 _ _
  | scroll target text interval => exact scroll_conduct closed inside _ _
  | loop target handle => exact ⟨steps_refl world, trivial, trivial⟩
  | loopsIdle | handlersIdle => exact ⟨steps_refl world, waitFor_within _⟩
  | closeBoard target => exact closeBoard_conduct inside
  | closeKeeper target =>
      exact .after (.one (.setKeeper world target _)) (conduct_reply _)

omit closed in
theorem handOn_within (target : Ref .dispatcher) (handle : Ref .handle)
    (rest : List (Ref .handle)) (work : Work) :
    (handOn target handle rest work).Within scope := by
  cases work with
  | future task => exact ⟨trivial, trivial⟩
  | _ => exact ⟨trivial, fun _ => Notice.noConfusion⟩

theorem resume_conduct {frame : Frame} (inside : frame.Within scope) (reply : Reply) :
    Conduct scope world (world.resume frame reply) := by
  cases reply with
  | error fault =>
      cases frame with
      | program next => exact ⟨steps_refl world, trivial⟩
      | publishing bus event id rest =>
          by_cases ordinary : fault.isOrdinary = true
          · simp only [resume, ordinary, if_true]
            exact ⟨steps_log world _ _ _, publishRest_within inside event rest⟩
          · simp only [resume, ordinary]
            exact conduct_reply _
      | pressing target handle rest =>
          simp only [resume]
          split
          · exact conduct_reply _
          · exact ⟨steps_noteFailure world _ _ _ _, serve_within target rest⟩
      | iterating target handle | iterationAwaits target handle =>
          simp only [resume]
          split
          · exact conduct_reply _
          · exact .after (steps_noteFailure world _ _ _ _) (continueLoop_conduct target handle)
      | spawned | spawnAwaits => exact .after (steps_observe world _) (conduct_reply _)
      | _ => exact conduct_reply _
  | ok value =>
      cases frame with
      | program next => exact ⟨steps_refl world, trivial⟩
      | publishing bus event id rest =>
          exact ⟨steps_refl world, publishRest_within inside event rest⟩
      | pressed target button => exact ⟨steps_refl world, serve_within target _⟩
      | pressing target handle rest =>
          cases awaited : value.work? with
          | none =>
              simp only [resume, awaited]
              exact ⟨steps_refl world, serve_within target rest⟩
          | some work =>
              by_cases looping : world.looping = true
              · simp only [resume, awaited, looping, if_true]
                exact ⟨steps_refl world, handOn_within target handle rest work⟩
              · simp only [resume, awaited, looping]
                exact ⟨steps_noteFailure world _ _ _ _, serve_within target rest⟩
      | serving target rest => exact ⟨steps_refl world, serve_within target rest⟩
      | clearing target rest => exact sweep_conduct closed inside rest
      | drawing surface interval rest => exact draw_conduct closed inside interval rest
      | announced => exact .after (steps_log world _ _ _) (conduct_reply _)
      | loopSlept target handle => exact iterateLoop_conduct target handle
      | iterating target handle =>
          cases awaited : value.work? with
          | none =>
              simp only [resume, awaited]
              exact continueLoop_conduct target handle
          | some work =>
              simp only [resume, awaited]
              exact ⟨steps_refl world, trivial, trivial⟩
      | iterationAwaits target handle => exact continueLoop_conduct target handle
      | closingLoops target => exact ⟨steps_refl world, inside, trivial⟩
      | closingHandlers target =>
          exact .after
            (.one (.setBus (closed.board target inside).2.1 (Bus.succeeds_clear _)))
            (conduct_reply _)
      | spawned =>
          cases awaited : value.work? with
          | none =>
              simp only [resume, awaited]
              exact .after (steps_observe world _) (conduct_reply _)
          | some work =>
              by_cases coroutine : work.isCoroutine = true
              · simp only [resume, awaited, coroutine, if_true]
                exact ⟨steps_refl world, trivial, trivial⟩
              · simp only [resume, awaited, coroutine]
                exact .after (steps_observe world _) (conduct_reply _)
      | spawnAwaits => exact .after (steps_observe world _) (conduct_reply _)

end Microboard.World
