import Microboard.Proofs.World.Step

/-!
# Growth

A world only grows: objects stay where they are, parts keep referring to the
same parts, a handle keeps its number and stays destroyed once it is.  What
lies outside the scope of a change is not touched by it at all.
-/

namespace Microboard

namespace Arena

variable {component : Component} {α : Type} [Inhabited α] {relation : α → α → Prop}

/-- Every object is still there, and is related to what it was. -/
def Grows (relation : α → α → Prop) (old new : Arena component α) : Prop :=
  ∀ target, old.Has target → new.Has target ∧ relation (old.get target) (new.get target)

theorem Grows.refl (reflexive : ∀ item, relation item item) (arena : Arena component α) :
    Grows relation arena arena :=
  fun _ has => ⟨has, reflexive _⟩

theorem Grows.trans (transitive : ∀ first second third,
      relation first second → relation second third → relation first third)
    {first second third : Arena component α} (left : Grows relation first second)
    (right : Grows relation second third) : Grows relation first third := by
  intro target has
  obtain ⟨hasSecond, toSecond⟩ := left target has
  obtain ⟨hasThird, toThird⟩ := right target hasSecond
  exact ⟨hasThird, transitive _ _ _ toSecond toThird⟩

theorem Grows.push (reflexive : ∀ item, relation item item) (arena : Arena component α)
    (item : α) : Grows relation arena (arena.push item) := by
  intro target has
  rw [get_push_of_has has]
  exact ⟨has_push has, reflexive _⟩

theorem Grows.modify (reflexive : ∀ item, relation item item) (arena : Arena component α)
    {target : Ref component} {change : α → α}
    (keeps : relation (arena.get target) (change (arena.get target))) :
    Grows relation arena (arena.modify target change) := by
  intro other has
  refine ⟨has_modify.mpr has, ?_⟩
  by_cases same : other = target
  · subst other
    rw [get_modify_self change has]
    exact keeps
  · rw [get_modify_of_ne arena change same]
    exact reflexive _

theorem get_of_not_has {arena : Arena component α} {target : Ref component}
    (missing : ¬ arena.Has target) : arena.get target = default := by
  have size : arena.items.length ≤ target.index := Nat.le_of_not_lt missing
  simp [get, List.getElem?_eq_none size]

omit [Inhabited α] in
theorem has_or_fresh {arena : Arena component α} {item : α} {target : Ref component}
    (has : (arena.push item).Has target) : arena.Has target ∨ target = arena.fresh := by
  obtain ⟨index⟩ := target
  simp only [Has, push, List.length_append, List.length_singleton] at has
  rcases Nat.lt_succ_iff_lt_or_eq.mp has with earlier | rfl
  · exact .inl earlier
  · exact .inr rfl

theorem modify_const (arena : Arena component α) (target : Ref component)
    (change : α → α) :
    (arena.modify target fun _ => change (arena.get target)) = arena.modify target change := by
  apply congrArg Arena.mk
  apply List.ext_getElem?
  intro index
  rw [List.getElem?_modify, List.getElem?_modify]
  by_cases same : target.index = index
  · subst same
    cases found : arena.items[target.index]? with
    | none => rfl
    | some item => simp [get, found]
  · simp [same]

theorem get_modify_field {β : Type} (arena : Arena component α) (field : α → β)
    (change : α → α) (keeps : ∀ item, field (change item) = field item)
    (target other : Ref component) :
    field ((arena.modify target change).get other) = field (arena.get other) := by
  by_cases same : other = target
  · subst other
    by_cases has : arena.Has target
    · rw [get_modify_self change has, keeps]
    · rw [get_of_not_has has, get_of_not_has fun later => has (has_modify.mp later)]
  · rw [get_modify_of_ne arena change same]

end Arena

/-- A handle has no callback exactly when it is destroyed. -/
def Handle.Released (handle : Handle) : Prop :=
  handle.callback = none ↔ handle.isDestroyed = true

structure Handle.Succeeds (old new : Handle) : Prop where
  id : new.id = old.id
  kind : new.kind = old.kind
  callback : new.callback = old.callback ∨ new.callback = none
  destroyed : old.isDestroyed = true → new.isDestroyed = true
  released : old.Released → new.Released

structure HandleTable.Succeeds (old new : HandleTable) : Prop where
  next : old.next ≤ new.next

structure Scheduler.Succeeds (old new : Scheduler) : Prop where
  clock : new.clock = old.clock
  interval : new.interval = old.interval
  table : new.table = old.table

structure Dispatcher.Succeeds (old new : Dispatcher) : Prop where
  hardware : new.hardware = old.hardware
  bus : new.bus = old.bus
  table : new.table = old.table

theorem HandleTable.Succeeds.refl (table : HandleTable) : Succeeds table table :=
  ⟨Nat.le_refl _⟩

theorem Scheduler.Succeeds.refl (scheduler : Scheduler) : Succeeds scheduler scheduler :=
  ⟨rfl, rfl, rfl⟩

theorem Dispatcher.Succeeds.refl (dispatcher : Dispatcher) :
    Succeeds dispatcher dispatcher :=
  ⟨rfl, rfl, rfl⟩

namespace Handle

theorem Succeeds.refl (handle : Handle) : Succeeds handle handle :=
  ⟨rfl, rfl, .inl rfl, fun destroyed => destroyed, fun released => released⟩

theorem Succeeds.trans {first second third : Handle} (left : Succeeds first second)
    (right : Succeeds second third) : Succeeds first third where
  id := right.id.trans left.id
  kind := right.kind.trans left.kind
  callback := by
    rcases right.callback with same | gone
    · rw [same]
      exact left.callback
    · exact .inr gone
  destroyed earlier := right.destroyed (left.destroyed earlier)
  released earlier := right.released (left.released earlier)

theorem succeeds_destroy (handle : Handle) : Succeeds handle handle.destroy :=
  ⟨rfl, rfl, .inr rfl, fun _ => rfl, fun _ => ⟨fun _ => rfl, fun _ => rfl⟩⟩

theorem succeeds_recordFailure (handle : Handle) (failure : Value) :
    Succeeds handle (handle.recordFailure failure) :=
  ⟨rfl, rfl, .inl rfl, fun destroyed => destroyed, fun released => released⟩

/-- A handle that takes part has a callback. -/
theorem Released.callback_of_active {handle : Handle} (released : handle.Released)
    (active : handle.isActive = true) : ∃ callback, handle.callback = some callback := by
  cases callback : handle.callback with
  | some value => exact ⟨value, rfl⟩
  | none =>
      have destroyed := released.mp callback
      simp only [isActive, isDestroyed, decide_eq_true_eq] at active destroyed
      rw [active] at destroyed
      cases destroyed

theorem succeeds_activate (handle : Handle) :
    Succeeds handle (handle.activate?.getD handle) := by
  by_cases destroyed : handle.isDestroyed = true
  · simpa [activate?, destroyed] using Succeeds.refl handle
  · have active : handle.activate?.getD handle = { handle with stage := .active } := by
      simp [activate?, destroyed]
    rw [active]
    refine ⟨rfl, rfl, .inl rfl, fun earlier => absurd earlier destroyed, ?_⟩
    intro released
    have kept : handle.callback ≠ none := fun gone => destroyed (released.mp gone)
    exact ⟨fun gone => absurd gone kept, fun later => by simp [isDestroyed] at later⟩

end Handle

namespace World

/-- What every operation keeps. -/
structure Grows (old new : World) : Prop where
  hardwares : old.hardwares.Grows Hardware.Succeeds new.hardwares
  buses : old.buses.Grows Bus.Succeeds new.buses
  tables : old.tables.Grows HandleTable.Succeeds new.tables
  handles : old.handles.Grows Handle.Succeeds new.handles
  schedulers : old.schedulers.Grows Scheduler.Succeeds new.schedulers
  dispatchers : old.dispatchers.Grows Dispatcher.Succeeds new.dispatchers
  bridges : old.bridges.Grows Eq new.bridges
  scrollers : old.scrollers.Grows Eq new.scrollers
  boards : old.boards.Grows Eq new.boards

theorem Grows.refl (world : World) : Grows world world where
  hardwares := .refl Hardware.Succeeds.refl _
  buses := .refl Bus.Succeeds.refl _
  tables := .refl HandleTable.Succeeds.refl _
  handles := .refl Handle.Succeeds.refl _
  schedulers := .refl Scheduler.Succeeds.refl _
  dispatchers := .refl Dispatcher.Succeeds.refl _
  bridges := .refl (fun _ => rfl) _
  scrollers := .refl (fun _ => rfl) _
  boards := .refl (fun _ => rfl) _

theorem Grows.trans {first second third : World} (left : Grows first second)
    (right : Grows second third) : Grows first third where
  hardwares := left.hardwares.trans (fun _ _ _ before after => before.trans after)
    right.hardwares
  buses := left.buses.trans
    (fun _ _ _ before after =>
      ⟨Nat.le_trans before.next after.next,
        fun numbered => after.numbered (before.numbered numbered)⟩)
    right.buses
  tables := left.tables.trans
    (fun _ _ _ before after => ⟨Nat.le_trans before.next after.next⟩) right.tables
  handles := left.handles.trans (fun _ _ _ before after => before.trans after) right.handles
  schedulers := left.schedulers.trans
    (fun _ _ _ before after =>
      ⟨after.clock.trans before.clock, after.interval.trans before.interval,
        after.table.trans before.table⟩)
    right.schedulers
  dispatchers := left.dispatchers.trans
    (fun _ _ _ before after =>
      ⟨after.hardware.trans before.hardware, after.bus.trans before.bus,
        after.table.trans before.table⟩)
    right.dispatchers
  bridges := left.bridges.trans (fun _ _ _ before after => before.trans after) right.bridges
  scrollers := left.scrollers.trans (fun _ _ _ before after => before.trans after) right.scrollers
  boards := left.boards.trans (fun _ _ _ before after => before.trans after) right.boards

/-- Apart from what it logs, destroying a handle strikes its number and ends the handle. -/
theorem destroyHandle_strikes (world : World) (table : Ref .table) (target : Ref .handle) :
    ∃ trace, world.destroyHandle table target =
      { world with
        tables := world.tables.modify table (·.erase (world.handles.get target).id)
        handles := world.handles.modify target Handle.destroy
        trace } := by
  unfold destroyHandle
  by_cases own :
      ((world.tables.get table).find? (world.handles.get target).id == some target) = true
  · simp only [own, if_true]
    exact ⟨_, rfl⟩
  · simp only [own]
    exact ⟨_, rfl⟩

theorem destroyHandle_eq (world : World) (table : Ref .table) (target : Ref .handle) :
    ∃ tables handles trace,
      world.destroyHandle table target = { world with tables, handles, trace } := by
  obtain ⟨trace, strikes⟩ := world.destroyHandle_strikes table target
  exact ⟨_, _, trace, strikes⟩

@[simp] theorem destroyHandle_tables (world : World) (table : Ref .table)
    (target : Ref .handle) :
    (world.destroyHandle table target).tables =
      world.tables.modify table (·.erase (world.handles.get target).id) := by
  obtain ⟨trace, strikes⟩ := world.destroyHandle_strikes table target
  rw [strikes]

@[simp] theorem destroyHandle_handles (world : World) (table : Ref .table)
    (target : Ref .handle) :
    (world.destroyHandle table target).handles =
      world.handles.modify target Handle.destroy := by
  obtain ⟨trace, strikes⟩ := world.destroyHandle_strikes table target
  rw [strikes]

theorem destroyAll_eq (world : World) (table : Ref .table) :
    ∃ tables handles trace,
      world.destroyAll table = { world with tables, handles, trace } := by
  unfold destroyAll
  generalize (world.tables.get table).handles = listed
  induction listed generalizing world with
  | nil => exact ⟨_, _, _, rfl⟩
  | cons handle rest induction =>
      obtain ⟨tables, handles, trace, first⟩ := destroyHandle_eq world table handle
      obtain ⟨tables, handles, trace, others⟩ := induction (world.destroyHandle table handle)
      rw [List.foldl_cons, others, first]
      exact ⟨tables, handles, trace, rfl⟩

theorem grows_destroyHandle (world : World) (table : Ref .table) (target : Ref .handle) :
    Grows world (world.destroyHandle table target) := by
  obtain ⟨trace, strikes⟩ := world.destroyHandle_strikes table target
  rw [strikes]
  exact { Grows.refl world with
    tables := .modify HandleTable.Succeeds.refl _ ⟨Nat.le_refl _⟩
    handles := .modify Handle.Succeeds.refl _ (Handle.succeeds_destroy _) }

theorem grows_destroyAll (world : World) (table : Ref .table) :
    Grows world (world.destroyAll table) := by
  unfold destroyAll
  generalize (world.tables.get table).handles = handles
  induction handles generalizing world with
  | nil => exact Grows.refl world
  | cons handle rest induction =>
      exact (grows_destroyHandle world table handle).trans (induction _)

theorem createHandle_cases (world : World) (table : Ref .table) (callback : Value)
    (kind : String) :
    (∃ fault, world.createHandle table callback kind = (world, .error fault)) ∨
    ∃ trace, callback.isCallable = true ∧
      world.createHandle table callback kind =
        ({ world with
            handles := world.handles.push
              (.registered (world.tables.get table).next kind callback)
            tables := world.tables.modify table (·.insert world.handles.fresh)
            trace },
          .ok world.handles.fresh) := by
  unfold createHandle
  by_cases callable : callback.isCallable = true
  · simp only [callable, if_true]
    exact .inr ⟨_, trivial, rfl⟩
  · simp only [callable]
    exact .inl ⟨_, rfl⟩

theorem createHandle_eq (world : World) (table : Ref .table) (callback : Value)
    (kind : String) :
    ∃ tables handles trace,
      (world.createHandle table callback kind).1 = { world with tables, handles, trace } := by
  rcases createHandle_cases world table callback kind with
    ⟨fault, failed⟩ | ⟨trace, callable, created⟩
  · exact ⟨world.tables, world.handles, world.trace, congrArg Prod.fst failed⟩
  · exact ⟨_, _, trace, congrArg Prod.fst created⟩

theorem grows_createHandle (world : World) (table : Ref .table) (callback : Value)
    (kind : String) : Grows world (world.createHandle table callback kind).1 := by
  rcases createHandle_cases world table callback kind with
    ⟨fault, failed⟩ | ⟨trace, callable, created⟩
  · rw [failed]
    exact Grows.refl world
  · rw [created]
    exact
      { Grows.refl world with
        tables := .modify HandleTable.Succeeds.refl _ ⟨Nat.le_succ _⟩
        handles := .push Handle.Succeeds.refl _ _ }

variable {scope : Scope} {old new : World}

theorem HandleStep.grows (step : HandleStep scope old new) : Grows old new := by
  cases step with
  | create table callback kind => exact grows_createHandle old table callback kind
  | activate target =>
      exact
        { Grows.refl old with
          handles := .modify Handle.Succeeds.refl _ (Handle.succeeds_activate _) }
  | storeFailure target cause =>
      exact
        { Grows.refl old with
          handles := .modify Handle.Succeeds.refl _ (Handle.succeeds_recordFailure _ _) }
  | destroy => exact grows_destroyHandle old _ _
  | destroyAll table => exact grows_destroyAll old table

theorem HandleStep.eq (step : HandleStep scope old new) :
    ∃ tables handles identities trace,
      new = { old with tables, handles, identities, trace } := by
  cases step with
  | create table callback kind =>
      obtain ⟨tables, handles, trace, same⟩ := createHandle_eq old table callback kind
      exact ⟨tables, handles, old.identities, trace, same⟩
  | activate target => exact ⟨old.tables, _, old.identities, old.trace, rfl⟩
  | storeFailure target cause =>
      exact ⟨old.tables, _, old.identities + 1, old.trace, rfl⟩
  | destroy =>
      obtain ⟨tables, handles, trace, same⟩ := destroyHandle_eq old _ _
      exact ⟨tables, handles, old.identities, trace, same⟩
  | destroyAll table =>
      obtain ⟨tables, handles, trace, same⟩ := destroyAll_eq old table
      exact ⟨tables, handles, old.identities, trace, same⟩

theorem Step.grows (step : Step scope old new) : Grows old new := by
  cases step with
  | history => exact { Grows.refl old with }
  | setHardware inside keeps =>
      exact
        { Grows.refl old with
          hardwares := .modify Hardware.Succeeds.refl _ keeps }
  | setBus inside keeps =>
      exact { Grows.refl old with buses := .modify Bus.Succeeds.refl _ keeps }
  | handles step => exact step.grows
  | setTasks target tasks =>
      exact
        { Grows.refl old with
          schedulers := .modify Scheduler.Succeeds.refl _ ⟨rfl, rfl, rfl⟩ }
  | setHandlers target handlers =>
      exact
        { Grows.refl old with
          dispatchers := .modify Dispatcher.Succeeds.refl _ ⟨rfl, rfl, rfl⟩ }
  | setBackground target background =>
      exact
        { Grows.refl old with
          dispatchers := .modify Dispatcher.Succeeds.refl _ ⟨rfl, rfl, rfl⟩ }
  | setRegistry | setKeeper | newKeeper | newRegistry => exact { Grows.refl old with }
  | newTable =>
      exact { Grows.refl old with tables := .push HandleTable.Succeeds.refl _ _ }
  | newBus => exact { Grows.refl old with buses := .push Bus.Succeeds.refl _ _ }
  | newHardware shaped =>
      exact { Grows.refl old with hardwares := .push Hardware.Succeeds.refl _ _ }
  | newScheduler clock interval =>
      exact
        { Grows.refl old with
          tables := .push HandleTable.Succeeds.refl _ _
          schedulers := .push Scheduler.Succeeds.refl _ _ }
  | newDispatcher hardware bus =>
      exact
        { Grows.refl old with
          tables := .push HandleTable.Succeeds.refl _ _
          dispatchers := .push Dispatcher.Succeeds.refl _ _ }
  | newScroller scroller =>
      exact { Grows.refl old with scrollers := .push (fun _ => rfl) _ _ }
  | newBridge hardware bus clock scheduler dispatcher interval =>
      exact
        { Grows.refl old with
          scrollers := .push (fun _ => rfl) _ _
          bridges := .push (fun _ => rfl) _ _ }
  | newBoard wired => exact { Grows.refl old with boards := .push (fun _ => rfl) _ _ }

/-- What a board is wired to stays so. -/
theorem Wired.grows {board : Board} (wired : old.Wired board) (grows : Grows old new) :
    new.Wired board := by
  obtain ⟨hasHardware, hardware⟩ := grows.hardwares _ wired.hasHardware
  obtain ⟨hasScheduler, scheduler⟩ := grows.schedulers _ wired.hasScheduler
  obtain ⟨hasDispatcher, dispatcher⟩ := grows.dispatchers _ wired.hasDispatcher
  obtain ⟨hasBridge, bridge⟩ := grows.bridges _ wired.hasBridge
  obtain ⟨hasScroller, scroller⟩ := grows.scrollers _ wired.hasScroller
  rw [bridge] at hasScroller scroller
  exact
    { hasHardware, hasScheduler, hasDispatcher, hasBridge, hasScroller
      buildable := wired.buildable
      hasBus := (grows.buses _ wired.hasBus).1
      hasLoops := by rw [scheduler.table]; exact (grows.tables _ wired.hasLoops).1
      hasHandlers := by rw [dispatcher.table]; exact (grows.tables _ wired.hasHandlers).1
      pinIds := hardware.pinIds.trans wired.pinIds
      width := hardware.width.trans wired.width
      height := hardware.height.trans wired.height
      interval := scheduler.interval.trans wired.interval
      dispatcher :=
        ⟨dispatcher.hardware.trans wired.dispatcher.1, dispatcher.bus.trans wired.dispatcher.2⟩
      bridge := bridge ▸ wired.bridge
      scroller := by rw [← scroller, ← bridge]; exact wired.scroller }

theorem Steps.grows (steps : Steps scope old new) : Grows old new := by
  induction steps with
  | refl => exact Grows.refl old
  | tail _ step induction => exact induction.trans step.grows

/-- Hardware outside the scope is not touched. -/
theorem Step.hardware_outside {target : Ref .hardware} (step : Step scope old new)
    (has : old.hardwares.Has target) (outside : ¬ scope.hardware target) :
    new.hardwares.get target = old.hardwares.get target := by
  cases step with
  | setHardware inside =>
      apply Arena.get_modify_of_ne
      intro same
      apply outside
      rw [same]
      exact inside
  | newHardware => exact Arena.get_push_of_has has
  | handles step =>
      obtain ⟨_, _, _, _, rfl⟩ := step.eq
      rfl
  | _ => rfl

theorem Step.bus_outside {target : Ref .bus} (step : Step scope old new)
    (has : old.buses.Has target) (outside : ¬ scope.bus target) :
    new.buses.get target = old.buses.get target := by
  cases step with
  | setBus inside =>
      apply Arena.get_modify_of_ne
      intro same
      apply outside
      rw [same]
      exact inside
  | newBus => exact Arena.get_push_of_has has
  | handles step =>
      obtain ⟨_, _, _, _, rfl⟩ := step.eq
      rfl
  | _ => rfl

theorem Steps.hardware_outside {target : Ref .hardware} (steps : Steps scope old new)
    (has : old.hardwares.Has target) (outside : ¬ scope.hardware target) :
    new.hardwares.get target = old.hardwares.get target := by
  induction steps with
  | refl => rfl
  | tail before step induction =>
      exact (step.hardware_outside ((Steps.grows before).hardwares _ has).1 outside).trans
        induction

theorem Steps.bus_outside {target : Ref .bus} (steps : Steps scope old new)
    (has : old.buses.Has target) (outside : ¬ scope.bus target) :
    new.buses.get target = old.buses.get target := by
  induction steps with
  | refl => rfl
  | tail before step induction =>
      exact (step.bus_outside ((Steps.grows before).buses _ has).1 outside).trans induction

end World

end Microboard
