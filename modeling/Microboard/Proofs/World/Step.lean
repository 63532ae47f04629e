import Mathlib.Logic.Relation
import Microboard.Proofs.Hardware.Shape
import Microboard.Proofs.World.Scope

/-!
# Steps of a world

Whatever the library does to a world is a sequence of the small changes listed
here.  A change that acts on hardware, on a bus or on a single handle needs the
permission of a scope.  What all of them keep is stated once, in `Growth`.
-/

namespace Microboard

/-- The numbers of the subscriptions ascend and have all been given out. -/
structure Bus.Numbered (bus : Bus) : Prop where
  ascending : bus.ids.Pairwise (· < ·)
  given : ∀ id ∈ bus.ids, id < bus.next

structure Bus.Succeeds (old new : Bus) : Prop where
  next : old.next ≤ new.next
  numbered : old.Numbered → new.Numbered

theorem Bus.Succeeds.refl (bus : Bus) : Bus.Succeeds bus bus :=
  ⟨Nat.le_refl _, id⟩

theorem Bus.numbered_initial : Bus.initial.Numbered :=
  ⟨List.Pairwise.nil, by simp [Bus.initial, Bus.ids]⟩

theorem Bus.succeeds_subscribe (bus : Bus) (subscriber : Value) :
    Bus.Succeeds bus (bus.subscribe subscriber) := by
  refine ⟨Nat.le_succ _, fun numbered => ⟨?_, ?_⟩⟩
  · rw [Bus.ids_subscribe, List.pairwise_append]
    refine ⟨numbered.ascending, List.pairwise_singleton _ _, ?_⟩
    intro id member other last
    rw [List.mem_singleton.mp last]
    exact numbered.given id member
  · intro id member
    rw [Bus.ids_subscribe, List.mem_append, List.mem_singleton] at member
    rcases member with earlier | rfl
    · exact Nat.lt_succ_of_lt (numbered.given id earlier)
    · exact Nat.lt_succ_self _

theorem Bus.succeeds_unsubscribe (bus : Bus) (id : Nat) :
    Bus.Succeeds bus (bus.unsubscribe id) := by
  refine ⟨Nat.le_refl _, fun numbered => ⟨?_, ?_⟩⟩
  · rw [Bus.ids_unsubscribe]
    exact numbered.ascending.filter _
  · intro other member
    rw [Bus.ids_unsubscribe, List.mem_filter] at member
    exact numbered.given other member.1

theorem Bus.succeeds_clear (bus : Bus) : Bus.Succeeds bus bus.clear := by
  refine ⟨Nat.le_refl _, fun _ => ⟨?_, ?_⟩⟩
  · rw [Bus.ids_clear]
    exact List.Pairwise.nil
  · simp [Bus.ids_clear]

/-- A board can be built from a configuration: it has pins, and its loops have a delay. -/
structure BoardConfig.Buildable (config : BoardConfig) : Prop where
  pins : config.pins.pinIds ≠ []
  interval : checkInterval config.timing.forever.value = .ok config.timing.forever.value

namespace World

/-- The parts of a board exist, are of the kind that its configuration asks for, and
refer to each other. -/
structure Wired (world : World) (board : Board) : Prop where
  buildable : board.config.Buildable
  hasHardware : world.hardwares.Has board.hardware
  hasBus : world.buses.Has board.bus
  hasScheduler : world.schedulers.Has board.scheduler
  hasDispatcher : world.dispatchers.Has board.dispatcher
  hasBridge : world.bridges.Has board.bridge
  hasScroller : world.scrollers.Has (world.bridges.get board.bridge).scroller
  hasLoops : world.tables.Has (world.schedulers.get board.scheduler).table
  hasHandlers : world.tables.Has (world.dispatchers.get board.dispatcher).table
  pinIds : (world.hardwares.get board.hardware).pinIds = board.config.pins.pinIds
  width : (world.hardwares.get board.hardware).width = board.config.display.width
  height : (world.hardwares.get board.hardware).height = board.config.display.height
  interval : (world.schedulers.get board.scheduler).interval = board.config.timing.forever.value
  dispatcher : (world.dispatchers.get board.dispatcher).hardware = board.hardware ∧
    (world.dispatchers.get board.dispatcher).bus = board.bus
  bridge : world.bridges.get board.bridge =
    ⟨board.hardware, board.bus, board.clock, board.scheduler, board.dispatcher,
      board.config.timing.scroll.value, (world.bridges.get board.bridge).scroller⟩
  scroller : world.scrollers.get (world.bridges.get board.bridge).scroller =
    ⟨.matrix board.bridge, board.clock, board.config.display.width,
      board.config.display.height, Glyph.font⟩

inductive HandleStep (scope : Scope) : World → World → Prop where
  | create (world : World) (table : Ref .table) (callback : Value) (kind : String) :
      HandleStep scope world (world.createHandle table callback kind).1
  | activate (world : World) (target : Ref .handle) :
      HandleStep scope world (world.activate target)
  | storeFailure (world : World) (target : Ref .handle) (cause : Value) :
      HandleStep scope world (world.storeFailure target cause).1
  | destroy {world : World} {table : Ref .table} {target : Ref .handle}
      (inside : scope.destroys table target) :
      HandleStep scope world (world.destroyHandle table target)
  | destroyAll (world : World) (table : Ref .table) :
      HandleStep scope world (world.destroyAll table)

/-- One small change, with the permission of a scope. -/
inductive Step (scope : Scope) : World → World → Prop where
  | history (world : World) (configs : List (String × BoardConfig × Nat))
      (identities : Nat) (looping : Bool) (now : Float) (trace : List Entry) :
      Step scope world { world with configs, identities, looping, now, trace }
  | setHardware {world : World} {target : Ref .hardware} {change : Hardware → Hardware}
      (inside : scope.hardware target)
      (keeps : (world.hardwares.get target).Succeeds
        (change (world.hardwares.get target))) :
      Step scope world (world.setHardware target change)
  | setBus {world : World} {target : Ref .bus} {change : Bus → Bus}
      (inside : scope.bus target)
      (keeps : (world.buses.get target).Succeeds (change (world.buses.get target))) :
      Step scope world (world.setBus target change)
  | handles {old new : World} (step : HandleStep scope old new) : Step scope old new
  | setTasks (world : World) (target : Ref .scheduler)
      (tasks : Scheduler → List (Nat × TaskId)) :
      Step scope world
        (world.setScheduler target fun scheduler => { scheduler with tasks := tasks scheduler })
  | setHandlers (world : World) (target : Ref .dispatcher)
      (handlers : Dispatcher → PerButton (List (Ref .handle))) :
      Step scope world
        (world.setDispatcher target fun dispatcher =>
          { dispatcher with handlers := handlers dispatcher })
  | setBackground (world : World) (target : Ref .dispatcher)
      (background : Dispatcher → List TaskId) :
      Step scope world
        (world.setDispatcher target fun dispatcher =>
          { dispatcher with background := background dispatcher })
  | setRegistry (world : World) (target : Ref .registry) (change : Registry → Registry) :
      Step scope world (world.setRegistry target change)
  | setKeeper (world : World) (target : Ref .keeper) (change : Keeper → Keeper) :
      Step scope world (world.setKeeper target change)
  | newTable (world : World) : Step scope world world.newTable.1
  | newBus (world : World) : Step scope world world.newBus.1
  | newHardware (world : World) {hardware : Hardware} (shaped : hardware.Shaped) :
      Step scope world (world.newHardware hardware).1
  | newScheduler (world : World) (clock : Clock) (interval : Value) :
      Step scope world (world.newScheduler clock interval).1
  | newDispatcher (world : World) (hardware : Ref .hardware) (bus : Ref .bus) :
      Step scope world (world.newDispatcher hardware bus).1
  | newScroller (world : World) (scroller : Scroller) :
      Step scope world (world.newScroller scroller).1
  | newBridge (world : World) (hardware : Ref .hardware) (bus : Ref .bus) (clock : Clock)
      (scheduler : Ref .scheduler) (dispatcher : Ref .dispatcher) (interval : Value) :
      Step scope world
        (world.newBridge hardware bus clock scheduler dispatcher interval).1
  | newKeeper (world : World) (className : String) (arguments : List (String × Value)) :
      Step scope world (world.newKeeper className arguments).1
  | newRegistry (world : World) : Step scope world world.newRegistry.1
  | newBoard {world : World} {board : Board} (wired : world.Wired board) :
      Step scope world { world with boards := world.boards.push board }

/-- Any number of small changes. -/
abbrev Steps (scope : Scope) : World → World → Prop :=
  Relation.ReflTransGen (Step scope)

variable {scope : Scope}

theorem Steps.one {old new : World} (step : Step scope old new) : Steps scope old new :=
  .single step

theorem Steps.handles {old new : World} (step : HandleStep scope old new) :
    Steps scope old new :=
  .single (.handles step)

theorem steps_refl (world : World) : Steps scope world world :=
  .refl

theorem steps_observe (world : World) (entry : Entry) :
    Steps scope world (world.observe entry) :=
  .one (.history world world.configs world.identities world.looping world.now
    (entry :: world.trace))

theorem steps_log (world : World) (level : Level) (logger : Logger) (message : String) :
    Steps scope world (world.log level logger message) :=
  steps_observe world _

theorem steps_counted (world : World) :
    Steps scope world { world with identities := world.identities + 1 } :=
  .one (.history world world.configs (world.identities + 1) world.looping world.now
    world.trace)

theorem steps_withFresh (world : World) (record : Nat → Value) :
    Steps scope world (world.withFresh record).1 :=
  steps_counted world

theorem steps_noteFailure (world : World) (logger : Logger) (heading : String)
    (target : Ref .handle) (fault : Fault) :
    Steps scope world (world.noteFailure logger heading target fault) := by
  unfold noteFailure
  apply (steps_withFresh world (.fault fault)).trans
  apply (Steps.handles (.storeFailure _ target (world.withFresh (.fault fault)).2)).trans
  exact steps_log _ _ _ _

theorem steps_noteOutcome (world : World) (target : Ref .handle) (reply : Reply) :
    Steps scope world (world.noteOutcome target reply) := by
  unfold noteOutcome
  split
  · split
    · exact steps_noteFailure world _ _ _ _
    · exact steps_refl world
  · exact steps_refl world

end World

end Microboard
