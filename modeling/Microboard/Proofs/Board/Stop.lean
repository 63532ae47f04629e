import Microboard.Proofs.World.Filed

/-!
# Stopping a board

What a reset does to a world before it tells anybody: every callback of the board is
destroyed and its hardware is at power-on.
-/

namespace Microboard

namespace World

variable {world : World} {board : Board} {table : Ref .table} {known : Ref .handle → Prop}

def loopTable (world : World) (board : Board) : Ref .table :=
  (world.schedulers.get board.scheduler).table

def handlerTable (world : World) (board : Board) : Ref .table :=
  (world.dispatchers.get board.dispatcher).table

/-- All callbacks of a board are destroyed, and its hardware is at power-on. -/
structure Stopped (board : Board) (issued : Ref .handle → Prop) (world : World) : Prop where
  destroyed : ∀ handle, issued handle → world.Destroyed handle
  loops : (world.tables.get (world.loopTable board)).entries = []
  handlers : (world.tables.get (world.handlerTable board)).entries = []
  lists : (world.dispatchers.get board.dispatcher).handlers = .const []
  snapshot : ∀ (other : World) (clock : Clock) (identity : Nat) (built : World)
    (target : Ref .board), other.buildBoard clock board.config identity = (built, .ok target) →
      (world.hardwares.get board.hardware).snapshot =
        (built.hardwares.get (built.boards.get target).hardware).snapshot

theorem buildBoard_hardware {other built : World} {clock : Clock} {config : BoardConfig}
    {identity : Nat} {target : Ref .board}
    (success : other.buildBoard clock config identity = (built, .ok target)) :
    built.hardwares.get (built.boards.get target).hardware =
      .initial config.pins.pinIds config.display.width config.display.height := by
  obtain ⟨rfl, rfl, -⟩ := buildBoard_ok success
  simp only [Arena.get_push_fresh]
  exact Arena.get_push_fresh other.hardwares _

theorem Ledger.destroyAll_empty (ledger : world.Ledger table known)
    (empty : world.listed table = []) (other : Ref .table) :
    (world.destroyAll other).listed table = [] := by
  by_cases own : other = table
  · rw [own]
    exact ledger.destroyAll_self.2.1
  · rw [World.listed, destroyAll_get_of_ne own]
    exact empty

theorem Stopped.counted {issued : Ref .handle → Prop} (stopped : world.Stopped board issued) :
    Stopped board issued { world with identities := world.identities + 1 } :=
  ⟨stopped.destroyed, stopped.loops, stopped.handlers, stopped.lists, stopped.snapshot⟩

structure Emptied (table : Ref .table) (known : Ref .handle → Prop) (world : World) :
    Prop where
  ledger : world.Ledger table known
  empty : world.listed table = []
  destroyed : ∀ handle, known handle → world.Destroyed handle

theorem Ledger.emptied (ledger : world.Ledger table known) :
    (world.destroyAll table).Emptied table known :=
  ⟨ledger.destroyAll_self.1, ledger.destroyAll_self.2.1, ledger.destroyAll_self.2.2⟩

theorem Emptied.destroyAll (emptied : world.Emptied table known) (other : Ref .table) :
    (world.destroyAll other).Emptied table known where
  ledger := emptied.ledger.destroyAll other
  empty := emptied.ledger.destroyAll_empty emptied.empty other
  destroyed handle given :=
    ((grows_destroyAll world other).handles handle (emptied.ledger.has handle given)).2.destroyed
      (emptied.destroyed handle given)

/-- The world that a reset leaves, but for the identity of its event: all callbacks are
destroyed and the hardware is at power-on. -/
def stopped (world : World) (board : Board) : World :=
  let world := (world.destroyAll (world.loopTable board)).destroyAll (world.handlerTable board)
  let world := world.setDispatcher board.dispatcher fun dispatcher =>
    { dispatcher with handlers := .const [] }
  world.setHardware board.hardware Hardware.reset

theorem stopped_buses (world : World) (board : Board) :
    (world.stopped board).buses = world.buses := by
  change ((world.destroyAll (world.loopTable board)).destroyAll
    (world.handlerTable board)).buses = world.buses
  rw [destroyAll_buses, destroyAll_buses]

theorem stopped_hardware (wired : world.Wired board) :
    (world.stopped board).hardwares.get board.hardware =
      (world.hardwares.get board.hardware).reset := by
  have same : ((world.destroyAll (world.loopTable board)).destroyAll
      (world.handlerTable board)).hardwares = world.hardwares := by
    rw [destroyAll_hardwares, destroyAll_hardwares]
  refine Eq.trans (Arena.get_modify_self Hardware.reset ?_) ?_
  · exact same ▸ wired.hasHardware
  · exact congrArg (fun hardwares : Arena .hardware Hardware =>
      (hardwares.get board.hardware).reset) same

theorem setHardware_twice (world : World) (target : Ref .hardware)
    (first second : Hardware → Hardware) :
    (world.setHardware target first).setHardware target second =
      world.setHardware target (second ∘ first) := by
  simp only [setHardware, Arena.modify, List.modify_modify_eq]

theorem resetDispatcher_reset {target : Ref .dispatcher} {hardware : Ref .hardware}
    (own : (world.dispatchers.get target).hardware = hardware) :
    (world.resetDispatcher target).setHardware hardware Hardware.reset =
      (world.clearHandlers target).setHardware hardware Hardware.reset := by
  simp only [resetDispatcher, clearHandlers_hardware, own, setHardware_twice]
  rfl

theorem cancelAll_handlerTable (world : World) (board : Board) :
    ((world.cancelAll board.scheduler).dispatchers.get board.dispatcher).table =
      world.handlerTable board := by
  rw [cancelAll_dispatchers]
  rfl

/-- A reset leaves the stopped world and publishes one event. -/
theorem resetBoard_eq (wired : world.Wired board) :
    world.resetBoard board.bridge =
      ({ world.stopped board with identities := (world.stopped board).identities + 1 },
        .within .announced
          (.publish board.bus (.event .reset (world.stopped board).identities))) := by
  have own : ((world.cancelAll board.scheduler).dispatchers.get board.dispatcher).hardware =
      board.hardware := by
    rw [cancelAll_dispatchers]
    exact wired.dispatcher.1
  have parts := wired.bridge
  simp only [resetBoard, congrArg Bridge.hardware parts, congrArg Bridge.bus parts,
    congrArg Bridge.scheduler parts, congrArg Bridge.dispatcher parts,
    resetDispatcher_reset own, clearHandlers, cancelAll_handlerTable]
  rfl

theorem stopped_of_empty {issued : Ref .handle → Prop} (wired : world.Wired board)
    {middle : World} (reached : (world.destroyAll (world.loopTable board)).destroyAll
      (world.handlerTable board) = middle)
    (destroyed : ∀ handle, issued handle → middle.Destroyed handle)
    (loops : (middle.tables.get (world.loopTable board)).entries = [])
    (handlers : (middle.tables.get (world.handlerTable board)).entries = []) :
    Stopped board issued (world.stopped board) := by
  have grows : Grows world middle :=
    reached ▸ (grows_destroyAll world _).trans (grows_destroyAll _ _)
  obtain ⟨hasDispatcher, dispatcher⟩ := grows.dispatchers _ wired.hasDispatcher
  obtain ⟨-, scheduler⟩ := grows.schedulers _ wired.hasScheduler
  have shape : world.stopped board =
      (middle.setDispatcher board.dispatcher fun dispatcher =>
        { dispatcher with handlers := .const [] }).setHardware board.hardware
          Hardware.reset := by
    rw [← reached]
    rfl
  have loopTable : (world.stopped board).loopTable board = world.loopTable board := by
    rw [shape]
    exact scheduler.table
  have handlerTable : (world.stopped board).handlerTable board = world.handlerTable board := by
    rw [shape]
    refine Eq.trans ?_ dispatcher.table
    exact middle.dispatchers.get_modify_field Dispatcher.table
      (fun dispatcher => { dispatcher with handlers := .const [] }) (fun _ => rfl) _ _
  constructor
  case destroyed =>
    rw [shape]
    exact destroyed
  case loops =>
    rw [loopTable, shape]
    exact loops
  case handlers =>
    rw [handlerTable, shape]
    exact handlers
  case lists =>
    rw [shape]
    exact congrArg Dispatcher.handlers (Arena.get_modify_self _ hasDispatcher)
  case snapshot =>
    intro other clock identity built target success
    rw [buildBoard_hardware success, stopped_hardware wired, Hardware.reset, wired.pinIds,
      wired.width, wired.height]

theorem stopped_of_ledgers {known other : Ref .handle → Prop} (wired : world.Wired board)
    (loops : world.Ledger (world.loopTable board) known)
    (handlers : world.Ledger (world.handlerTable board) other) :
    Stopped board (fun handle => known handle ∨ other handle) (world.stopped board) := by
  have first := loops.emptied.destroyAll (world.handlerTable board)
  have second := (handlers.destroyAll (world.loopTable board)).emptied
  exact stopped_of_empty wired rfl
    (fun handle given => given.elim (first.destroyed handle) (second.destroyed handle))
    (List.map_eq_nil_iff.mp first.empty) (List.map_eq_nil_iff.mp second.empty)

/-- Stopping a board clears its tables, whatever they had been asked to destroy. -/
theorem Filed.stopped (filed : world.Filed) (wired : world.Wired board) :
    Stopped board (fun _ => False) (world.stopped board) := by
  have later : (world.destroyAll (world.loopTable board)).Filed :=
    filed.step (show Step .everything _ _ from .handles (.destroyAll _ _))
  refine stopped_of_empty wired rfl (fun _ => False.elim) ?_ (later.destroyAll_self _)
  apply List.eq_nil_iff_forall_not_mem.mpr
  intro entry member
  have still := entries_destroyAll _ _ _ member
  rw [filed.destroyAll_self] at still
  exact absurd still List.not_mem_nil

end World

end Microboard
