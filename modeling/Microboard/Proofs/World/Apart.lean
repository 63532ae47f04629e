import Microboard.Proofs.World.Sound

/-!
# Keeping apart from a board

Code that keeps apart from hardware may do everything but act on it, through whatever
dispatcher, bridge or board there is, and it may publish on the buses that it is
allowed.
-/

namespace Microboard

variable {scope other : Scope}

/-- A scope allows no more than another one. -/
structure Scope.Narrower (scope other : Scope) : Prop where
  hardware : ∀ target, scope.hardware target → other.hardware target
  bus : ∀ target, scope.bus target → other.bus target
  dispatcher : ∀ target, scope.dispatcher target → other.dispatcher target
  bridge : ∀ target, scope.bridge target → other.bridge target
  board : ∀ target, scope.board target → other.board target

theorem Surface.Within.widen {surface : Surface} (inside : surface.Within scope)
    (narrower : scope.Narrower other) : surface.Within other := by
  cases surface with
  | matrix bridge => exact narrower.bridge bridge inside
  | panel label => trivial

theorem Frame.Within.widen {frame : Frame} (inside : frame.Within scope)
    (narrower : scope.Narrower other) : frame.Within other := by
  cases frame with
  | publishing bus event current rest => exact narrower.bus bus inside
  | clearing bridge rest => exact narrower.bridge bridge inside
  | drawing surface interval rest => exact Surface.Within.widen inside narrower
  | closingLoops board | closingHandlers board => exact narrower.board board inside
  | _ => trivial

theorem Focus.Within.widen {focus : Focus} (inside : focus.Within scope)
    (narrower : scope.Narrower other) : focus.Within other := by
  induction focus with
  | within frame focus induction =>
      exact ⟨Frame.Within.widen inside.1 narrower, induction inside.2⟩
  | publish bus event => exact narrower.bus bus inside
  | start | wait => exact inside
  | _ => trivial

namespace World

variable {hardware : Ref .hardware} {channels : Ref .bus → Prop} {world old new : World}

/-- The dispatcher keeps apart from hardware. -/
structure DispatcherApart (world : World) (hardware : Ref .hardware)
    (channels : Ref .bus → Prop) (target : Ref .dispatcher) : Prop where
  has : world.dispatchers.Has target
  differs : (world.dispatchers.get target).hardware ≠ hardware
  bus : channels (world.dispatchers.get target).bus

structure BridgeApart (world : World) (hardware : Ref .hardware) (channels : Ref .bus → Prop)
    (target : Ref .bridge) : Prop where
  has : world.bridges.Has target
  differs : (world.bridges.get target).hardware ≠ hardware
  bus : channels (world.bridges.get target).bus
  dispatcher : world.DispatcherApart hardware channels (world.bridges.get target).dispatcher

structure BoardApart (world : World) (hardware : Ref .hardware) (channels : Ref .bus → Prop)
    (target : Ref .board) : Prop where
  has : world.boards.Has target
  differs : (world.boards.get target).hardware ≠ hardware
  bus : channels (world.boards.get target).bus
  dispatcher : world.DispatcherApart hardware channels (world.boards.get target).dispatcher
  bridge : world.BridgeApart hardware channels (world.boards.get target).bridge

/-- Everything but some hardware, and only some buses. -/
def apart (world : World) (hardware : Ref .hardware) (channels : Ref .bus → Prop) : Scope :=
  { hardware := fun target => target ≠ hardware
    bus := channels
    dispatcher := world.DispatcherApart hardware channels
    bridge := world.BridgeApart hardware channels
    board := world.BoardApart hardware channels
    destroys := fun _ _ => True }

theorem apart_closed (sound : world.Sound) : (world.apart hardware channels).Closed world where
  dispatcher _ inside := ⟨inside.differs, inside.bus⟩
  bridge target inside := by
    refine ⟨inside.differs, inside.bus, inside.dispatcher, ?_⟩
    rw [(sound.surface target inside.has).2]
    exact inside
  board _ inside := ⟨inside.differs, inside.bus, inside.dispatcher, inside.bridge⟩

theorem DispatcherApart.grows {target : Ref .dispatcher}
    (inside : old.DispatcherApart hardware channels target) (grows : Grows old new) :
    new.DispatcherApart hardware channels target := by
  obtain ⟨has, succeeds⟩ := grows.dispatchers target inside.has
  exact ⟨has, succeeds.hardware ▸ inside.differs, succeeds.bus ▸ inside.bus⟩

theorem BridgeApart.grows {target : Ref .bridge}
    (inside : old.BridgeApart hardware channels target) (grows : Grows old new) :
    new.BridgeApart hardware channels target := by
  obtain ⟨has, same⟩ := grows.bridges target inside.has
  exact ⟨has, same ▸ inside.differs, same ▸ inside.bus, same ▸ inside.dispatcher.grows grows⟩

theorem BoardApart.grows {target : Ref .board}
    (inside : old.BoardApart hardware channels target) (grows : Grows old new) :
    new.BoardApart hardware channels target := by
  obtain ⟨has, same⟩ := grows.boards target inside.has
  exact ⟨has, same ▸ inside.differs, same ▸ inside.bus, same ▸ inside.dispatcher.grows grows,
    same ▸ inside.bridge.grows grows⟩

theorem apart_grows (grows : Grows old new) :
    (old.apart hardware channels).Narrower (new.apart hardware channels) where
  hardware _ inside := inside
  bus _ inside := inside
  dispatcher _ inside := inside.grows grows
  bridge _ inside := inside.grows grows
  board _ inside := inside.grows grows

theorem Steps.hardware_apart (steps : Steps (old.apart hardware channels) old new)
    (has : old.hardwares.Has hardware) :
    new.hardwares.get hardware = old.hardwares.get hardware :=
  steps.hardware_outside has fun inside => inside rfl

end World

end Microboard
