import Microboard.Parts

/-!
# Worlds

Everything there is at one moment of a simulation: the objects, the cache of
configurations, the time, and the trace of what was observed, newest first.
-/

namespace Microboard

/-- The objects and the history of a simulation. `looping` says whether tasks can be
started; identities tell records apart. -/
structure World where
  hardwares : Arena .hardware Hardware
  buses : Arena .bus Bus
  tables : Arena .table HandleTable
  handles : Arena .handle Handle
  schedulers : Arena .scheduler Scheduler
  dispatchers : Arena .dispatcher Dispatcher
  bridges : Arena .bridge Bridge
  scrollers : Arena .scroller Scroller
  boards : Arena .board Board
  registries : Arena .registry Registry
  keepers : Arena .keeper Keeper
  configs : List (String × BoardConfig × Nat)
  identities : Nat
  looping : Bool
  now : Float
  trace : List Entry
deriving Inhabited

namespace World

def sharedRegistry : Ref .registry := ⟨0⟩

def initial (looping : Bool) (registry : Registry) : World :=
  { hardwares := .empty, buses := .empty, tables := .empty, handles := .empty
    schedulers := .empty, dispatchers := .empty, bridges := .empty, scrollers := .empty
    boards := .empty, registries := ⟨[registry]⟩, keepers := .empty
    configs := [], identities := 0, looping, now := 0.0, trace := [] }

def observe (world : World) (entry : Entry) : World :=
  { world with trace := entry :: world.trace }

def log (world : World) (level : Level) (logger : Logger) (message : String) : World :=
  world.observe (.log level logger message)

/-- Uses up an identity. -/
def withFresh (world : World) (record : Nat → Value) : World × Value :=
  ({ world with identities := world.identities + 1 }, record world.identities)

def setHardware (world : World) (target : Ref .hardware) (change : Hardware → Hardware) :
    World :=
  { world with hardwares := world.hardwares.modify target change }

def setBus (world : World) (target : Ref .bus) (change : Bus → Bus) : World :=
  { world with buses := world.buses.modify target change }

def setTable (world : World) (target : Ref .table) (change : HandleTable → HandleTable) :
    World :=
  { world with tables := world.tables.modify target change }

def setHandle (world : World) (target : Ref .handle) (change : Handle → Handle) : World :=
  { world with handles := world.handles.modify target change }

def setScheduler (world : World) (target : Ref .scheduler)
    (change : Scheduler → Scheduler) : World :=
  { world with schedulers := world.schedulers.modify target change }

def setDispatcher (world : World) (target : Ref .dispatcher)
    (change : Dispatcher → Dispatcher) : World :=
  { world with dispatchers := world.dispatchers.modify target change }

def setRegistry (world : World) (target : Ref .registry) (change : Registry → Registry) :
    World :=
  { world with registries := world.registries.modify target change }

def setKeeper (world : World) (target : Ref .keeper) (change : Keeper → Keeper) : World :=
  { world with keepers := world.keepers.modify target change }

def newTable (world : World) : World × Ref .table :=
  ({ world with tables := world.tables.push .initial }, world.tables.fresh)

def newBus (world : World) : World × Ref .bus :=
  ({ world with buses := world.buses.push .initial }, world.buses.fresh)

def newHardware (world : World) (hardware : Hardware) : World × Ref .hardware :=
  ({ world with hardwares := world.hardwares.push hardware }, world.hardwares.fresh)

def newScheduler (world : World) (clock : Clock) (interval : Value) :
    World × Ref .scheduler :=
  let (world, table) := world.newTable
  ({ world with schedulers := world.schedulers.push ⟨clock, interval, table, []⟩ },
    world.schedulers.fresh)

def newDispatcher (world : World) (hardware : Ref .hardware) (bus : Ref .bus) :
    World × Ref .dispatcher :=
  let (world, table) := world.newTable
  ({ world with
      dispatchers := world.dispatchers.push ⟨hardware, bus, table, .const [], []⟩ },
    world.dispatchers.fresh)

def newScroller (world : World) (scroller : Scroller) : World × Ref .scroller :=
  ({ world with scrollers := world.scrollers.push scroller }, world.scrollers.fresh)

def newBridge (world : World) (hardware : Ref .hardware) (bus : Ref .bus) (clock : Clock)
    (scheduler : Ref .scheduler) (dispatcher : Ref .dispatcher) (scrollInterval : Value) :
    World × Ref .bridge :=
  let size := world.hardwares.get hardware
  let bridge := world.bridges.fresh
  let (world, scroller) := world.newScroller
    ⟨.matrix bridge, clock, size.width, size.height, Glyph.font⟩
  ({ world with
      bridges := world.bridges.push
        ⟨hardware, bus, clock, scheduler, dispatcher, scrollInterval, scroller⟩ },
    bridge)

def newKeeper (world : World) (className : String) (arguments : List (String × Value)) :
    World × Ref .keeper :=
  ({ world with keepers := world.keepers.push ⟨className, arguments, false⟩ },
    world.keepers.fresh)

def newRegistry (world : World) : World × Ref .registry :=
  ({ world with registries := world.registries.push .empty }, world.registries.fresh)

end World

end Microboard
