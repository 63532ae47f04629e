import Microboard.Arena
import Microboard.Bus
import Microboard.Glyph.Font
import Microboard.Handle
import Microboard.Registry
import Microboard.Trace

/-!
# Parts of a board

The objects that a board is put together from, each holding references to those it
works with.
-/

namespace Microboard

/-- Runs one loop for each callback. A task is listed under the number of its handle
until it has ended. -/
structure Scheduler where
  clock : Clock
  interval : Value
  table : Ref .table
  tasks : List (Nat × TaskId)
deriving Inhabited

/-- Latches presses and calls the handlers of a button in the order in which they
were registered. Handlers that await something run on as background tasks. -/
structure Dispatcher where
  hardware : Ref .hardware
  bus : Ref .bus
  table : Ref .table
  handlers : PerButton (List (Ref .handle))
  background : List TaskId
deriving Inhabited

structure Bridge where
  hardware : Ref .hardware
  bus : Ref .bus
  clock : Clock
  scheduler : Ref .scheduler
  dispatcher : Ref .dispatcher
  scrollInterval : Value
  scroller : Ref .scroller
deriving Inhabited

/-- What a scrolling text is drawn on: the matrix of a board, or a panel that only
tells what is done to it. -/
inductive Surface where
  | matrix (bridge : Ref .bridge)
  | panel (label : String)
deriving DecidableEq, Repr, Inhabited

structure Scroller where
  surface : Surface
  clock : Clock
  width : Int
  height : Int
  glyphs : GlyphMap
deriving Inhabited

/-- A board and its parts. The identity is that of its configuration. -/
structure Board where
  config : BoardConfig
  identity : Nat
  clock : Clock
  hardware : Ref .hardware
  bus : Ref .bus
  scheduler : Ref .scheduler
  dispatcher : Ref .dispatcher
  bridge : Ref .bridge
deriving Inhabited

/-- A stand-in for a board: it remembers what it was built with, and whether it has
been closed. -/
structure Keeper where
  className : String
  arguments : List (String × Value)
  closed : Bool
deriving Inhabited

end Microboard
