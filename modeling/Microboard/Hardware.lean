import Microboard.Button
import Microboard.Pin

/-!
# Hardware

The canonical state of one board: the levels of its pins, the cells of its LED
matrix and the latches of its buttons. The state only stores; it tells nobody of
a change.
-/

namespace Microboard

/-- A copy of all hardware state at one moment; `leds` is indexed by column, then
by row. -/
structure Snapshot where
  pins : List (String × PinLevels)
  leds : List (List Bool)
  buttons : PerButton Bool
deriving DecidableEq, Repr

/-- Pins, LED matrix and button latches of one board. `pinIds` is the list the
hardware was built from, repetitions included. -/
structure Hardware where
  pinIds : List String
  width : Int
  height : Int
  pins : List (String × PinLevels)
  leds : List (List Bool)
  buttons : PerButton Bool
deriving DecidableEq, Repr

instance : Inhabited Hardware := ⟨⟨[], 0, 0, [], [], .const false⟩⟩

/-- The distinct members of a list in the order of their first occurrence. -/
def distinct (names : List String) : List String :=
  names.foldl (fun seen name => if name ∈ seen then seen else seen ++ [name]) []

namespace Hardware

def darkLeds (width height : Int) : List (List Bool) :=
  List.replicate width.toNat (List.replicate height.toNat false)

def zeroPins (pinIds : List String) : List (String × PinLevels) :=
  (distinct pinIds).map fun pin => (pin, .zero)

def initial (pinIds : List String) (width height : Int) : Hardware :=
  { pinIds, width, height
    pins := zeroPins pinIds
    leds := darkLeds width height
    buttons := .const false }

def clearLeds (hardware : Hardware) : Hardware :=
  { hardware with leds := darkLeds hardware.width hardware.height }

def reset (hardware : Hardware) : Hardware :=
  initial hardware.pinIds hardware.width hardware.height

def levels? (hardware : Hardware) (pin : String) : Option PinLevels :=
  hardware.pins.lookup pin

def writePin (hardware : Hardware) (pin : String) (kind : PinKind) (level : Int) :
    Hardware :=
  { hardware with
    pins := hardware.pins.map fun entry =>
      if entry.1 = pin then (entry.1, entry.2.set kind level) else entry }

def inMatrix (hardware : Hardware) (x y : Int) : Bool :=
  0 ≤ x && x < hardware.width && 0 ≤ y && y < hardware.height

def led? (hardware : Hardware) (x y : Nat) : Option Bool :=
  (hardware.leds[x]?).bind fun column => column[y]?

def writeLed (hardware : Hardware) (x y : Nat) (lit : Bool) : Hardware :=
  { hardware with leds := hardware.leds.modify x fun column => column.set y lit }

def writeLatch (hardware : Hardware) (button : Button) (pressed : Bool) : Hardware :=
  { hardware with buttons := hardware.buttons.set button pressed }

def latch (hardware : Hardware) (button : Button) : Bool :=
  hardware.buttons.get button

def snapshot (hardware : Hardware) : Snapshot :=
  ⟨hardware.pins, hardware.leds, hardware.buttons⟩

end Hardware

end Microboard
