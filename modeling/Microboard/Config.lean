/-!
# Board configurations

The description a board is built from.
-/

namespace Microboard

/-- A number as a script or a document gives it. -/
inductive Number where
  | whole (value : Int)
  | real (value : Float)
deriving Inhabited

/-- How many pins there are; pin `i` is called `stem` followed by `i`. -/
structure PinsConfig where
  stem : String
  count : Int
deriving DecidableEq, Repr, Inhabited

def PinsConfig.pinIds (pins : PinsConfig) : List String :=
  (List.range pins.count.toNat).map fun i => pins.stem ++ toString i

structure DisplayConfig where
  width : Int
  height : Int
deriving DecidableEq, Repr, Inhabited

/-- The delays between the iterations of a loop and between scrolled frames, in
milliseconds. -/
structure TimingConfig where
  forever : Number
  scroll : Number
deriving Inhabited

def TimingConfig.standard : TimingConfig :=
  ⟨.whole 20, .whole 150⟩

structure BoardConfig where
  boardName : String
  pins : PinsConfig
  display : DisplayConfig
  buttons : List String
  timing : TimingConfig
deriving Inhabited

end Microboard
