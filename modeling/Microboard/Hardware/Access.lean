import Microboard.Value.Coercion

/-!
# Checked access to hardware

Reading and writing hardware with values as scripts give them. A pin is checked
before its new level; both coordinates are taken as whole numbers before they are
compared with the size of the matrix.
-/

namespace Microboard

def orFault {α : Type} : Except Complaint α → Except Fault α
  | .ok value => .ok value
  | .error cause => .error (.complaint cause)

/-- The button that a value means: a button, or a text that names one. -/
def Value.toButton (value : Value) : Except Fault Button :=
  match value with
  | .button known => .ok known
  | other =>
    match Button.ofName? other.plain with
    | some known => .ok known
    | Option.none => .error (.complaint (.unknownButton other.plain))

namespace Hardware

/-- The pin that a value names, if the board has it. -/
def checkPin (hardware : Hardware) (pin : Value) : Except Fault String :=
  match pin.word? with
  | some name =>
    if (hardware.levels? name).isSome then .ok name else .error (.invalidPin pin [])
  | none => .error (.invalidPin pin [])

def checkLed (hardware : Hardware) (x y : Value) : Except Fault (Nat × Nat) := do
  let x ← orFault x.index
  let y ← orFault y.index
  if hardware.inMatrix x y then .ok (x.toNat, y.toNat)
  else .error (.outOfRange (.int x) (.int y) hardware.width hardware.height [])

def setLevel (hardware : Hardware) (kind : PinKind) (pin level : Value) :
    Except Fault Hardware := do
  let name ← hardware.checkPin pin
  let level ← orFault level.index
  return hardware.writePin name kind level

def getLevel (hardware : Hardware) (kind : PinKind) (pin : Value) : Except Fault Int := do
  let name ← hardware.checkPin pin
  return ((hardware.levels? name).getD .zero).get kind

def setLed (hardware : Hardware) (x y lit : Value) : Except Fault Hardware := do
  let cell ← hardware.checkLed x y
  return hardware.writeLed cell.1 cell.2 lit.truthy

def getLed (hardware : Hardware) (x y : Value) : Except Fault Bool := do
  let cell ← hardware.checkLed x y
  return (hardware.led? cell.1 cell.2).getD false

def setButton (hardware : Hardware) (button pressed : Value) : Except Fault Hardware := do
  let button ← button.toButton
  return hardware.writeLatch button pressed.truthy

def getButton (hardware : Hardware) (button : Value) : Except Fault Bool := do
  let button ← button.toButton
  return hardware.latch button

end Hardware

end Microboard
