/-!
# Pins

A pin carries a digital and an analog level; a change names which of them moved.
-/

namespace Microboard

/-- The level of a pin that a change refers to. -/
inductive PinKind where
  | digital
  | analog
deriving DecidableEq, Repr, Inhabited

namespace PinKind

def all : List PinKind := [.digital, .analog]

def name : PinKind → String
  | .digital => "digital"
  | .analog => "analog"

/-- The constant that names a kind. -/
def label : PinKind → String
  | .digital => "DIGITAL"
  | .analog => "ANALOG"

def ofName? (name : String) : Option PinKind :=
  all.find? fun kind => kind.name = name

end PinKind

structure PinLevels where
  digital : Int
  analog : Int
deriving DecidableEq, Repr

instance : Inhabited PinLevels := ⟨⟨0, 0⟩⟩

namespace PinLevels

def zero : PinLevels := ⟨0, 0⟩

def get (levels : PinLevels) : PinKind → Int
  | .digital => levels.digital
  | .analog => levels.analog

def set (levels : PinLevels) (kind : PinKind) (level : Int) : PinLevels :=
  match kind with
  | .digital => { levels with digital := level }
  | .analog => { levels with analog := level }

end PinLevels

end Microboard
