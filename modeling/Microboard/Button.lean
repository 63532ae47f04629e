/-!
# Buttons

The two push-buttons of a board and the latches that remember their presses.
-/

namespace Microboard

inductive Button where
  | a
  | b
deriving DecidableEq, Repr, Inhabited

namespace Button

/-- Both buttons, the left one first. -/
def all : List Button := [.a, .b]

theorem mem_all (button : Button) : button ∈ all := by
  cases button <;> simp [all]

def name : Button → String
  | .a => "A"
  | .b => "B"

def ofName? (name : String) : Option Button :=
  all.find? fun button => button.name = name

end Button

/-- One value for each button. -/
structure PerButton (α : Type) where
  a : α
  b : α
deriving DecidableEq, Repr, Inhabited

namespace PerButton

variable {α β : Type}

def const (value : α) : PerButton α := ⟨value, value⟩

def get (values : PerButton α) : Button → α
  | .a => values.a
  | .b => values.b

def set (values : PerButton α) (button : Button) (value : α) : PerButton α :=
  match button with
  | .a => { values with a := value }
  | .b => { values with b := value }

def map (f : α → β) (values : PerButton α) : PerButton β :=
  ⟨f values.a, f values.b⟩

@[simp] theorem get_const (value : α) (button : Button) :
    (const value).get button = value := by
  cases button <;> rfl

@[simp] theorem get_set_self (values : PerButton α) (button : Button) (value : α) :
    (values.set button value).get button = value := by
  cases button <;> rfl

theorem get_set_of_ne (values : PerButton α) {button other : Button} (value : α)
    (different : other ≠ button) :
    (values.set button value).get other = values.get other := by
  cases button <;> cases other <;> first | rfl | exact absurd rfl different

@[simp] theorem get_map (f : α → β) (values : PerButton α) (button : Button) :
    (values.map f).get button = f (values.get button) := by
  cases button <;> rfl

end PerButton

end Microboard
