import Microboard.Value.Text

/-!
# Board registries

Classes of boards under names. A name is bound once and never bound again.
-/

namespace Microboard

/-- Named classes in the order of their registration. -/
structure Registry where
  entries : List (String × ClassName)
deriving DecidableEq, Repr, Inhabited

namespace Registry

def empty : Registry := ⟨[]⟩

def standard : Registry := ⟨[("microbit", .board)]⟩

def find? (registry : Registry) (name : String) : Option ClassName :=
  registry.entries.lookup name

def names (registry : Registry) : List String :=
  (registry.entries.map (·.1)).mergeSort fun left right => decide (left ≤ right)

/-- Binds a name to a class, unless it is bound. -/
def register (registry : Registry) (name : String) (value : Value) :
    Except Complaint (Registry × ClassName) :=
  match value with
  | .type className =>
    match registry.find? name with
    | some owner => .error (.boardNameTaken name owner.name)
    | none => .ok (⟨registry.entries ++ [(name, className)]⟩, className)
  | other => .error (.notAClass name (other.repr Value.bareText))

/-- The class with a name, or a complaint that lists the names there are. -/
def boardClass (registry : Registry) (name : String) : Except Complaint ClassName :=
  match registry.find? name with
  | some className => .ok className
  | none => .error (.unknownBoard name registry.names)

/-- Nothing when every required name is bound and there is a name at all. -/
def verify (registry : Registry) (required : List String) : Option Complaint :=
  let missing := required.filter fun name => (registry.find? name).isNone
  if !missing.isEmpty then some (.boardsMissing missing)
  else if registry.entries.isEmpty then some .noBoards
  else none

end Registry

end Microboard
