import Microboard.Value

/-!
# Event buses

Who is subscribed to the events of a board. A subscription is known by its number;
numbers start at one and are never used again.
-/

namespace Microboard

/-- The subscribers of a bus in the order of their numbers, and the number of the
next subscription. -/
structure Bus where
  subscribers : List (Nat × Value)
  next : Nat
deriving Inhabited

namespace Bus

def initial : Bus := ⟨[], 1⟩

def subscribe (bus : Bus) (subscriber : Value) : Bus :=
  ⟨bus.subscribers ++ [(bus.next, subscriber)], bus.next + 1⟩

/-- Drops the subscription with a number, if there is one. -/
def unsubscribe (bus : Bus) (id : Nat) : Bus :=
  { bus with subscribers := bus.subscribers.filter fun entry => entry.1 ≠ id }

def isSubscribed (bus : Bus) (id : Nat) : Bool :=
  bus.subscribers.any fun entry => entry.1 == id

def clear (bus : Bus) : Bus :=
  { bus with subscribers := [] }

def ids (bus : Bus) : List Nat :=
  bus.subscribers.map (·.1)

theorem ids_subscribe (bus : Bus) (subscriber : Value) :
    (bus.subscribe subscriber).ids = bus.ids ++ [bus.next] := by
  simp [ids, subscribe]

theorem ids_unsubscribe (bus : Bus) (id : Nat) :
    (bus.unsubscribe id).ids = bus.ids.filter (· ≠ id) := by
  simp [ids, unsubscribe, List.filter_map, Function.comp_def]

theorem ids_clear (bus : Bus) : bus.clear.ids = [] := rfl

theorem isSubscribed_iff {bus : Bus} {id : Nat} :
    bus.isSubscribed id = true ↔ id ∈ bus.ids := by
  simp only [isSubscribed, ids, List.any_eq_true, List.mem_map, beq_iff_eq]

end Bus

end Microboard
