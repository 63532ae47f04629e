import Microboard.Value

/-!
# Callback handles

A handle owns one callback of a script until it is destroyed. Tables list the live
handles of one owner under numbers that start at one and are never used again.
-/

namespace Microboard

/-- A callback with its lifecycle and its failures. A destroyed handle has no
callback any more. -/
structure Handle where
  id : Nat
  kind : String
  callback : Option Value
  stage : Lifecycle
  failures : Nat
  lastFailure : Value
deriving Inhabited

namespace Handle

def registered (id : Nat) (kind : String) (callback : Value) : Handle :=
  ⟨id, kind, some callback, .registered, 0, .none⟩

def isActive (handle : Handle) : Bool :=
  handle.stage = .active

def isDestroyed (handle : Handle) : Bool :=
  handle.stage = .destroyed

/-- Lets the handle take part; nothing for a destroyed one. -/
def activate? (handle : Handle) : Option Handle :=
  if handle.isDestroyed then none else some { handle with stage := .active }

def destroy (handle : Handle) : Handle :=
  { handle with stage := .destroyed, callback := none }

def recordFailure (handle : Handle) (failure : Value) : Handle :=
  { handle with failures := handle.failures + 1, lastFailure := failure }

def text (handle : Handle) : String :=
  "CallbackHandle(id=" ++ toString handle.id ++ ", kind=" ++ Text.quoted handle.kind ++
    ", state=" ++ handle.stage.name ++ ")"

end Handle

/-- The live handles of one owner in the order of their creation, and the number of
the next one. -/
structure HandleTable where
  entries : List (Nat × Ref .handle)
  next : Nat
deriving DecidableEq, Repr, Inhabited

namespace HandleTable

def initial : HandleTable := ⟨[], 1⟩

def find? (table : HandleTable) (id : Nat) : Option (Ref .handle) :=
  table.entries.lookup id

def insert (table : HandleTable) (target : Ref .handle) : HandleTable :=
  ⟨table.entries ++ [(table.next, target)], table.next + 1⟩

def erase (table : HandleTable) (id : Nat) : HandleTable :=
  { table with entries := table.entries.filter fun entry => entry.1 ≠ id }

def handles (table : HandleTable) : List (Ref .handle) :=
  table.entries.map (·.2)

theorem handles_insert (table : HandleTable) (target : Ref .handle) :
    (table.insert target).handles = table.handles ++ [target] := by
  simp [handles, insert]

theorem entries_erase (table : HandleTable) (id : Nat) :
    (table.erase id).entries = table.entries.filter fun entry => entry.1 ≠ id := rfl

end HandleTable

end Microboard
