/-!
# References

The objects of a simulation live in a store; scripts hold references to them. A
reference says what kind of object it points to.
-/

namespace Microboard

inductive Component where
  | hardware
  | bus
  | table
  | handle
  | scheduler
  | dispatcher
  | bridge
  | scroller
  | board
  | registry
  | keeper
deriving DecidableEq, Repr

structure Ref (component : Component) where
  index : Nat
deriving DecidableEq, Repr, Inhabited

/-- A task: a computation that runs in turns with others. -/
structure TaskId where
  index : Nat
deriving DecidableEq, Repr, Inhabited

/-- What tells the time: the simulated clock, which moves only when it is told to,
or the wall clock. -/
inductive Clock where
  | simulated
  | wall
deriving DecidableEq, Repr, Inhabited

end Microboard
