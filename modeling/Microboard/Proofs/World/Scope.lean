import Microboard.World.Call

/-!
# Scopes

A scope says which objects a piece of code may act on.  `Within` says of a
method, of awaited work and of a pending operation that it stays inside a
scope; reading is never restricted.  The scope of everything restrains nobody.
-/

namespace Microboard

/-- The objects that may be acted on, and the handles that a table may be asked
to destroy one by one. -/
structure Scope where
  hardware : Ref .hardware → Prop
  bus : Ref .bus → Prop
  dispatcher : Ref .dispatcher → Prop
  bridge : Ref .bridge → Prop
  board : Ref .board → Prop
  destroys : Ref .table → Ref .handle → Prop

def Surface.Within (scope : Scope) : Surface → Prop
  | .matrix bridge => scope.bridge bridge
  | .panel _ => True

namespace Scope

/-- No restriction but on the handles that are destroyed one by one. -/
def destroying (destroys : Ref .table → Ref .handle → Prop) : Scope :=
  { hardware := fun _ => True
    bus := fun _ => True
    dispatcher := fun _ => True
    bridge := fun _ => True
    board := fun _ => True
    destroys }

abbrev everything : Scope := destroying fun _ _ => True

/-- A scope holds whatever its dispatchers, bridges and boards act on. -/
structure Closed (scope : Scope) (world : World) : Prop where
  dispatcher : ∀ target, scope.dispatcher target →
    scope.hardware (world.dispatchers.get target).hardware ∧
      scope.bus (world.dispatchers.get target).bus
  bridge : ∀ target, scope.bridge target →
    scope.hardware (world.bridges.get target).hardware ∧
      scope.bus (world.bridges.get target).bus ∧
      scope.dispatcher (world.bridges.get target).dispatcher ∧
      (world.scrollers.get (world.bridges.get target).scroller).surface.Within scope
  board : ∀ target, scope.board target →
    scope.hardware (world.boards.get target).hardware ∧
      scope.bus (world.boards.get target).bus ∧
      scope.dispatcher (world.boards.get target).dispatcher ∧
      scope.bridge (world.boards.get target).bridge

variable {destroys other : Ref .table → Ref .handle → Prop}

theorem surface_within_destroying (surface : Surface) :
    surface.Within (destroying destroys) := by
  cases surface <;> trivial

theorem destroying_closed (world : World) : (destroying destroys).Closed world where
  dispatcher _ _ := ⟨trivial, trivial⟩
  bridge _ _ := ⟨trivial, trivial, trivial, surface_within_destroying _⟩
  board _ _ := ⟨trivial, trivial, trivial, trivial⟩

end Scope

/-- The single handle that calling a method asks a table to destroy. -/
def World.destroyed? (world : World) (method : Method) (arguments : Arguments) :
    Option (Ref .table × Ref .handle) :=
  let named (table : Ref .table) : Option (Ref .table × Ref .handle) :=
    match arguments.get 0 "handle" with
    | .handle handle => some (table, handle)
    | _ => none
  match method with
  | .table target .destroy => named target
  | .scheduler target .cancel => named (world.schedulers.get target).table
  | .dispatcher target .unregister => named (world.dispatchers.get target).table
  | _ => none

def Method.Within (scope : Scope) : Method → Prop
  | .hardware target _ => scope.hardware target
  | .bus target _ => scope.bus target
  | .token target _ => scope.bus target
  | .dispatcher target _ => scope.dispatcher target
  | .bridge target _ => scope.bridge target
  | .board target _ => scope.board target
  | _ => True

/-- Calling a method stays inside a scope, and so does what it destroys. -/
structure Method.Permitted (scope : Scope) (world : World) (method : Method)
    (arguments : Arguments) : Prop where
  inside : method.Within scope
  destroys : ∀ table handle,
    world.destroyed? method arguments = some (table, handle) → scope.destroys table handle

def Value.Permitted (scope : Scope) (world : World) (target : Value)
    (arguments : Arguments) : Prop :=
  match target with
  | .method operation => operation.Permitted scope world arguments
  | .token channel _ => scope.bus channel
  | _ => True

def Work.Within (scope : Scope) (world : World) : Work → Prop
  | .showString target _ _ => scope.bridge target
  | .scroll target _ _ => (world.scrollers.get target).surface.Within scope
  | .closeBoard target => scope.board target
  | _ => True

def Frame.Within (scope : Scope) : Frame → Prop
  | .publishing bus _ _ _ => scope.bus bus
  | .clearing target _ => scope.bridge target
  | .drawing surface _ _ => surface.Within scope
  | .closingLoops target | .closingHandlers target => scope.board target
  | _ => True

/-- What an operation does next stays inside a scope.  Calls and awaited work are
judged when their turn comes.  Nobody waits for no task at all, and a new task
never announces its end to somebody who waits. -/
def Focus.Within (scope : Scope) : Focus → Prop
  | .within frame focus => frame.Within scope ∧ focus.Within scope
  | .publish bus _ => scope.bus bus
  | .start _ notice => ∀ waiter, notice ≠ .release waiter
  | .wait tasks => tasks ≠ []
  | _ => True

variable {destroys other : Ref .table → Ref .handle → Prop}

theorem Method.permitted_everything (world : World) (method : Method)
    (arguments : Arguments) : method.Permitted .everything world arguments := by
  refine ⟨?_, fun _ _ _ => trivial⟩
  cases method <;> trivial

theorem Value.permitted_everything (world : World) (target : Value)
    (arguments : Arguments) : target.Permitted .everything world arguments := by
  cases target with
  | method operation => exact operation.permitted_everything world arguments
  | _ => trivial

theorem Work.within_destroying (world : World) (work : Work) :
    work.Within (.destroying destroys) world := by
  cases work with
  | scroll target text interval => exact Scope.surface_within_destroying _
  | _ => trivial

theorem Frame.within_destroying (frame : Frame) : frame.Within (.destroying destroys) := by
  cases frame with
  | drawing surface interval rest => exact Scope.surface_within_destroying surface
  | _ => trivial

theorem Focus.within_destroying {focus : Focus} (inside : focus.Within (.destroying destroys)) :
    focus.Within (.destroying other) := by
  induction focus with
  | within frame focus induction => exact ⟨frame.within_destroying, induction inside.2⟩
  | publish | start | wait => exact inside
  | _ => trivial

end Microboard
