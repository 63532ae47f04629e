import Microboard.Proofs.World.Recording

/-!
# What lasts

A relation of worlds that handles may come to, fail and go without breaking it, and that
does not look at the tasks either.  Only two things are left that can break it: a handler
that is registered, and a subscriber that fails.  No call but the publication of an event
leads to a subscriber.
-/

namespace Microboard

/-- The handler that calling a method registers: with whom, for which button, and what. -/
def Method.registers? (world : World) (arguments : Arguments) :
    Method → Option (Ref .dispatcher × Value × Value)
  | .dispatcher target .register =>
    some (target, arguments.get 0 "button", arguments.get 1 "handler")
  | .bridge target .onButtonPressed =>
    some ((world.bridges.get target).dispatcher, arguments.get 0 "button",
      arguments.get 1 "handler")
  | _ => none

def Value.registers? (world : World) (arguments : Arguments) :
    Value → Option (Ref .dispatcher × Value × Value)
  | .method operation => operation.registers? world arguments
  | _ => Option.none

namespace World

/-- A stable relation that new handles, failures of handles and tasks do not break. -/
structure Lasting (keeps : World → World → Prop) : Prop extends Stable keeps where
  create : ∀ world table callback kind,
    keeps world (createHandle world table callback kind).1
  storeFailure : ∀ world target cause, keeps world (storeFailure world target cause).1
  blame : ∀ world failure, keeps world (blame world failure)
  setTasks : ∀ (world : World) target (tasks : Scheduler → List (Nat × TaskId)),
    keeps world
      (world.setScheduler target fun scheduler => { scheduler with tasks := tasks scheduler })
  setBackground : ∀ (world : World) target (background : Dispatcher → List TaskId),
    keeps world
      (world.setDispatcher target fun dispatcher =>
        { dispatcher with background := background dispatcher })

theorem lasting_anything : Lasting fun _ _ => True where
  refl _ := trivial
  trans _ _ := trivial
  same _ _ _ _ := trivial
  observe _ _ _ := trivial
  activate _ _ := trivial
  destroy _ _ := trivial
  dropHandlers _ _ _ _ := trivial
  newScheduler _ _ _ := trivial
  newDispatcher _ _ _ := trivial
  create _ _ _ _ := trivial
  storeFailure _ _ _ := trivial
  blame _ _ := trivial
  setTasks _ _ _ := trivial
  setBackground _ _ _ := trivial

/-- The relation is kept, and no subscriber is about to be called. -/
structure Lasts (keeps : World → World → Prop) (world : World) (next : World × Focus) :
    Prop where
  keeps : keeps world next.1
  silent : next.2.delivers = false

variable {keeps : World → World → Prop} {world : World}

theorem Leaves.lasts {next : World × Focus}
    (leaves : Leaves keeps (fun _ => True) world next) : Lasts keeps world next :=
  ⟨leaves.keeps, leaves.silent⟩

section Calls

variable (lasting : Lasting keeps)
include lasting

theorem Lasting.reply (reply : Reply) : Lasts keeps world (world, .reply reply) :=
  ⟨lasting.refl world, rfl⟩

theorem startLoop_lasts (target : Ref .scheduler) (callback : Value) :
    Lasts keeps world (world.startLoop target callback) := by
  have created := lasting.create world (world.schedulers.get target).table callback "forever"
  unfold startLoop
  split
  · exact lasting.reply _
  · split
    next result =>
      rw [result] at created
      exact ⟨created, rfl⟩
    next result =>
      rw [result] at created
      exact ⟨lasting.trans created (lasting.activate _ _), rfl⟩

theorem create_lasts (target : Ref .table) (arguments : Arguments) :
    Lasts keeps world (world.callTable target .create arguments) := by
  have created := lasting.create world target (arguments.get 0 "callback")
    (arguments.get 1 "kind").plain
  unfold callTable
  simp only
  split
  next result =>
    rw [result] at created
    exact ⟨created, rfl⟩
  next result =>
    rw [result] at created
    exact ⟨created, rfl⟩

omit lasting in
theorem registerHandler_silent (target : Ref .dispatcher) (button handler : Value) :
    (world.registerHandler target button handler).2.delivers = false := by
  rcases registerHandler_cases world target button handler with
    ⟨fault, failed⟩ | ⟨kind, new, -, -, registered⟩
  · rw [failed]
    rfl
  · rw [registered]
    rfl

theorem keeps_registerHandler
    (setHandlers : ∀ (world : World) target
      (handlers : Dispatcher → PerButton (List (Ref .handle))),
      keeps world (world.setDispatcher target fun dispatcher =>
        { dispatcher with handlers := handlers dispatcher }))
    (target : Ref .dispatcher) (button handler : Value) :
    keeps world (world.registerHandler target button handler).1 := by
  unfold registerHandler
  split
  · exact lasting.refl world
  next known _ =>
    have created := lasting.create world (world.dispatchers.get target).table handler
      ("button " ++ known.name)
    simp only
    split
    next result =>
      rw [result] at created
      exact created
    next made handle result =>
      rw [result] at created
      have active : keeps made (made.activate handle) := lasting.activate made handle
      exact lasting.trans created (lasting.trans active (setHandlers _ _ _))

/-- A method that is called keeps the relation, if a handler that it registers does. -/
theorem callMethod_lasts {method : Method} {arguments : Arguments}
    (registered : ∀ target button handler,
      method.registers? world arguments = some (target, button, handler) →
      keeps world (world.registerHandler target button handler).1) :
    Lasts keeps world (world.callMethod method arguments) := by
  cases recorded : method.recorded? with
  | some target =>
      obtain rfl := Method.recorded?_eq_some recorded
      simp only [callMethod]
      rcases recordFailure_cases world target arguments with ⟨fault, -, same⟩ | ⟨-, same⟩
      · exact same ▸ ⟨lasting.refl world, rfl⟩
      · exact same ▸ ⟨lasting.storeFailure _ _ _, rfl⟩
  | none =>
      cases listed : world.lists? method with
      | none =>
          exact (callMethod_leaves lasting.toStable listed recorded).lasts
      | some table =>
          cases Lists.of_lists? listed with
          | create target => exact create_lasts lasting _ _
          | register | forever => exact startLoop_lasts lasting _ _
          | handle | onButtonPressed =>
              exact ⟨registered _ _ _ rfl, registerHandler_silent _ _ _⟩

theorem callValue_lasts {target : Value} {arguments : Arguments}
    (registered : ∀ dispatcher button handler,
      target.registers? world arguments = some (dispatcher, button, handler) →
      keeps world (world.registerHandler dispatcher button handler).1) :
    Lasts keeps world (world.callValue target arguments) := by
  cases target with
  | method method => exact callMethod_lasts lasting registered
  | _ =>
      refine (callValue_leaves lasting.toStable ?_).lasts
      intro method same
      cases same

end Calls

theorem Lasting.blamed (lasting : Lasting keeps) (world : World) (failure : Option Failure) :
    keeps world (world.blamed failure) := by
  cases failure with
  | none => exact lasting.refl world
  | some failure => exact lasting.blame world failure

theorem begin_lasts (lasting : Lasting keeps) (work : Work) :
    Lasts keeps world (world.begin work) :=
  (begin_leaves lasting.toStable work).lasts

/-- An operation that goes on keeps the relation, unless it calls subscribers. -/
theorem resume_lasts (lasting : Lasting keeps) {frame : Frame}
    (quiet : frame.isPublishing = false) (reply : Reply) :
    Lasts keeps world (world.resume frame reply) := by
  have leaves := resume_leaves lasting.gentle (fun handle (_ : world.handles.Has handle) => trivial)
    (Frame.blames_all (fun _ => trivial) frame) quiet reply
  exact ⟨lasting.trans (lasting.blamed world _) leaves.keeps, leaves.silent⟩

end World

end Microboard
