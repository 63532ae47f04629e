import Microboard.Proofs.World.Leaves

/-!
# Errands

The tasks that schedulers and dispatchers keep lists of, and the number of handles
there are.  An operation changes neither, but for the few that list a new callback;
tasks come and go only with the turns of the machine.
-/

namespace Microboard

namespace Arena

variable {component : Component} {α β : Type} [Inhabited α]

theorem get_push_field (arena : Arena component α) (field : α → β) {item : α}
    (plain : field item = field default) (target : Ref component) :
    field ((arena.push item).get target) = field (arena.get target) := by
  by_cases has : arena.Has target
  · rw [get_push_of_has has]
  · rw [get_of_not_has has]
    by_cases fresh : target = arena.fresh
    · rw [fresh, get_push_fresh, plain]
    · rw [get_of_not_has fun later => (has_or_fresh later).elim has fresh]

end Arena

namespace World

/-- The tasks that are listed by each scheduler and by each dispatcher. -/
def errands (world : World) :
    (Ref .scheduler → List (Nat × TaskId)) × (Ref .dispatcher → List TaskId) :=
  (fun target => (world.schedulers.get target).tasks,
    fun target => (world.dispatchers.get target).background)

/-- The lists of tasks, and how many handles there are. -/
def affairs (world : World) :
    ((Ref .scheduler → List (Nat × TaskId)) × (Ref .dispatcher → List TaskId)) × Nat :=
  (world.errands, world.handles.items.length)

/-- The next world lists the same tasks and has no new handle, and no loop is started. -/
structure Steady (world : World) (next : World × Focus) : Prop where
  affairs : next.1.affairs = world.affairs
  focus : next.2.enrols? = none

variable {world : World}

theorem affairs_congr {old new : World} (schedulers : new.schedulers = old.schedulers)
    (dispatchers : new.dispatchers = old.dispatchers)
    (handles : new.handles.items.length = old.handles.items.length) :
    new.affairs = old.affairs := by
  simp only [affairs, errands, schedulers, dispatchers, handles]

@[simp] theorem affairs_setHandlers (target : Ref .dispatcher)
    (handlers : Dispatcher → PerButton (List (Ref .handle))) :
    (world.setDispatcher target fun dispatcher =>
      { dispatcher with handlers := handlers dispatcher }).affairs = world.affairs := by
  have same := world.dispatchers.get_modify_field Dispatcher.background
    (fun dispatcher => { dispatcher with handlers := handlers dispatcher }) (fun _ => rfl) target
  simp only [affairs, errands, setDispatcher, same]

@[simp] theorem affairs_setHandle (target : Ref .handle) (change : Handle → Handle) :
    (world.setHandle target change).affairs = world.affairs :=
  affairs_congr rfl rfl (List.length_modify _ _ _)

@[simp] theorem affairs_noteFailure (logger : Logger) (heading : String) (target : Ref .handle)
    (fault : Fault) : (world.noteFailure logger heading target fault).affairs = world.affairs :=
  affairs_congr rfl rfl (List.length_modify _ _ _)

theorem affairs_blamed (world : World) (failure : Option Failure) :
    (world.blamed failure).affairs = world.affairs := by
  cases failure with
  | none => rfl
  | some failure => exact affairs_noteFailure _ _ _ _

theorem stable_affairs : Stable (Same affairs) where
  refl _ := rfl
  trans first second := second.trans first
  same schedulers dispatchers handles _ := affairs_congr schedulers dispatchers (by rw [handles])
  observe _ _ _ := rfl
  activate _ target := affairs_setHandle target _
  destroy _ target := affairs_setHandle target _
  dropHandlers _ target handlers _ := affairs_setHandlers target handlers
  newScheduler world clock interval := by
    have same := world.schedulers.get_push_field Scheduler.tasks
      (show (⟨clock, interval, world.tables.fresh, []⟩ : Scheduler).tasks = _ from rfl)
    simp only [Same, affairs, errands, newScheduler, newTable, same]
  newDispatcher world hardware bus := by
    have same := world.dispatchers.get_push_field Dispatcher.background
      (show (⟨hardware, bus, world.tables.fresh, .const [], []⟩ : Dispatcher).background = _
        from rfl)
    simp only [Same, affairs, errands, newDispatcher, newTable, same]

theorem steady_reply (reply : Reply) : Steady world (world, .reply reply) :=
  ⟨rfl, rfl⟩

theorem Leaves.steady {next : World × Focus}
    (leaves : Leaves (Same affairs) (fun _ => True) world next) : Steady world next :=
  ⟨leaves.keeps, leaves.idle⟩

theorem begin_steady (work : Work) : Steady world (world.begin work) :=
  (begin_leaves stable_affairs work).steady

/-- An operation that goes on starts no loop, and lists no callback. -/
theorem resume_steady {frame : Frame} (reply : Reply) :
    Steady world (world.resume frame reply) := by
  obtain ⟨kept, idle, -⟩ := resume_keeps stable_affairs.gentle (fun handle _ => trivial)
    (Frame.blames_all (fun _ => trivial) frame) (fun _ _ => rfl) reply
  exact ⟨Eq.trans kept (affairs_blamed world _), idle⟩

/-- The scheduler with which calling a method registers a loop. -/
def registrar? (world : World) : Method → Option (Ref .scheduler)
  | .scheduler target .register => some target
  | .bridge target .forever => some (world.bridges.get target).scheduler
  | _ => none

/-- A method that lists no callback changes neither the lists of tasks nor the number of
handles. -/
theorem callMethod_steady {method : Method} {arguments : Arguments}
    (unlisted : world.lists? method = none) :
    Steady world (world.callMethod method arguments) := by
  cases recorded : method.recorded? with
  | none =>
      exact (callMethod_leaves stable_affairs unlisted recorded).steady
  | some target =>
      obtain rfl := Method.recorded?_eq_some recorded
      simp only [callMethod]
      rcases recordFailure_cases world target arguments with ⟨fault, -, same⟩ | ⟨-, same⟩
      · exact same ▸ ⟨rfl, rfl⟩
      · exact same ▸ ⟨affairs_congr rfl rfl (List.length_modify _ _ _), rfl⟩

/-- A call of anything but a method lists no callback. -/
theorem callValue_steady {target : Value} {arguments : Arguments}
    (unlisted : ∀ method, target = .method method → world.lists? method = none) :
    Steady world (world.callValue target arguments) := by
  cases target with
  | method method => exact callMethod_steady (unlisted method rfl)
  | _ =>
      refine (callValue_leaves stable_affairs ?_).steady
      intro method same
      cases same

end World

end Microboard
