import Microboard.Proofs.World.Errands
import Microboard.Proofs.World.Growth

/-!
# Enrolments

What it means that a callback is listed: a new handle under the next number of a
table.  The loop of a scheduler is enrolled together with its handle; its task starts
in the next turn of the same thread.
-/

namespace Microboard

theorem Arena.modify_push_fresh {component : Component} {α : Type} (arena : Arena component α)
    (item : α) (change : α → α) :
    (arena.push item).modify arena.fresh change = arena.push (change item) := by
  apply congrArg Arena.mk
  apply List.ext_getElem?
  intro index
  simp only [push, fresh, List.getElem?_modify, List.getElem?_append]
  by_cases last : index = arena.items.length
  · simp [last]
  · by_cases inside : index < arena.items.length
    · simp [inside, Ne.symm last]
    · have beyond : index - arena.items.length ≠ 0 := by omega
      simp [inside, beyond]

namespace World

variable {world : World}

/-- The handle of a callback that has been listed and takes part. -/
def enrolled (world : World) (table : Ref .table) (kind : String) (callback : Value) : Handle :=
  { Handle.registered (world.tables.get table).next kind callback with stage := .active }

/-- A world with one more callback in a table. -/
structure Enrols (table : Ref .table) (kind : String) (callback : Value) (old new : World) :
    Prop where
  handles : new.handles = old.handles.push (old.enrolled table kind callback)
  tables : new.tables = old.tables.modify table (·.insert old.handles.fresh)
  schedulers : new.schedulers = old.schedulers
  errands : new.errands = old.errands

theorem activate_createHandle {created : World} {table : Ref .table} {kind : String}
    {callback : Value} {handle : Ref .handle}
    (creates : world.createHandle table callback kind = (created, .ok handle)) :
    handle = world.handles.fresh ∧ Enrols table kind callback world (created.activate handle) ∧
      created.dispatchers = world.dispatchers := by
  rcases createHandle_cases world table callback kind with
    ⟨fault, failed⟩ | ⟨trace, callable, success⟩
  · rw [failed] at creates
    cases creates
  · rw [success] at creates
    cases creates
    refine ⟨rfl, ⟨?_, rfl, rfl, rfl⟩, rfl⟩
    simp only [activate, setHandle, enrolled]
    rw [Arena.modify_push_fresh]
    rfl

/-- What is to be done once a callback has been listed for a loop: its task is started,
and the handle is given back. -/
def starting (world : World) (target : Ref .scheduler) : Focus :=
  .within (.program fun _ => .finish (.ok (.handle world.handles.fresh)))
    (.start (.loop target world.handles.fresh)
      (.loopEnded target (world.tables.get (world.schedulers.get target).table).next))

/-- Registering a loop fails without a trace, or it enrols the callback and is about to
start the task. -/
theorem startLoop_cases (world : World) (target : Ref .scheduler) (callback : Value) :
    (∃ fault, world.startLoop target callback = (world, .raise fault)) ∨
    ∃ new, Enrols (world.schedulers.get target).table "forever" callback world new ∧
      world.startLoop target callback = (new, world.starting target) := by
  unfold startLoop
  by_cases looping : world.looping = true
  · simp only [looping, Bool.not_true, Bool.false_eq_true, if_false]
    split
    next created fault failed =>
      rcases createHandle_cases world (world.schedulers.get target).table callback "forever" with
        ⟨_, nothing⟩ | ⟨trace, callable, success⟩
      · rw [nothing] at failed
        cases failed
        exact .inl ⟨_, rfl⟩
      · rw [success] at failed
        cases failed
    next created handle creates =>
      obtain ⟨rfl, enrols, -⟩ := activate_createHandle creates
      refine .inr ⟨_, enrols, ?_⟩
      rw [enrols.handles, Arena.get_push_fresh]
      rfl
  · simp only [looping, Bool.not_false, if_true]
    exact .inl ⟨_, rfl⟩

/-- A world with one more handler at the end of the list of a button. -/
structure Enlists (target : Ref .dispatcher) (button : Button) (handler : Value)
    (old new : World) : Prop
    extends Enrols (old.dispatchers.get target).table ("button " ++ button.name) handler
      old new where
  dispatchers : new.dispatchers = old.dispatchers.modify target fun dispatcher =>
    { dispatcher with
      handlers := dispatcher.handlers.set button
        (dispatcher.handlers.get button ++ [old.handles.fresh]) }

/-- Registering a handler fails without a trace, or it enlists the callback. -/
theorem registerHandler_cases (world : World) (target : Ref .dispatcher) (button handler : Value) :
    (∃ fault, world.registerHandler target button handler = (world, .raise fault)) ∨
    ∃ known new, button.toButton = .ok known ∧ Enlists target known handler world new ∧
      world.registerHandler target button handler =
        (new, .value (.handle world.handles.fresh)) := by
  unfold registerHandler
  cases accepted : button.toButton with
  | error fault => exact .inl ⟨fault, rfl⟩
  | ok known =>
      simp only
      split
      next created fault failed =>
        rcases createHandle_cases world (world.dispatchers.get target).table handler
          ("button " ++ known.name) with ⟨_, nothing⟩ | ⟨trace, callable, success⟩
        · rw [nothing] at failed
          cases failed
          exact .inl ⟨_, rfl⟩
        · rw [success] at failed
          cases failed
      next created handle creates =>
        obtain ⟨rfl, enrols, dispatchers⟩ := activate_createHandle creates
        refine .inr ⟨known, _, rfl, ?_, rfl⟩
        refine ⟨⟨enrols.handles, enrols.tables, enrols.schedulers, ?_⟩, ?_⟩
        · have same := @affairs_setHandlers (created.activate world.handles.fresh) target
            fun dispatcher => dispatcher.handlers.set known
              (dispatcher.handlers.get known ++ [world.handles.fresh])
          exact (congrArg Prod.fst same).trans enrols.errands
        · rw [← dispatchers]
          rfl

/-- What a call does to the lists of tasks: nothing, or it registers a loop whose task is
listed as soon as it is started. -/
inductive Registers (world : World) : World × Focus → Prop where
  | steady {next : World × Focus} (errands : next.1.errands = world.errands)
      (focus : next.2.enrols? = none) : Registers world next
  | loop {target : Ref .scheduler} {callback : Value} {new : World}
      (enrols : Enrols (world.schedulers.get target).table "forever" callback world new) :
      Registers world (new, world.starting target)

theorem Steady.registers {next : World × Focus} (steady : Steady world next) :
    Registers world next :=
  .steady (congrArg Prod.fst steady.affairs) steady.focus

theorem startLoop_registers (target : Ref .scheduler) (callback : Value) :
    Registers world (world.startLoop target callback) := by
  rcases startLoop_cases world target callback with ⟨fault, failed⟩ | ⟨new, enrols, same⟩
  · exact failed ▸ (steady_reply _).registers
  · exact same ▸ .loop enrols

theorem registerHandler_registers (target : Ref .dispatcher) (button handler : Value) :
    Registers world (world.registerHandler target button handler) := by
  rcases registerHandler_cases world target button handler with
    ⟨fault, failed⟩ | ⟨kind, new, -, enrols, same⟩
  · exact failed ▸ (steady_reply _).registers
  · exact same ▸ .steady enrols.errands rfl

theorem create_registers (target : Ref .table) (arguments : Arguments) :
    Registers world (world.callTable target .create arguments) := by
  simp only [callTable]
  rcases createHandle_cases world target (arguments.get 0 "callback")
      (arguments.get 1 "kind").plain with ⟨fault, failed⟩ | ⟨trace, -, created⟩
  · rw [failed]
    exact (steady_reply _).registers
  · rw [created]
    exact .steady rfl rfl

theorem callMethod_registers (method : Method) (arguments : Arguments) :
    Registers world (world.callMethod method arguments) := by
  cases lists : world.lists? method with
  | none => exact (callMethod_steady lists).registers
  | some table =>
      cases Lists.of_lists? lists with
      | create => exact create_registers _ arguments
      | register | forever => exact startLoop_registers _ _
      | handle | onButtonPressed => exact registerHandler_registers _ _ _

theorem callValue_registers (world : World) (target : Value) (arguments : Arguments) :
    Registers world (world.callValue target arguments) := by
  cases target with
  | method method => exact callMethod_registers method arguments
  | _ =>
      refine Steady.registers (callValue_steady ?_)
      intro method same
      cases same

/-- The table of a scheduler is there as soon as the scheduler is. -/
def Tabled (world : World) : Prop :=
  ∀ target, world.schedulers.Has target →
    world.tables.Has (world.schedulers.get target).table

variable {scope : Scope} {old new : World}

theorem Step.scheduler_new {target : Ref .scheduler} (step : Step scope old new)
    (has : new.schedulers.Has target) :
    old.schedulers.Has target ∨ new.tables.Has (new.schedulers.get target).table := by
  cases step with
  | setTasks => exact .inl (Arena.has_modify.mp has)
  | newScheduler clock interval =>
      rcases Arena.has_or_fresh has with earlier | rfl
      · exact .inl earlier
      · have table := congrArg Scheduler.table
          (Arena.get_push_fresh old.schedulers ⟨clock, interval, old.tables.fresh, []⟩)
        exact .inr (table ▸ Arena.has_push_fresh _ _)
  | handles step =>
      obtain ⟨_, _, _, _, rfl⟩ := step.eq
      exact .inl has
  | _ => exact .inl has

theorem Tabled.steps (tabled : old.Tabled) (steps : Steps scope old new) : new.Tabled := by
  induction steps with
  | refl => exact tabled
  | tail _ step induction =>
      intro target has
      rcases step.scheduler_new has with earlier | fresh
      · have same := (step.grows.schedulers target earlier).2.table
        exact same ▸ (step.grows.tables _ (induction target earlier)).1
      · exact fresh

end World

end Microboard
