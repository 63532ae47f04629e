import Microboard.Proofs.World.Enrolment
import Microboard.Proofs.World.Ledger

/-!
# Listings

What a scheduler lists, and how a call adds to it.  A handle that has begun to take part
takes part until it is destroyed.
-/

namespace Microboard

/-- A handle that is no longer only registered never is again. -/
def Handle.Advances (old new : Handle) : Prop :=
  old.stage ≠ .registered → new.stage ≠ .registered

theorem Handle.advances_trans (first second third : Handle) (left : Advances first second)
    (right : Advances second third) : Advances first third :=
  fun begun => right (left begun)

theorem Arena.Grows.size {component : Component} {α : Type} [Inhabited α]
    {relation : α → α → Prop} {old new : Arena component α} (grows : Grows relation old new) :
    old.items.length ≤ new.items.length := by
  rcases Nat.eq_zero_or_pos old.items.length with empty | filled
  · omega
  · have last : old.Has ⟨old.items.length - 1⟩ := by
      simp only [Arena.Has]
      omega
    have still := (grows _ last).1
    simp only [Arena.Has] at still
    omega

namespace World

variable {scope : Scope} {old new world : World} {scheduler : Ref .scheduler}
variable {handle : Ref .handle}

/-- The handle takes part, or it has been destroyed. -/
structure Engaged (world : World) (handle : Ref .handle) : Prop where
  has : world.handles.Has handle
  begun : (world.handles.get handle).stage ≠ .registered

theorem Engaged.destroyed (engaged : world.Engaged handle)
    (inactive : (world.handles.get handle).isActive = false) : world.Destroyed handle := by
  have begun := engaged.begun
  simp only [Destroyed, Handle.isActive, Handle.isDestroyed, decide_eq_true_eq,
    decide_eq_false_iff_not] at inactive ⊢
  cases stage : (world.handles.get handle).stage with
  | registered => exact absurd stage begun
  | active => exact absurd stage inactive
  | destroyed => rfl

theorem advances_destroyHandle (world : World) (table : Ref .table) (target : Ref .handle) :
    world.handles.Grows Handle.Advances (world.destroyHandle table target).handles := by
  rw [destroyHandle_handles]
  exact .modify (fun _ => id) _ fun _ => Lifecycle.noConfusion

theorem HandleStep.advances (step : HandleStep scope old new) :
    old.handles.Grows Handle.Advances new.handles := by
  have steady (arena : Arena .handle Handle) : arena.Grows Handle.Advances arena :=
    .refl (fun _ => id) arena
  cases step with
  | create table callback kind =>
      rcases createHandle_cases old table callback kind with ⟨fault, failed⟩ | ⟨trace, -, created⟩
      · rw [failed]
        exact steady _
      · rw [created]
        exact .push (fun _ => id) _ _
  | activate target =>
      refine .modify (fun _ => id) _ ?_
      intro begun
      unfold Handle.activate?
      split
      · exact begun
      · exact Lifecycle.noConfusion
  | storeFailure target cause => exact .modify (fun _ => id) _ id
  | destroy inside => exact advances_destroyHandle _ _ _
  | destroyAll table =>
      unfold World.destroyAll
      generalize (old.tables.get table).handles = handles
      induction handles generalizing old with
      | nil => exact steady _
      | cons handle rest induction =>
          have first := advances_destroyHandle old table handle
          exact first.trans Handle.advances_trans induction

theorem Step.advances (step : Step scope old new) :
    old.handles.Grows Handle.Advances new.handles := by
  cases step with
  | handles step => exact step.advances
  | _ => exact .refl (fun _ => id) _

theorem Engaged.steps (engaged : old.Engaged handle) (steps : Steps scope old new) :
    new.Engaged handle := by
  induction steps with
  | refl => exact engaged
  | tail _ step induction =>
      obtain ⟨has, later⟩ := step.advances handle induction.has
      exact ⟨has, later induction.begun⟩

/-- What a scheduler lists. -/
def listing (world : World) (scheduler : Ref .scheduler) : List (Nat × Ref .handle) :=
  (world.tables.get (world.schedulers.get scheduler).table).entries

theorem entries_destroyHandle (world : World) (table other : Ref .table)
    (target : Ref .handle) :
    ((world.destroyHandle table target).tables.get other).entries ⊆
      (world.tables.get other).entries := by
  rw [destroyHandle_tables]
  by_cases same : other = table
  · subst same
    by_cases has : world.tables.Has other
    · rw [Arena.get_modify_self _ has, HandleTable.entries_erase]
      exact fun entry member => (List.mem_filter.mp member).1
    · rw [Arena.get_of_not_has fun later => has (Arena.has_modify.mp later)]
      exact List.nil_subset _
  · rw [Arena.get_modify_of_ne _ _ same]
    exact List.Subset.refl _

theorem entries_destroyAll (world : World) (table other : Ref .table) :
    ((world.destroyAll table).tables.get other).entries ⊆ (world.tables.get other).entries := by
  unfold destroyAll
  generalize (world.tables.get table).handles = handles
  induction handles generalizing world with
  | nil => exact List.Subset.refl _
  | cons handle rest induction =>
      exact List.Subset.trans (induction _) (entries_destroyHandle world table other handle)

/-- A call that lists a callback fails, or it lists it in this table. -/
theorem callMethod_tables {method : Method} {table : Ref .table} (arguments : Arguments)
    (lists : world.lists? method = some table) :
    (world.callMethod method arguments).1.schedulers = world.schedulers ∧
      ((world.callMethod method arguments).1.tables = world.tables ∨
        (world.callMethod method arguments).1.tables =
          world.tables.modify table (·.insert world.handles.fresh)) := by
  have loops (target : Ref .scheduler) (callback : Value) :
      (world.startLoop target callback).1.schedulers = world.schedulers ∧
      ((world.startLoop target callback).1.tables = world.tables ∨
        (world.startLoop target callback).1.tables =
          world.tables.modify (world.schedulers.get target).table
            (·.insert world.handles.fresh)) := by
    rcases startLoop_cases world target callback with ⟨fault, failed⟩ | ⟨new, enrols, started⟩
    · rw [failed]
      exact ⟨rfl, .inl rfl⟩
    · rw [started]
      exact ⟨enrols.schedulers, .inr enrols.tables⟩
  have handlers (target : Ref .dispatcher) (button handler : Value) :
      (world.registerHandler target button handler).1.schedulers = world.schedulers ∧
      ((world.registerHandler target button handler).1.tables = world.tables ∨
        (world.registerHandler target button handler).1.tables =
          world.tables.modify (world.dispatchers.get target).table
            (·.insert world.handles.fresh)) := by
    rcases registerHandler_cases world target button handler with
      ⟨fault, failed⟩ | ⟨kind, new, -, enrols, registered⟩
    · rw [failed]
      exact ⟨rfl, .inl rfl⟩
    · rw [registered]
      exact ⟨enrols.schedulers, .inr enrols.tables⟩
  cases Lists.of_lists? lists with
  | create =>
      simp only [callMethod, callTable]
      rcases createHandle_cases world table (arguments.get 0 "callback")
          (arguments.get 1 "kind").plain with ⟨fault, failed⟩ | ⟨trace, -, created⟩
      · rw [failed]
        exact ⟨rfl, .inl rfl⟩
      · rw [created]
        exact ⟨rfl, .inr rfl⟩
  | register | forever => exact loops _ _
  | handle | onButtonPressed => exact handlers _ _ _

/-- A call of a registration starts a loop. -/
theorem callMethod_registrar {method : Method} (arguments : Arguments)
    (registrar : world.registrar? method = some scheduler) :
    ∃ callback, world.callMethod method arguments = world.startLoop scheduler callback := by
  cases method with
  | scheduler target operation =>
      cases operation with
      | register =>
          cases registrar
          exact ⟨_, rfl⟩
      | _ => cases registrar
  | bridge target operation =>
      cases operation with
      | forever =>
          cases registrar
          exact ⟨_, rfl⟩
      | _ => cases registrar
  | _ => cases registrar

end World

end Microboard
