import Microboard.Proofs.World.Calls
import Microboard.Proofs.World.Growth

/-!
# Sound worlds

What holds of every world that a simulation can reach: hardware has its shape,
subscriptions are numbered, a handle lacks its callback exactly when it is destroyed,
every bridge draws its texts through itself, and every board is wired.
-/

namespace Microboard.World

/-- Every object is as its kind demands. -/
structure Sound (world : World) : Prop where
  hardware : ∀ target, world.hardwares.Has target → (world.hardwares.get target).Shaped
  bus : ∀ target, world.buses.Has target → (world.buses.get target).Numbered
  handle : ∀ target, world.handles.Has target → (world.handles.get target).Released
  surface : ∀ target, world.bridges.Has target →
    world.scrollers.Has (world.bridges.get target).scroller ∧
      (world.scrollers.get (world.bridges.get target).scroller).surface = .matrix target
  board : ∀ target, world.boards.Has target → world.Wired (world.boards.get target)

theorem sound_initial (looping : Bool) (registry : Registry) :
    (initial looping registry).Sound where
  hardware _ has := absurd has (Nat.not_lt_zero _)
  bus _ has := absurd has (Nat.not_lt_zero _)
  handle _ has := absurd has (Nat.not_lt_zero _)
  surface _ has := absurd has (Nat.not_lt_zero _)
  board _ has := absurd has (Nat.not_lt_zero _)

variable {scope : Scope} {old new : World}

theorem Step.hardware_new {target : Ref .hardware} (step : Step scope old new)
    (has : new.hardwares.Has target) :
    old.hardwares.Has target ∨ (new.hardwares.get target).Shaped := by
  cases step with
  | setHardware => exact .inl (Arena.has_modify.mp has)
  | newHardware shaped =>
      rcases Arena.has_or_fresh has with earlier | rfl
      · exact .inl earlier
      · exact .inr ((Arena.get_push_fresh old.hardwares _).symm ▸ shaped)
  | handles step =>
      obtain ⟨_, _, _, _, rfl⟩ := step.eq
      exact .inl has
  | _ => exact .inl has

theorem Step.bus_new {target : Ref .bus} (step : Step scope old new)
    (has : new.buses.Has target) :
    old.buses.Has target ∨ (new.buses.get target).Numbered := by
  cases step with
  | setBus => exact .inl (Arena.has_modify.mp has)
  | newBus =>
      rcases Arena.has_or_fresh has with earlier | rfl
      · exact .inl earlier
      · exact .inr ((Arena.get_push_fresh old.buses _).symm ▸ Bus.numbered_initial)
  | handles step =>
      obtain ⟨_, _, _, _, rfl⟩ := step.eq
      exact .inl has
  | _ => exact .inl has

theorem Step.bridge_new {target : Ref .bridge} (step : Step scope old new)
    (has : new.bridges.Has target) :
    old.bridges.Has target ∨
      (new.scrollers.Has (new.bridges.get target).scroller ∧
        (new.scrollers.get (new.bridges.get target).scroller).surface = .matrix target) := by
  cases step with
  | newBridge hardware bus clock scheduler dispatcher interval =>
      rcases Arena.has_or_fresh has with earlier | rfl
      · exact .inl earlier
      · apply Or.inr
        have scroller := congrArg Bridge.scroller (Arena.get_push_fresh old.bridges
          ⟨hardware, bus, clock, scheduler, dispatcher, interval, old.scrollers.fresh⟩)
        have surface := congrArg Scroller.surface (Arena.get_push_fresh old.scrollers
          ⟨.matrix old.bridges.fresh, clock, (old.hardwares.get hardware).width,
            (old.hardwares.get hardware).height, Glyph.font⟩)
        constructor
        · exact scroller ▸ Arena.has_push_fresh _ _
        · exact scroller ▸ surface
  | handles step =>
      obtain ⟨_, _, _, _, rfl⟩ := step.eq
      exact .inl has
  | _ => exact .inl has

theorem has_destroyAll (world : World) (table : Ref .table) (target : Ref .handle) :
    (world.destroyAll table).handles.Has target ↔ world.handles.Has target := by
  unfold destroyAll
  generalize (world.tables.get table).handles = listed
  induction listed generalizing world with
  | nil => rfl
  | cons handle rest induction =>
      rw [List.foldl_cons, induction, destroyHandle_handles, Arena.has_modify]

theorem HandleStep.handle_new {target : Ref .handle} (step : HandleStep scope old new)
    (has : new.handles.Has target) :
    old.handles.Has target ∨ (new.handles.get target).Released := by
  cases step with
  | create table callback kind =>
      rcases createHandle_cases old table callback kind with
        ⟨fault, failed⟩ | ⟨trace, callable, created⟩
      · rw [failed] at has
        exact .inl has
      · rw [created] at has
        rcases Arena.has_or_fresh has with earlier | rfl
        · exact .inl earlier
        · apply Or.inr
          rw [created, Arena.get_push_fresh]
          exact ⟨fun gone => (by cases gone), fun destroyed => (by cases destroyed)⟩
  | activate target => exact .inl (Arena.has_modify.mp has)
  | storeFailure target cause => exact .inl (Arena.has_modify.mp has)
  | destroy =>
      rw [destroyHandle_handles, Arena.has_modify] at has
      exact .inl has
  | destroyAll table => exact .inl ((has_destroyAll old table target).mp has)

theorem Step.handle_new {target : Ref .handle} (step : Step scope old new)
    (has : new.handles.Has target) :
    old.handles.Has target ∨ (new.handles.get target).Released := by
  cases step with
  | handles step => exact step.handle_new has
  | _ => exact .inl has

theorem Step.board_new {target : Ref .board} (step : Step scope old new)
    (has : new.boards.Has target) :
    old.boards.Has target ∨ old.Wired (new.boards.get target) := by
  cases step with
  | newBoard wired =>
      rcases Arena.has_or_fresh has with earlier | rfl
      · exact .inl earlier
      · exact .inr ((Arena.get_push_fresh old.boards _).symm ▸ wired)
  | handles step =>
      obtain ⟨_, _, _, _, rfl⟩ := step.eq
      exact .inl has
  | _ => exact .inl has

theorem Sound.step (sound : old.Sound) (step : Step scope old new) : new.Sound where
  hardware target has := by
    rcases step.hardware_new has with earlier | shaped
    · exact (step.grows.hardwares target earlier).2.shaped (sound.hardware target earlier)
    · exact shaped
  bus target has := by
    rcases step.bus_new has with earlier | numbered
    · exact (step.grows.buses target earlier).2.numbered (sound.bus target earlier)
    · exact numbered
  handle target has := by
    rcases step.handle_new has with earlier | released
    · exact (step.grows.handles target earlier).2.released (sound.handle target earlier)
    · exact released
  surface target has := by
    rcases step.bridge_new has with earlier | fresh
    · obtain ⟨hasScroller, surface⟩ := sound.surface target earlier
      obtain ⟨hasStill, same⟩ := step.grows.scrollers _ hasScroller
      rw [← (step.grows.bridges target earlier).2, ← same]
      exact ⟨hasStill, surface⟩
    · exact fresh
  board target has := by
    rcases step.board_new has with earlier | wired
    · rw [← (step.grows.boards target earlier).2]
      exact (sound.board target earlier).grows step.grows
    · exact wired.grows step.grows

theorem Sound.steps (sound : old.Sound) (steps : Steps scope old new) : new.Sound := by
  induction steps with
  | refl => exact sound
  | tail _ step induction => exact induction.step step

theorem callbackOf_eq_ok {world : World} {target : Ref .handle} {callback : Value}
    (given : (world.handles.get target).callback = some callback) :
    world.callbackOf target = .ok callback := by
  simp only [callbackOf, given]

theorem callbackOf_eq_error {world : World} {target : Ref .handle}
    (gone : (world.handles.get target).callback = none) :
    world.callbackOf target =
      .error (.handleDestroyed (.int (world.handles.get target).id)) := by
  simp only [callbackOf, gone]

end Microboard.World
