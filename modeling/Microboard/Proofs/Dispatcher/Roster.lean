import Microboard.Proofs.Machine.Issued
import Microboard.Proofs.Machine.Keeping

/-!
# Rosters

The lists of handlers that a dispatcher keeps.  A registration puts a new handle with the
next number at the end of one of them; nothing else does more than take handles away.  So
every list stands in the order of the registrations.
-/

namespace Microboard

namespace World

variable {world old new : World}

/-- The handles that a dispatcher lists for a button. -/
def roll (world : World) (target : Ref .dispatcher) (button : Button) : List (Ref .handle) :=
  (world.dispatchers.get target).handlers.get button

/-- From every list handles have been taken, if it has changed at all. -/
def Fewer (old new : World) : Prop :=
  ∀ target button, (new.roll target button).Sublist (old.roll target button)

theorem fewer_of_dispatchers (same : new.dispatchers = old.dispatchers) : Fewer old new := by
  intro target button
  simp only [roll, same, List.Sublist.refl]

theorem fewer_setDispatcher {target : Ref .dispatcher} {change : Dispatcher → Dispatcher}
    (fewer : ∀ dispatcher button,
      ((change dispatcher).handlers.get button).Sublist (dispatcher.handlers.get button)) :
    Fewer world (world.setDispatcher target change) := by
  intro other button
  unfold roll setDispatcher
  by_cases same : other = target
  · subst other
    by_cases has : world.dispatchers.Has target
    · rw [Arena.get_modify_self _ has]
      exact fewer _ button
    · have missing : ¬ (world.dispatchers.modify target change).Has target :=
        fun later => has (Arena.has_modify.mp later)
      simp only [Arena.get_of_not_has has, Arena.get_of_not_has missing, List.Sublist.refl]
  · simp only [Arena.get_modify_of_ne _ _ same, List.Sublist.refl]

theorem lasting_fewer : Lasting Fewer where
  refl _ := fewer_of_dispatchers rfl
  trans first second target button := (second target button).trans (first target button)
  same _ dispatchers _ _ := fewer_of_dispatchers dispatchers
  observe _ _ _ := fewer_of_dispatchers rfl
  activate _ _ := fewer_of_dispatchers rfl
  destroy _ _ := fewer_of_dispatchers rfl
  dropHandlers _ _ _ fewer := fewer_setDispatcher fewer
  newScheduler _ _ _ := fewer_of_dispatchers rfl
  newDispatcher world hardware bus target button := by
    have same := world.dispatchers.get_push_field Dispatcher.handlers
      (show (⟨hardware, bus, world.tables.fresh, .const [], []⟩ : Dispatcher).handlers = _ from rfl)
      target
    simp only [roll, newDispatcher, newTable, same, List.Sublist.refl]
  create world table callback kind := by
    apply fewer_of_dispatchers
    unfold createHandle
    split <;> rfl
  storeFailure _ _ _ := fewer_of_dispatchers rfl
  blame _ _ := fewer_of_dispatchers rfl
  setTasks _ _ _ := fewer_of_dispatchers rfl
  setBackground _ _ _ := fewer_setDispatcher fun _ _ => List.Sublist.refl _

/-- A handle that a dispatcher lists for a button: it exists, its kind names the button, and
its number has been given out by the table of the dispatcher. -/
structure Enlisted (world : World) (target : Ref .dispatcher) (button : Button)
    (handle : Ref .handle) : Prop where
  has : world.handles.Has handle
  kind : (world.handles.get handle).kind = "button " ++ button.name
  number : (world.handles.get handle).id <
    (world.tables.get (world.dispatchers.get target).table).next

/-- The handles that are listed have been enlisted in the order of the lists. -/
structure Rostered (world : World) : Prop where
  listed : ∀ target button, ∀ handle ∈ world.roll target button,
    world.Enlisted target button handle
  ascending : ∀ target button, (world.roll target button).Pairwise fun first second =>
    (world.handles.get first).id < (world.handles.get second).id

theorem rostered_initial (looping : Bool) (registry : Registry) :
    (initial looping registry).Rostered where
  listed _ button _ member := by cases button <;> exact absurd member List.not_mem_nil
  ascending _ button := by cases button <;> exact List.Pairwise.nil

theorem has_of_roll {target : Ref .dispatcher} {button : Button} {handle : Ref .handle}
    (member : handle ∈ world.roll target button) : world.dispatchers.Has target := by
  apply Decidable.byContradiction
  intro missing
  rw [roll, Arena.get_of_not_has missing] at member
  cases button <;> exact List.not_mem_nil member

theorem Rostered.others (rostered : world.Rostered) {target : Ref .dispatcher}
    {button other : Button} {handle : Ref .handle} (member : handle ∈ world.roll target button)
    (different : other ≠ button) : handle ∉ world.roll target other := by
  intro listed
  have kinds := (rostered.listed _ _ _ member).kind.symm.trans (rostered.listed _ _ _ listed).kind
  cases button <;> cases other <;> first | exact different rfl | exact absurd kinds (by decide)

theorem Rostered.nodup (rostered : world.Rostered) (target : Ref .dispatcher) (button : Button) :
    (world.roll target button).Nodup := by
  refine (rostered.ascending target button).imp fun ascends same => ?_
  rw [same] at ascends
  exact Nat.lt_irrefl _ ascends

section Growth

variable (rostered : old.Rostered) (filed : old.Filed) (grows : Grows old new)
include rostered filed grows

theorem Rostered.enlisted {target : Ref .dispatcher} {button : Button} {handle : Ref .handle}
    (member : handle ∈ old.roll target button) : new.Enlisted target button handle := by
  have enlisted := rostered.listed target button handle member
  have has := has_of_roll member
  obtain ⟨hasNew, succeeds⟩ := grows.handles handle enlisted.has
  refine ⟨hasNew, succeeds.kind.trans enlisted.kind, ?_⟩
  rw [succeeds.id, (grows.dispatchers target has).2.table]
  exact Nat.lt_of_lt_of_le enlisted.number
    (grows.tables _ (filed.dispatchers target has)).2.next

omit filed in
theorem Rostered.still_ascending (target : Ref .dispatcher) (button : Button) :
    (old.roll target button).Pairwise fun first second =>
      (new.handles.get first).id < (new.handles.get second).id := by
  refine (rostered.ascending target button).imp_of_mem ?_
  intro first second earlier later ascends
  rw [(grows.handles first (rostered.listed _ _ _ earlier).has).2.id,
    (grows.handles second (rostered.listed _ _ _ later).has).2.id]
  exact ascends

theorem Rostered.fewer (fewer : Fewer old new) : new.Rostered where
  listed target button _ member :=
    rostered.enlisted filed grows ((fewer target button).subset member)
  ascending target button := (rostered.still_ascending grows target button).sublist
    (fewer target button)

end Growth

/-- Where a new handler stands: at the end of its list, and in no other. -/
theorem Enlists.roll {target : Ref .dispatcher} {known : Button} {handler : Value}
    (enlists : Enlists target known handler old new) (other : Ref .dispatcher)
    (button : Button) :
    new.roll other button = old.roll other button ∨
      old.dispatchers.Has other ∧ target = other ∧ known = button ∧
        new.roll other button = old.roll other button ++ [old.handles.fresh] := by
  unfold World.roll
  rw [enlists.dispatchers]
  by_cases same : other = target
  · subst same
    by_cases has : old.dispatchers.Has other
    · rw [Arena.get_modify_self _ has]
      by_cases own : button = known
      · subst own
        exact .inr ⟨has, rfl, rfl, PerButton.get_set_self _ _ _⟩
      · exact .inl (PerButton.get_set_of_ne _ _ own)
    · rw [Arena.get_of_not_has has,
        Arena.get_of_not_has fun later => has (Arena.has_modify.mp later)]
      exact .inl rfl
  · rw [Arena.get_modify_of_ne _ _ same]
    exact .inl rfl

/-- The new handle has the number that the table was to give out next. -/
theorem Enlists.fresh {target : Ref .dispatcher} {button : Button} {handler : Value}
    (enlists : Enlists target button handler old new) (filed : old.Filed) (grows : Grows old new)
    (has : old.dispatchers.Has target) :
    new.Enlisted target button old.handles.fresh ∧
      (new.handles.get old.handles.fresh).id =
        (old.tables.get (old.dispatchers.get target).table).next := by
  have record : new.handles.get old.handles.fresh =
      old.enrolled (old.dispatchers.get target).table ("button " ++ button.name) handler := by
    rw [enlists.handles, Arena.get_push_fresh]
  refine ⟨⟨?_, ?_, ?_⟩, ?_⟩
  · rw [enlists.handles]
    exact Arena.has_push_fresh _ _
  · rw [record]
    rfl
  · rw [record, (grows.dispatchers target has).2.table, enlists.tables,
      Arena.get_modify_self _ (filed.dispatchers target has)]
    exact Nat.lt_succ_self _
  · rw [record]
    rfl

theorem Rostered.enlists (rostered : old.Rostered) (filed : old.Filed) (grows : Grows old new)
    {target : Ref .dispatcher} {known : Button} {handler : Value}
    (enlists : Enlists target known handler old new) : new.Rostered := by
  constructor
  case listed =>
    intro other button handle member
    rcases enlists.roll other button with same | ⟨has, rfl, rfl, longer⟩
    · rw [same] at member
      exact rostered.enlisted filed grows member
    · rw [longer] at member
      rcases List.mem_append.mp member with earlier | last
      · exact rostered.enlisted filed grows earlier
      · rw [List.mem_singleton.mp last]
        exact (enlists.fresh filed grows has).1
  case ascending =>
    intro other button
    rcases enlists.roll other button with same | ⟨has, rfl, rfl, longer⟩
    · rw [same]
      exact rostered.still_ascending grows other button
    · rw [longer, List.pairwise_append]
      refine ⟨rostered.still_ascending grows _ _, List.pairwise_singleton _ _, ?_⟩
      intro handle earlier other last
      have enlisted := rostered.listed _ _ handle earlier
      rw [List.mem_singleton.mp last, (enlists.fresh filed grows has).2,
        (grows.handles handle enlisted.has).2.id]
      exact enlisted.number

end World

namespace Machine

variable {machine next : Machine} {past : List Machine} {thread : Thread} {focus : Focus}
variable {looping : Bool} {registry : Registry} {names : List (String × Value)}

theorem Move.registers (move : Move machine next) {target : Ref .dispatcher}
    {button handler : Value} (busy : machine.control = .busy thread focus)
    (registers : focus.registers? machine.world = some (target, button, handler)) :
    next = machine.go thread (machine.world.registerHandler target button handler) := by
  rw [move.of_busy busy]
  unfold Focus.registers? at registers
  split at registers
  next called arguments =>
    unfold Value.registers? at registers
    split at registers
    next method =>
      unfold Method.registers? at registers
      split at registers
      · cases registers
        rfl
      · cases registers
        rfl
      · cases registers
    next => cases registers
  next => cases registers

theorem Move.rostered (move : Move machine next) (sound : machine.Sound)
    (filed : machine.world.Filed) (rostered : machine.world.Rostered) : next.world.Rostered := by
  have grows := move.grows sound
  by_cases registers : ∃ thread focus target button handler,
      machine.control = .busy thread focus ∧
        focus.registers? machine.world = some (target, button, handler)
  · obtain ⟨thread, focus, target, button, handler, busy, registered⟩ := registers
    rw [move.registers busy registered] at grows ⊢
    simp only [go] at grows ⊢
    rcases World.registerHandler_cases machine.world target button handler with
      ⟨fault, failed⟩ | ⟨known, new, -, enlists, same⟩
    · rw [failed]
      exact rostered
    · rw [same] at grows ⊢
      exact rostered.enlists filed grows enlists
  · refine rostered.fewer filed grows (move.lasts World.lasting_fewer ?_ sound ?_)
    · exact fun _ _ _ _ => World.fewer_of_dispatchers rfl
    · exact fun thread focus target button handler busy registered =>
        absurd ⟨thread, focus, target, button, handler, busy, registered⟩ registers

theorem Run.rostered (run : Run (initial (.initial looping registry) names) past machine) :
    machine.world.Rostered := by
  induction run with
  | refl => exact World.rostered_initial looping registry
  | move run move induction =>
      exact move.rostered (run.sound (sound_initial looping registry names)) run.filed induction

end Machine

end Microboard
