import Microboard.Proofs.World.Listing

/-!
# Files

Every table lists handles under their own numbers, no two owners keep to one table, and no
handle is listed twice.  So destroying all that a table lists leaves nothing in it, whatever
it had been asked to destroy before, and takes nothing from another table.
-/

namespace Microboard

theorem Arena.not_has_fresh {component : Component} {α : Type} (arena : Arena component α) :
    ¬ arena.Has arena.fresh :=
  Nat.lt_irrefl _

namespace World

variable {world old new : World} {scope : Scope}

/-- A handle stands in a table under its own number. -/
def Numbers (world : World) (entry : Nat × Ref .handle) : Prop :=
  world.handles.Has entry.2 ∧ entry.1 = (world.handles.get entry.2).id

structure Filed (world : World) : Prop where
  entries : ∀ table, ∀ entry ∈ (world.tables.get table).entries, world.Numbers entry
  tabled : world.Tabled
  dispatchers : ∀ target, world.dispatchers.Has target →
    world.tables.Has (world.dispatchers.get target).table
  apart : ∀ first second, world.schedulers.Has first → world.schedulers.Has second →
    (world.schedulers.get first).table = (world.schedulers.get second).table → first = second
  foreign : ∀ scheduler dispatcher, world.schedulers.Has scheduler →
    world.dispatchers.Has dispatcher →
    (world.schedulers.get scheduler).table ≠ (world.dispatchers.get dispatcher).table

theorem filed_initial (looping : Bool) (registry : Registry) :
    (initial looping registry).Filed where
  entries _ _ member := absurd member List.not_mem_nil
  tabled _ has := absurd has (Nat.not_lt_zero _)
  dispatchers _ has := absurd has (Nat.not_lt_zero _)
  apart _ _ has := absurd has (Nat.not_lt_zero _)
  foreign _ _ has := absurd has (Nat.not_lt_zero _)

theorem Numbers.grows {entry : Nat × Ref .handle} (numbers : old.Numbers entry)
    (grows : old.handles.Grows Handle.Succeeds new.handles) : new.Numbers entry := by
  obtain ⟨has, succeeds⟩ := grows entry.2 numbers.1
  exact ⟨has, numbers.2.trans succeeds.id.symm⟩

/-- A new handle has been listed in a table, and nothing else has been listed. -/
structure NewlyListed (table : Ref .table) (entry : Nat × Ref .handle) (old new : World) :
    Prop where
  numbers : new.Numbers entry
  fresh : entry.2 = old.handles.fresh
  tables : new.tables = old.tables.modify table (·.insert old.handles.fresh)

/-- What a step lists in a table was listed there before, or it is new. -/
theorem Step.entries {table : Ref .table} {entry : Nat × Ref .handle}
    (step : Step scope old new) (member : entry ∈ (new.tables.get table).entries) :
    entry ∈ (old.tables.get table).entries ∨ NewlyListed table entry old new := by
  have pushed (listed : entry ∈ ((old.tables.push .initial).get table).entries) :
      entry ∈ (old.tables.get table).entries := by
    by_cases has : old.tables.Has table
    · rwa [Arena.get_push_of_has has] at listed
    · by_cases last : table = old.tables.fresh
      · rw [last, Arena.get_push_fresh] at listed
        exact absurd listed List.not_mem_nil
      · rw [Arena.get_of_not_has fun found => (Arena.has_or_fresh found).elim has last] at listed
        exact absurd listed List.not_mem_nil
  cases step with
  | handles step =>
      cases step with
      | create other callback kind =>
          rcases createHandle_cases old other callback kind with
            ⟨fault, failed⟩ | ⟨trace, -, created⟩
          · rw [failed] at member
            exact .inl member
          · rw [created] at member ⊢
            by_cases own : table = other
            · subst own
              by_cases has : old.tables.Has table
              · rw [Arena.get_modify_self _ has] at member
                refine (List.mem_append.mp member).imp_right fun last => ?_
                rw [List.mem_singleton.mp last]
                refine ⟨⟨Arena.has_push_fresh _ _, ?_⟩, rfl, rfl⟩
                rw [Arena.get_push_fresh]
                rfl
              · rw [Arena.get_of_not_has fun later => has (Arena.has_modify.mp later)] at member
                exact absurd member List.not_mem_nil
            · rw [Arena.get_modify_of_ne _ _ own] at member
              exact .inl member
      | activate target | storeFailure target cause => exact .inl member
      | destroy inside => exact .inl (entries_destroyHandle _ _ _ _ member)
      | destroyAll other => exact .inl (entries_destroyAll _ _ _ member)
  | newTable | newScheduler | newDispatcher => exact .inl (pushed member)
  | _ => exact .inl member

theorem Step.scheduler_table {target : Ref .scheduler} (step : Step scope old new)
    (has : new.schedulers.Has target) :
    old.schedulers.Has target ∨ target = old.schedulers.fresh ∧
      (new.schedulers.get target).table = old.tables.fresh := by
  cases step with
  | setTasks => exact .inl (Arena.has_modify.mp has)
  | newScheduler clock interval =>
      rcases Arena.has_or_fresh has with earlier | rfl
      · exact .inl earlier
      · exact .inr ⟨rfl, congrArg Scheduler.table (Arena.get_push_fresh old.schedulers
          ⟨clock, interval, old.tables.fresh, []⟩)⟩
  | handles step =>
      obtain ⟨_, _, _, _, rfl⟩ := step.eq
      exact .inl has
  | _ => exact .inl has

theorem Step.dispatcher_table {target : Ref .dispatcher} (step : Step scope old new)
    (has : new.dispatchers.Has target) :
    old.dispatchers.Has target ∨ (new.dispatchers.get target).table = old.tables.fresh ∧
      new.tables.Has old.tables.fresh ∧ new.schedulers = old.schedulers := by
  cases step with
  | setHandlers | setBackground => exact .inl (Arena.has_modify.mp has)
  | newDispatcher hardware bus =>
      rcases Arena.has_or_fresh has with earlier | rfl
      · exact .inl earlier
      · exact .inr ⟨congrArg Dispatcher.table (Arena.get_push_fresh old.dispatchers
          ⟨hardware, bus, old.tables.fresh, .const [], []⟩), Arena.has_push_fresh _ _, rfl⟩
  | handles step =>
      obtain ⟨_, _, _, _, rfl⟩ := step.eq
      exact .inl has
  | _ => exact .inl has

theorem Filed.step (filed : old.Filed) (step : Step scope old new) : new.Filed := by
  have grows := step.grows
  have older {target : Ref .scheduler} (has : old.schedulers.Has target) :
      (new.schedulers.get target).table ≠ old.tables.fresh := by
    rw [(grows.schedulers target has).2.table]
    intro same
    exact old.tables.not_has_fresh (same ▸ filed.tabled target has)
  have elder {target : Ref .dispatcher} (has : old.dispatchers.Has target) :
      (new.dispatchers.get target).table ≠ old.tables.fresh := by
    rw [(grows.dispatchers target has).2.table]
    intro same
    exact old.tables.not_has_fresh (same ▸ filed.dispatchers target has)
  constructor
  case entries =>
    intro table entry member
    rcases step.entries member with earlier | listed
    · exact (filed.entries table entry earlier).grows grows.handles
    · exact listed.numbers
  case tabled => exact filed.tabled.steps (.one step)
  case dispatchers =>
    intro target has
    rcases step.dispatcher_table has with earlier | ⟨fresh, stands, -⟩
    · rw [(grows.dispatchers target earlier).2.table]
      exact (grows.tables _ (filed.dispatchers target earlier)).1
    · rw [fresh]
      exact stands
  case apart =>
    intro first second hasFirst hasSecond same
    rcases step.scheduler_table hasFirst, step.scheduler_table hasSecond with
      ⟨earlier | ⟨rfl, fresh⟩, before | ⟨rfl, last⟩⟩
    · rw [(grows.schedulers first earlier).2.table,
        (grows.schedulers second before).2.table] at same
      exact filed.apart first second earlier before same
    · exact absurd (same.trans last) (older earlier)
    · exact absurd (same.symm.trans fresh) (older before)
    · rfl
  case foreign =>
    intro scheduler dispatcher hasScheduler hasDispatcher same
    rcases step.scheduler_table hasScheduler, step.dispatcher_table hasDispatcher with
      ⟨earlier | ⟨rfl, fresh⟩, before | ⟨last, -, schedulers⟩⟩
    · rw [(grows.schedulers scheduler earlier).2.table,
        (grows.dispatchers dispatcher before).2.table] at same
      exact filed.foreign scheduler dispatcher earlier before same
    · exact older earlier (same.trans last)
    · exact elder before (same.symm.trans fresh)
    · exact old.schedulers.not_has_fresh (schedulers ▸ hasScheduler)

theorem Filed.steps (filed : old.Filed) (steps : Steps scope old new) : new.Filed := by
  induction steps with
  | refl => exact filed
  | tail _ step induction => exact induction.step step

/-- Handles that are destroyed one by one are listed no more. -/
theorem Filed.entries_destroyEach {table : Ref .table} (filed : world.Filed)
    (targets : List (Ref .handle)) :
    ∀ entry ∈ ((targets.foldl (fun world target => world.destroyHandle table target)
      world).tables.get table).entries,
      entry ∈ (world.tables.get table).entries ∧ entry.2 ∉ targets := by
  induction targets generalizing world with
  | nil => exact fun entry member => ⟨member, List.not_mem_nil⟩
  | cons target rest induction =>
      intro entry member
      have step : Step .everything world (world.destroyHandle table target) :=
        .handles (.destroy trivial)
      obtain ⟨left, others⟩ := induction (filed.step step) entry member
      have listed := entries_destroyHandle world table table target left
      refine ⟨listed, fun among => ?_⟩
      rcases List.mem_cons.mp among with rfl | later
      · rw [destroyHandle_tables] at left
        by_cases has : world.tables.Has table
        · rw [Arena.get_modify_self _ has, HandleTable.entries_erase] at left
          have differs := (List.mem_filter.mp left).2
          simp [(filed.entries table entry listed).2] at differs
        · rw [Arena.get_of_not_has fun later => has (Arena.has_modify.mp later)] at left
          exact absurd left List.not_mem_nil
      · exact others later

theorem Filed.destroyAll_self (filed : world.Filed) (table : Ref .table) :
    ((world.destroyAll table).tables.get table).entries = [] := by
  apply List.eq_nil_iff_forall_not_mem.mpr
  intro entry member
  obtain ⟨listed, unlisted⟩ := filed.entries_destroyEach _ entry member
  exact unlisted (List.mem_map_of_mem listed)

/-- No handle is listed in two tables. -/
structure Shelved (world : World) : Prop extends world.Filed where
  single : ∀ handle first second, handle ∈ world.listed first → handle ∈ world.listed second →
    first = second

theorem shelved_initial (looping : Bool) (registry : Registry) :
    (initial looping registry).Shelved :=
  ⟨filed_initial looping registry, fun _ _ _ listed => absurd listed List.not_mem_nil⟩

theorem Filed.not_listed_fresh (filed : world.Filed) (table : Ref .table) :
    world.handles.fresh ∉ world.listed table := by
  intro listed
  obtain ⟨id, member⟩ := HandleTable.mem_handles.mp listed
  exact world.handles.not_has_fresh (filed.entries table _ member).1

theorem Step.listed {table : Ref .table} {handle : Ref .handle} (step : Step scope old new)
    (listed : handle ∈ new.listed table) :
    handle ∈ old.listed table ∨ ∃ id, NewlyListed table (id, handle) old new := by
  obtain ⟨id, member⟩ := HandleTable.mem_handles.mp listed
  rcases step.entries member with earlier | newly
  · exact .inl (HandleTable.mem_handles.mpr ⟨id, earlier⟩)
  · exact .inr ⟨id, newly⟩

/-- A new handle is listed in a single table. -/
theorem NewlyListed.single {table other : Ref .table} {id : Nat} {handle : Ref .handle}
    (newly : NewlyListed table (id, handle) old new) (filed : old.Filed)
    (listed : handle ∈ new.listed other) : other = table := by
  obtain rfl : handle = old.handles.fresh := newly.fresh
  apply Decidable.byContradiction
  intro differs
  rw [World.listed, newly.tables, Arena.get_modify_of_ne _ _ differs] at listed
  exact filed.not_listed_fresh other listed

theorem Shelved.step (shelved : old.Shelved) (step : Step scope old new) : new.Shelved := by
  refine ⟨shelved.toFiled.step step, fun handle first second inFirst inSecond => ?_⟩
  rcases step.listed inFirst with one | ⟨id, newly⟩
  · rcases step.listed inSecond with other | ⟨id, newly⟩
    · exact shelved.single handle first second one other
    · exact newly.single shelved.toFiled inFirst
  · exact (newly.single shelved.toFiled inSecond).symm

theorem Shelved.steps (shelved : old.Shelved) (steps : Steps scope old new) : new.Shelved := by
  induction steps with
  | refl => exact shelved
  | tail _ step induction => exact induction.step step

/-- As long as no handle is added, no table lists more than before. -/
theorem Steps.entries (steps : Steps scope old new)
    (same : new.handles.items.length = old.handles.items.length) (table : Ref .table) :
    (new.tables.get table).entries ⊆ (old.tables.get table).entries := by
  induction steps with
  | refl => exact List.Subset.refl _
  | @tail middle last earlier step induction =>
      have first := (Steps.grows earlier).handles.size
      have second := step.grows.handles.size
      intro entry member
      rcases step.entries member with before | newly
      · exact induction (by omega) before
      · have has : entry.2.index < last.handles.items.length := newly.numbers.1
        rw [newly.fresh] at has
        simp only [Arena.fresh] at has
        omega

/-- A new dispatcher has the table that has been made for it. -/
theorem Steps.dispatcher_table {target : Ref .dispatcher} (steps : Steps scope old new)
    (missing : ¬ old.dispatchers.Has target) (arrives : new.dispatchers.Has target) :
    ¬ old.tables.Has (new.dispatchers.get target).table := by
  induction steps with
  | refl => exact absurd arrives missing
  | @tail middle last earlier step induction =>
      by_cases before : middle.dispatchers.Has target
      · rw [(step.grows.dispatchers target before).2.table]
        exact induction before
      · rcases step.dispatcher_table arrives with already | ⟨fresh, -, -⟩
        · exact absurd already before
        · rw [fresh]
          intro has
          exact middle.tables.not_has_fresh ((Steps.grows earlier).tables _ has).1

/-- A new scheduler has the table that has been made for it. -/
theorem Steps.scheduler_table {target : Ref .scheduler} (steps : Steps scope old new)
    (missing : ¬ old.schedulers.Has target) (arrives : new.schedulers.Has target) :
    ¬ old.tables.Has (new.schedulers.get target).table := by
  induction steps with
  | refl => exact absurd arrives missing
  | @tail middle last earlier step induction =>
      by_cases before : middle.schedulers.Has target
      · rw [(step.grows.schedulers target before).2.table]
        exact induction before
      · rcases step.scheduler_table arrives with already | ⟨-, fresh⟩
        · exact absurd already before
        · rw [fresh]
          intro has
          exact middle.tables.not_has_fresh ((Steps.grows earlier).tables _ has).1

/-- Without a new handle, a scheduler lists nothing that it has not listed before. -/
theorem Steps.listing {scheduler : Ref .scheduler} (steps : Steps scope old new)
    (same : new.handles.items.length = old.handles.items.length)
    (has : new.schedulers.Has scheduler) :
    ∀ entry ∈ new.listing scheduler,
      old.schedulers.Has scheduler ∧ entry ∈ old.listing scheduler := by
  intro entry member
  have earlier := steps.entries same _ member
  by_cases before : old.schedulers.Has scheduler
  · rw [((Steps.grows steps).schedulers scheduler before).2.table] at earlier
    exact ⟨before, earlier⟩
  · rw [Arena.get_of_not_has (steps.scheduler_table before has)] at earlier
    exact absurd earlier List.not_mem_nil

end World

end Microboard
