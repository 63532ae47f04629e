import Microboard.Proofs.Dispatcher.Upkeep
import Microboard.Proofs.Machine.Destroying
import Mathlib.Data.List.Nodup

/-!
# Inventories

The inventory of a table is the list of all handles that it has created, the oldest first.
They have the numbers from one on, and the table lists those that have not been destroyed.
A call that lists a callback adds one handle; everything else leaves the inventory as it is,
as long as the handles on it are destroyed through their own table.
-/

namespace Microboard

namespace World

variable {world old new : World} {scope : Scope} {table shelf : Ref .table}
variable {handle target : Ref .handle} {issued : List (Ref .handle)}

/-- A callback has been listed, as a new handle under the next number of a table. -/
structure Issues (shelf : Ref .table) (old new : World) : Prop where
  handles : ∃ handle : Handle, new.handles = old.handles.push handle ∧
    handle.id = (old.tables.get shelf).next ∧ handle.isDestroyed = false
  tables : new.tables = old.tables.modify shelf (·.insert old.handles.fresh)

theorem Enrols.issues {kind : String} {callback : Value}
    (enrols : Enrols shelf kind callback old new) : Issues shelf old new :=
  ⟨⟨_, enrols.handles, rfl, rfl⟩, enrols.tables⟩

namespace Issues

theorem handles_grow (issues : Issues shelf old new) (handle : Ref .handle)
    (has : old.handles.Has handle) :
    new.handles.Has handle ∧ new.handles.get handle = old.handles.get handle := by
  obtain ⟨⟨record, handles, -⟩, -⟩ := issues
  rw [handles]
  exact ⟨Arena.has_push has, Arena.get_push_of_has has⟩

theorem destroyed_iff (issues : Issues shelf old new) (has : old.handles.Has handle) :
    new.Destroyed handle ↔ old.Destroyed handle := by
  rw [Destroyed, (issues.handles_grow handle has).2, Destroyed]

theorem number_kept (issues : Issues shelf old new) (has : old.handles.Has handle) :
    new.number handle = old.number handle :=
  congrArg Handle.id (issues.handles_grow handle has).2

theorem has_fresh (issues : Issues shelf old new) : new.handles.Has old.handles.fresh := by
  obtain ⟨⟨record, handles, -⟩, -⟩ := issues
  rw [handles]
  exact Arena.has_push_fresh _ _

/-- The new handle has the next number of its table, and it has not been destroyed. -/
theorem fresh (issues : Issues shelf old new) :
    ¬ new.Destroyed old.handles.fresh ∧
      new.number old.handles.fresh = (old.tables.get shelf).next := by
  obtain ⟨⟨record, handles, number, lives⟩, -⟩ := issues
  have same : new.handles.get old.handles.fresh = record := by
    rw [handles, Arena.get_push_fresh]
  rw [Destroyed, World.number, same, lives]
  exact ⟨Bool.false_ne_true, number⟩

end Issues

theorem callMethod_issues {method : Method} (arguments : Arguments)
    (lists : world.lists? method = some shelf) :
    (world.callMethod method arguments).1 = world ∨
      Issues shelf world (world.callMethod method arguments).1 := by
  have loops (target : Ref .scheduler) (callback : Value) :
      (world.startLoop target callback).1 = world ∨
        Issues (world.schedulers.get target).table world (world.startLoop target callback).1 := by
    rcases startLoop_cases world target callback with ⟨fault, failed⟩ | ⟨new, enrols, started⟩
    · exact .inl (congrArg Prod.fst failed)
    · exact .inr (started ▸ enrols.issues)
  have handlers (target : Ref .dispatcher) (button handler : Value) :
      (world.registerHandler target button handler).1 = world ∨
        Issues (world.dispatchers.get target).table world
          (world.registerHandler target button handler).1 := by
    rcases registerHandler_cases world target button handler with
      ⟨fault, failed⟩ | ⟨kind, new, -, enlists, registered⟩
    · exact .inl (congrArg Prod.fst failed)
    · exact .inr (registered ▸ enlists.toEnrols.issues)
  cases Lists.of_lists? lists with
  | create =>
      simp only [callMethod, callTable]
      rcases createHandle_cases world shelf (arguments.get 0 "callback")
          (arguments.get 1 "kind").plain with ⟨fault, failed⟩ | ⟨trace, -, created⟩
      · rw [failed]
        exact .inl rfl
      · rw [created]
        exact .inr ⟨⟨_, rfl, rfl, rfl⟩, rfl⟩
  | register | forever => exact loops _ _
  | handle | onButtonPressed => exact handlers _ _ _

/-- What a table lists has not been destroyed. -/
def Lively (world : World) (table : Ref .table) : Prop :=
  ∀ handle ∈ world.listed table, ¬ world.Destroyed handle

theorem destroyEach_get_of_not_mem (targets : List (Ref .handle)) (spared : handle ∉ targets) :
    (targets.foldl (fun world target => world.destroyHandle shelf target) world).handles.get
      handle = world.handles.get handle := by
  induction targets generalizing world with
  | nil => rfl
  | cons target rest induction =>
      obtain ⟨differs, others⟩ := not_or.mp (mt List.mem_cons.mpr spared)
      rw [List.foldl_cons, induction others, destroyHandle_handles,
        Arena.get_modify_of_ne _ _ differs]

/-- Destroying all that a table lists leaves every other handle as it is. -/
theorem destroyAll_get_of_unlisted (unlisted : handle ∉ world.listed shelf) :
    (world.destroyAll shelf).handles.get handle = world.handles.get handle :=
  destroyEach_get_of_not_mem _ unlisted

theorem destroyed_activate (world : World) (target handle : Ref .handle) :
    (world.activate target).Destroyed handle ↔ world.Destroyed handle := by
  have same : ∀ item : Handle, (item.activate?.getD item).isDestroyed = item.isDestroyed := by
    intro item
    unfold Handle.activate?
    by_cases destroyed : item.isDestroyed = true
    · simp [destroyed]
    · rw [if_neg destroyed, Option.getD_some, Bool.eq_false_iff.mpr destroyed]
      rfl
  rw [Destroyed, Destroyed, activate, setHandle,
    world.handles.get_modify_field Handle.isDestroyed _ same]

theorem destroyed_storeFailure (world : World) (target handle : Ref .handle) (cause : Value) :
    (world.storeFailure target cause).1.Destroyed handle ↔ world.Destroyed handle := by
  have same := world.handles.get_modify_field Handle.isDestroyed
    (·.recordFailure (world.storeFailure target cause).2) (fun _ => rfl) target handle
  exact iff_of_eq (congrArg (· = true) same)

theorem HandleStep.lively (step : HandleStep scope old new) (shelved : old.Shelved)
    (lively : old.Lively table) (calm : ∀ shelf target, ¬ scope.destroys shelf target) :
    new.Lively table := by
  cases step with
  | create other callback kind =>
      intro handle member
      have step : Step scope old (old.createHandle other callback kind).1 :=
        .handles (.create old other callback kind)
      rcases createHandle_cases old other callback kind with
        ⟨fault, failed⟩ | ⟨trace, -, created⟩
      · rw [failed] at member ⊢
        exact lively handle member
      · rw [Destroyed, created]
        rcases step.listed member with earlier | ⟨id, newly⟩
        · obtain ⟨id, entry⟩ := HandleTable.mem_handles.mp earlier
          rw [Arena.get_push_of_has (shelved.entries table _ entry).1]
          exact lively handle earlier
        · obtain rfl : handle = old.handles.fresh := newly.fresh
          rw [Arena.get_push_fresh]
          exact Bool.false_ne_true
  | activate target =>
      intro handle member
      rw [destroyed_activate]
      exact lively handle member
  | storeFailure target cause =>
      intro handle member
      rw [destroyed_storeFailure]
      exact lively handle member
  | destroy inside => exact absurd inside (calm _ _)
  | destroyAll other =>
      by_cases own : other = table
      · subst own
        intro handle member
        rw [World.listed, HandleTable.handles, shelved.destroyAll_self other] at member
        exact absurd member List.not_mem_nil
      · intro handle member
        rw [World.listed, destroyAll_get_of_ne own] at member
        rw [Destroyed, destroyAll_get_of_unlisted fun listed =>
          own (shelved.single handle other table listed member)]
        exact lively handle member

theorem Step.lively (step : Step scope old new) (shelved : old.Shelved)
    (lively : old.Lively table) (calm : ∀ shelf target, ¬ scope.destroys shelf target) :
    new.Lively table := by
  have pushed (tables : new.tables = old.tables.push .initial)
      (handles : new.handles = old.handles) : new.Lively table := by
    intro handle member
    rw [Destroyed, handles]
    rcases step.listed member with earlier | ⟨id, newly⟩
    · exact lively handle earlier
    · have has : old.handles.Has handle := handles ▸ newly.numbers.1
      obtain rfl : handle = old.handles.fresh := newly.fresh
      exact absurd has (Arena.not_has_fresh _)
  cases step with
  | handles step => exact step.lively shelved lively calm
  | newTable | newScheduler | newDispatcher => exact pushed rfl rfl
  | _ => exact lively

theorem Steps.lively (steps : Steps scope old new) (shelved : old.Shelved)
    (lively : old.Lively table) (calm : ∀ shelf target, ¬ scope.destroys shelf target) :
    new.Lively table := by
  induction steps with
  | refl => exact lively
  | tail earlier step induction => exact step.lively (shelved.steps earlier) induction calm

/-- Where a table stands in giving out numbers: a new one begins at one. -/
def Counts (world : World) (table : Ref .table) (count : Nat) : Prop :=
  if world.tables.Has table then (world.tables.get table).next = count + 1 else count = 0

theorem Counts.push {count : Nat} (counts : old.Counts table count)
    (tables : new.tables = old.tables.push .initial) : new.Counts table count := by
  unfold Counts at *
  rw [tables]
  by_cases before : old.tables.Has table
  · rw [if_pos before] at counts
    rw [if_pos (Arena.has_push before), Arena.get_push_of_has before]
    exact counts
  · rw [if_neg before] at counts
    subst counts
    split
    next has =>
      obtain rfl := (Arena.has_or_fresh has).resolve_left before
      rw [Arena.get_push_fresh]
      rfl
    next => rfl

theorem Counts.erase {count id : Nat} (counts : old.Counts table count)
    (tables : new.tables = old.tables.modify shelf (·.erase id)) : new.Counts table count := by
  unfold Counts at *
  rw [tables, old.tables.get_modify_field HandleTable.next (·.erase id) fun _ => rfl]
  simpa only [Arena.has_modify] using counts

theorem Counts.destroyAll {count : Nat} (counts : world.Counts table count) (shelf : Ref .table) :
    (world.destroyAll shelf).Counts table count := by
  unfold World.destroyAll
  generalize (world.tables.get shelf).handles = targets
  induction targets generalizing world with
  | nil => exact counts
  | cons target rest induction =>
      exact induction (counts.erase (destroyHandle_tables world shelf target))

theorem Step.counts {count : Nat} (step : Step scope old new) (counts : old.Counts table count)
    (same : new.handles.items.length = old.handles.items.length) : new.Counts table count := by
  cases step with
  | handles step =>
      cases step with
      | create other callback kind =>
          rcases createHandle_cases old other callback kind with
            ⟨fault, failed⟩ | ⟨trace, -, created⟩
          · rw [failed]
            exact counts
          · rw [created] at same
            simp [Arena.push] at same
      | activate target | storeFailure target cause => exact counts
      | destroy inside => exact counts.erase (destroyHandle_tables _ _ _)
      | destroyAll other => exact counts.destroyAll other
  | newTable | newScheduler | newDispatcher => exact counts.push rfl
  | _ => exact counts

/-- Without a new handle, a table gives out no number. -/
theorem Steps.counts {count : Nat} (steps : Steps scope old new)
    (counts : old.Counts table count)
    (same : new.handles.items.length = old.handles.items.length) : new.Counts table count := by
  induction steps with
  | refl => exact counts
  | @tail middle last earlier step induction =>
      have first := (Steps.grows earlier).handles.size
      have second := step.grows.handles.size
      exact step.counts (induction (by omega)) (by omega)

/-- All handles that a table has created, the oldest first. -/
structure Inventory (world : World) (table : Ref .table) (issued : List (Ref .handle)) :
    Prop where
  has : ∀ handle ∈ issued, world.handles.Has handle
  numbers : issued.map world.number = List.range' 1 issued.length
  counts : world.Counts table issued.length
  listed : ∀ handle, handle ∈ world.listed table ↔ handle ∈ issued ∧ ¬ world.Destroyed handle

namespace Inventory

theorem initial (looping : Bool) (registry : Registry) (table : Ref .table) :
    (World.initial looping registry).Inventory table [] where
  has _ member := absurd member List.not_mem_nil
  numbers := rfl
  counts := rfl
  listed handle := by
    constructor
    · exact fun listed => absurd listed List.not_mem_nil
    · exact fun given => absurd given.1 List.not_mem_nil

theorem number_inj (inventory : world.Inventory table issued) {first second : Ref .handle}
    (one : first ∈ issued) (other : second ∈ issued)
    (same : world.number first = world.number second) : first = second := by
  have distinct : (issued.map world.number).Nodup := by
    rw [inventory.numbers]
    exact List.nodup_range'
  exact List.inj_on_of_nodup_map distinct one other same

theorem numbers_kept (inventory : old.Inventory table issued)
    (kept : ∀ handle ∈ issued, new.number handle = old.number handle) :
    issued.map new.number = List.range' 1 issued.length :=
  (List.map_congr_left kept).trans inventory.numbers

/-- Destroying all that a table lists destroys all that it has created. -/
theorem swept (inventory : world.Inventory table issued) (member : handle ∈ issued) :
    (world.destroyAll table).Destroyed handle := by
  have there := inventory.has handle member
  by_cases destroyed : world.Destroyed handle
  · exact ((grows_destroyAll world table).handles handle there).2.destroyed destroyed
  · exact destroyed_of_destroyAll there ((inventory.listed handle).mpr ⟨member, destroyed⟩)

/-- Nothing is added to the inventory but by a call that lists a callback. -/
theorem quiet (inventory : old.Inventory table issued) (shelved : old.Shelved)
    (steps : Steps scope old new) (calm : ∀ shelf target, ¬ scope.destroys shelf target)
    (same : new.handles.items.length = old.handles.items.length) :
    new.Inventory table issued := by
  have grows := Steps.grows steps
  constructor
  case has => exact fun handle member => (grows.handles handle (inventory.has handle member)).1
  case numbers =>
    exact inventory.numbers_kept fun handle member =>
      (grows.handles handle (inventory.has handle member)).2.id
  case counts => exact steps.counts inventory.counts same
  case listed =>
    intro handle
    constructor
    · intro listed
      have lively : old.Lively table := fun other member => ((inventory.listed other).mp member).2
      have earlier : handle ∈ old.listed table :=
        List.map_subset Prod.snd (steps.entries same table) listed
      exact ⟨((inventory.listed handle).mp earlier).1,
        steps.lively shelved lively calm handle listed⟩
    · rintro ⟨member, lives⟩
      have has := inventory.has handle member
      have before : ¬ old.Destroyed handle :=
        mt (grows.handles handle has).2.destroyed lives
      have holds : old.Holds table handle := .inr ((inventory.listed handle).mpr ⟨member, before⟩)
      exact (steps.holds holds has (calm table)).resolve_left lives

/-- A table that lists a callback adds the new handle to its inventory. -/
theorem issues_own (inventory : old.Inventory table issued) (issues : Issues table old new)
    (stands : old.tables.Has table) : new.Inventory table (issued ++ [old.handles.fresh]) := by
  have row : new.tables.get table = (old.tables.get table).insert old.handles.fresh := by
    rw [issues.tables, Arena.get_modify_self _ stands]
  have next : (old.tables.get table).next = issued.length + 1 := by
    simpa only [Counts, if_pos stands] using inventory.counts
  obtain ⟨lives, number⟩ := issues.fresh
  have grows := issues.handles_grow
  have earlier : issued.map new.number = List.range' 1 issued.length :=
    inventory.numbers_kept fun handle member => issues.number_kept (inventory.has handle member)
  constructor
  case has =>
    intro handle member
    rcases List.mem_append.mp member with earlier | last
    · exact (grows handle (inventory.has handle earlier)).1
    · rw [List.mem_singleton.mp last]
      exact issues.has_fresh
  case numbers =>
    rw [List.map_append, List.map_singleton, number, next, earlier, List.length_append,
      List.length_singleton, List.range'_1_concat, Nat.add_comm]
  case counts =>
    have still : new.tables.Has table := issues.tables ▸ Arena.has_modify.mpr stands
    rw [Counts, if_pos still, row, HandleTable.insert, next, List.length_append,
      List.length_singleton]
  case listed =>
    intro handle
    have listing : new.listed table = old.listed table ++ [old.handles.fresh] := by
      rw [World.listed, row, HandleTable.handles_insert]
      rfl
    rw [listing, List.mem_append, List.mem_append, inventory.listed, List.mem_singleton]
    constructor
    · rintro (⟨member, alive⟩ | rfl)
      · exact ⟨.inl member, mt (issues.destroyed_iff (inventory.has handle member)).mp alive⟩
      · exact ⟨.inr rfl, lives⟩
    · rintro ⟨member | rfl, alive⟩
      · exact .inl ⟨member, mt (issues.destroyed_iff (inventory.has handle member)).mpr alive⟩
      · exact .inr rfl

/-- A callback that another table lists, or a table that does not exist, adds nothing. -/
theorem issues_elsewhere (inventory : old.Inventory table issued) (issues : Issues shelf old new)
    (other : ¬ (shelf = table ∧ old.tables.Has table)) : new.Inventory table issued := by
  have row : new.tables.get table = old.tables.get table := by
    rw [issues.tables]
    by_cases same : table = shelf
    · subst same
      have missing : ¬ old.tables.Has table := fun has => other ⟨rfl, has⟩
      rw [Arena.get_of_not_has missing,
        Arena.get_of_not_has fun later => missing (Arena.has_modify.mp later)]
    · exact Arena.get_modify_of_ne _ _ same
  constructor
  case has =>
    exact fun handle member => (issues.handles_grow handle (inventory.has handle member)).1
  case numbers =>
    refine inventory.numbers_kept fun handle member => ?_
    exact issues.number_kept (inventory.has handle member)
  case counts =>
    have counts := inventory.counts
    unfold Counts at *
    rw [row, issues.tables]
    simpa only [Arena.has_modify] using counts
  case listed =>
    intro handle
    have listing : new.listed table = old.listed table := congrArg HandleTable.handles row
    rw [listing, inventory.listed]
    apply and_congr_right
    intro member
    exact not_congr (issues.destroyed_iff (inventory.has handle member)).symm

theorem issues (inventory : old.Inventory table issued) (issues : Issues shelf old new) :
    new.Inventory table
      (issued ++ if shelf = table ∧ old.tables.Has table then [old.handles.fresh] else []) := by
  by_cases own : shelf = table ∧ old.tables.Has table
  · obtain ⟨rfl, stands⟩ := own
    rw [if_pos ⟨rfl, stands⟩]
    exact inventory.issues_own issues stands
  · rw [if_neg own, List.append_nil]
    exact inventory.issues_elsewhere issues own

/-- A table that is asked to destroy a handle of its own strikes off this handle only. -/
theorem mem_listed_struck (inventory : old.Inventory table issued) (filed : old.Filed)
    (own : target ∈ issued)
    (tables : new.tables = old.tables.modify table (·.erase (old.number target))) :
    handle ∈ new.listed table ↔ handle ∈ old.listed table ∧ handle ≠ target := by
  simp only [World.listed, HandleTable.mem_handles, mem_entries_erased tables]
  constructor
  · rintro ⟨id, entry, differs⟩
    refine ⟨⟨id, entry⟩, ?_⟩
    rintro rfl
    exact differs (filed.numbered entry)
  · rintro ⟨⟨id, entry⟩, differs⟩
    refine ⟨id, entry, fun shared => differs ?_⟩
    rw [filed.numbered entry] at shared
    have listed : handle ∈ old.listed table := HandleTable.mem_handles.mpr ⟨id, entry⟩
    exact inventory.number_inj ((inventory.listed handle).mp listed).1 own shared

/-- A handle is destroyed through its own table, or it is not one of this table. -/
theorem destroys (inventory : old.Inventory table issued) (filed : old.Filed)
    (own : shelf = table ↔ target ∈ issued)
    (handles : new.handles = old.handles.modify target Handle.destroy)
    (tables : new.tables = old.tables.modify shelf (·.erase (old.number target))) :
    new.Inventory table issued := by
  have spared {handle : Ref .handle} (differs : handle ≠ target) :
      new.handles.get handle = old.handles.get handle := by
    rw [handles, Arena.get_modify_of_ne _ _ differs]
  constructor
  case has =>
    intro handle member
    rw [handles]
    exact Arena.has_modify.mpr (inventory.has handle member)
  case numbers =>
    refine inventory.numbers_kept fun handle _ => ?_
    rw [World.number, handles]
    exact old.handles.get_modify_field Handle.id Handle.destroy (fun _ => rfl) target handle
  case counts => exact inventory.counts.erase tables
  case listed =>
    intro handle
    by_cases same : shelf = table
    · subst same
      have member := own.mp rfl
      have gone : new.Destroyed target := by
        rw [Destroyed, handles, Arena.get_modify_self _ (inventory.has target member)]
        rfl
      rw [inventory.mem_listed_struck filed member tables, inventory.listed]
      by_cases last : handle = target
      · subst last
        simp [gone]
      · rw [Destroyed, Destroyed, spared last]
        simp [last]
    · have row : new.tables.get table = old.tables.get table := by
        rw [tables, Arena.get_modify_of_ne _ _ (Ne.symm same)]
      rw [World.listed, row]
      refine (inventory.listed handle).trans (and_congr_right fun member => ?_)
      have differs : handle ≠ target := fun last => same (own.mpr (last ▸ member))
      rw [Destroyed, Destroyed, spared differs]

/-- Those that live are listed in the order of their creation, under their numbers. -/
theorem entries (inventory : world.Inventory table issued) (filed : world.Filed)
    (numbered : (world.tables.get table).Numbered) :
    (world.tables.get table).entries =
      (issued.filter world.alive).map fun handle => (world.number handle, handle) := by
  have own : (world.tables.get table).entries =
      (world.listed table).map fun handle => (world.number handle, handle) := by
    rw [World.listed, HandleTable.handles, List.map_map]
    refine (List.map_id _).symm.trans (List.map_congr_left fun entry member => ?_)
    exact Prod.ext (filed.numbered member) rfl
  have ascending : (world.listed table).Pairwise fun first second =>
      world.number first < world.number second := by
    have listed := numbered.ascending
    rw [own, List.pairwise_map] at listed
    exact listed
  have created : (issued.filter world.alive).Pairwise fun first second =>
      world.number first < world.number second := by
    apply List.Pairwise.filter
    rw [← List.pairwise_map (f := world.number), inventory.numbers]
    exact List.pairwise_lt_range'
  have distinct {handles : List (Ref .handle)}
      (above : handles.Pairwise fun first second => world.number first < world.number second) :
      handles.Nodup :=
    above.imp fun before same => Nat.ne_of_lt before (congrArg world.number same)
  have same : (world.listed table).Perm (issued.filter world.alive) := by
    rw [List.perm_ext_iff_of_nodup (distinct ascending) (distinct created)]
    intro handle
    rw [inventory.listed, List.mem_filter, alive_iff]
  rw [own, same.eq_of_pairwise _ ascending created]
  intro first second _ _ before after
  exact absurd (Nat.lt_trans before after) (Nat.lt_irrefl _)

end Inventory

end World

end Microboard
