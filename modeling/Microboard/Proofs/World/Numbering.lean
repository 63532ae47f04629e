import Microboard.Proofs.World.Filed

/-!
# The numbers of a table

A table gives out ascending numbers and never gives one out again.  Asking it to destroy
a handle drops whatever it lists under the number of the handle, so a handle stays
listed until it is destroyed itself or another one with its number is.
-/

namespace Microboard

/-- The numbers of the handles that a table lists ascend and have all been given out. -/
structure HandleTable.Numbered (table : HandleTable) : Prop where
  ascending : table.entries.Pairwise fun first second => first.1 < second.1
  given : ∀ entry ∈ table.entries, entry.1 < table.next

/-- What a table lists was listed before, or has a number that had not been given out. -/
structure HandleTable.Follows (old new : HandleTable) : Prop where
  next : old.next ≤ new.next
  listed : ∀ entry ∈ new.entries, entry ∈ old.entries ∨ old.next ≤ entry.1
  numbered : old.Numbered → new.Numbered

namespace HandleTable

variable {table : HandleTable}

theorem numbered_initial : initial.Numbered :=
  ⟨List.Pairwise.nil, fun _ member => absurd member List.not_mem_nil⟩

theorem Follows.refl (table : HandleTable) : Follows table table :=
  ⟨Nat.le_refl _, fun _ => .inl, id⟩

theorem Follows.trans {first second third : HandleTable} (left : Follows first second)
    (right : Follows second third) : Follows first third where
  next := Nat.le_trans left.next right.next
  listed entry member := by
    rcases right.listed entry member with earlier | late
    · exact left.listed entry earlier
    · exact .inr (Nat.le_trans left.next late)
  numbered given := right.numbered (left.numbered given)

theorem follows_erase (table : HandleTable) (id : Nat) : Follows table (table.erase id) where
  next := Nat.le_refl _
  listed _ member := .inl (List.mem_filter.mp member).1
  numbered numbered :=
    ⟨numbered.ascending.filter _,
      fun entry member => numbered.given entry (List.mem_filter.mp member).1⟩

theorem follows_insert (table : HandleTable) (target : Ref .handle) :
    Follows table (table.insert target) where
  next := Nat.le_succ _
  listed entry member := by
    apply (List.mem_append.mp member).imp_right
    intro last
    obtain rfl := List.mem_singleton.mp last
    exact Nat.le_refl _
  numbered numbered := by
    refine ⟨List.pairwise_append.mpr ⟨numbered.ascending, List.pairwise_singleton _ _, ?_⟩, ?_⟩
    · intro entry member other last
      rw [List.mem_singleton.mp last]
      exact numbered.given entry member
    · intro entry member
      rcases List.mem_append.mp member with earlier | last
      · exact Nat.lt_succ_of_lt (numbered.given entry earlier)
      · rw [List.mem_singleton.mp last]
        exact Nat.lt_succ_self _

theorem Numbered.find? {id : Nat} {handle : Ref .handle} (numbered : table.Numbered)
    (member : (id, handle) ∈ table.entries) : table.find? id = some handle := by
  have ascending := numbered.ascending
  unfold HandleTable.find?
  generalize table.entries = entries at member ascending
  induction entries with
  | nil => cases member
  | cons entry rest induction =>
      obtain ⟨above, others⟩ := List.pairwise_cons.mp ascending
      rcases List.mem_cons.mp member with rfl | later
      · exact List.lookup_cons_self
      · have differs : (id == entry.1) = false := by
          simpa using Nat.ne_of_gt (above _ later)
        rw [List.lookup_cons, differs]
        exact induction later others

theorem Numbered.single {first second : Nat × Ref .handle} (numbered : table.Numbered)
    (one : first ∈ table.entries) (other : second ∈ table.entries)
    (same : first.1 = second.1) : first = second := by
  have found := numbered.find? one
  rw [same, numbered.find? other] at found
  exact Prod.ext same (Option.some.inj found).symm

end HandleTable

namespace World

variable {world old new : World} {scope : Scope} {table other : Ref .table}
variable {target handle : Ref .handle}

theorem follows_modify {change : HandleTable → HandleTable}
    (follows : (old.tables.get other).Follows (change (old.tables.get other)))
    (tables : new.tables = old.tables.modify other change) :
    (old.tables.get table).Follows (new.tables.get table) := by
  rw [tables]
  by_cases own : table = other
  · subst own
    by_cases has : old.tables.Has table
    · rw [Arena.get_modify_self _ has]
      exact follows
    · rw [Arena.get_of_not_has has,
        Arena.get_of_not_has fun later => has (Arena.has_modify.mp later)]
      exact .refl _
  · rw [Arena.get_modify_of_ne _ _ own]
    exact .refl _

theorem follows_destroyHandle (world : World) (other : Ref .table) (target : Ref .handle)
    (table : Ref .table) :
    (world.tables.get table).Follows ((world.destroyHandle other target).tables.get table) :=
  follows_modify (HandleTable.follows_erase _ _) (destroyHandle_tables world other target)

theorem HandleStep.follows (step : HandleStep scope old new) (table : Ref .table) :
    (old.tables.get table).Follows (new.tables.get table) := by
  cases step with
  | create other callback kind =>
      rcases createHandle_cases old other callback kind with
        ⟨fault, failed⟩ | ⟨trace, -, created⟩
      · rw [failed]
        exact .refl _
      · rw [created]
        exact follows_modify (HandleTable.follows_insert _ _) rfl
  | activate target | storeFailure target cause => exact .refl _
  | destroy inside => exact follows_destroyHandle _ _ _ _
  | destroyAll other =>
      unfold World.destroyAll
      generalize (old.tables.get other).handles = handles
      induction handles generalizing old with
      | nil => exact .refl _
      | cons handle rest induction =>
          exact (follows_destroyHandle old other handle table).trans induction

theorem Step.follows (step : Step scope old new) (table : Ref .table) :
    (old.tables.get table).Follows (new.tables.get table) := by
  have pushed : (old.tables.get table).Follows ((old.tables.push .initial).get table) := by
    by_cases has : old.tables.Has table
    · rw [Arena.get_push_of_has has]
      exact .refl _
    · rw [Arena.get_of_not_has has]
      by_cases last : table = old.tables.fresh
      · rw [last, Arena.get_push_fresh]
        exact ⟨Nat.zero_le _, fun _ member => absurd member List.not_mem_nil,
          fun _ => HandleTable.numbered_initial⟩
      · rw [Arena.get_of_not_has fun later => (Arena.has_or_fresh later).elim has last]
        exact .refl _
  cases step with
  | handles step => exact step.follows table
  | newTable | newScheduler | newDispatcher => exact pushed
  | _ => exact .refl _

/-- No table ever gives out a number again. -/
theorem Steps.follows (steps : Steps scope old new) (table : Ref .table) :
    (old.tables.get table).Follows (new.tables.get table) := by
  induction steps with
  | refl => exact .refl _
  | tail _ step induction => exact induction.trans (step.follows table)

theorem destroyed_of_destroyHandle (has : world.handles.Has target) (table : Ref .table) :
    (world.destroyHandle table target).Destroyed target := by
  rw [Destroyed, destroyHandle_handles, Arena.get_modify_self _ has]
  rfl

/-- Destroying all that a table lists reaches each of them. -/
theorem destroyed_of_destroyAll (has : world.handles.Has handle)
    (listed : handle ∈ world.listed table) : (world.destroyAll table).Destroyed handle := by
  unfold World.listed at listed
  unfold destroyAll
  generalize (world.tables.get table).handles = targets at listed
  have swept : world.Destroyed handle ∨ handle ∈ targets := .inr listed
  clear listed
  induction targets generalizing world with
  | nil => exact swept.resolve_right List.not_mem_nil
  | cons target rest induction =>
      have grows := (grows_destroyHandle world table target).handles handle has
      refine induction grows.1 ?_
      rcases swept with destroyed | listed
      · exact .inl (grows.2.destroyed destroyed)
      · apply (List.mem_cons.mp listed).imp_left
        rintro rfl
        exact destroyed_of_destroyHandle has table

/-- The handle is listed, or it has been destroyed. -/
def Holds (world : World) (table : Ref .table) (handle : Ref .handle) : Prop :=
  world.Destroyed handle ∨ handle ∈ world.listed table

theorem Holds.same (holds : old.Holds table handle) (has : old.handles.Has handle)
    (grows : Grows old new) (tables : new.tables.get table = old.tables.get table) :
    new.Holds table handle := by
  apply holds.imp (grows.handles handle has).2.destroyed
  intro listed
  rw [World.listed, tables]
  exact listed

theorem HandleStep.holds (step : HandleStep scope old new) (holds : old.Holds table handle)
    (has : old.handles.Has handle) (spares : ∀ target, ¬ scope.destroys table target) :
    new.Holds table handle := by
  have grows := step.grows
  cases step with
  | create other callback kind =>
      rcases createHandle_cases old other callback kind with
        ⟨fault, failed⟩ | ⟨trace, -, created⟩
      · rw [failed]
        exact holds
      · rw [created] at grows ⊢
        by_cases own : table = other
        · subst own
          apply holds.imp (grows.handles handle has).2.destroyed
          intro listed
          by_cases stands : old.tables.Has table
          · rw [World.listed, Arena.get_modify_self _ stands, HandleTable.handles_insert]
            exact List.mem_append_left _ listed
          · rw [World.listed, Arena.get_of_not_has stands] at listed
            exact absurd listed List.not_mem_nil
        · exact holds.same has grows (Arena.get_modify_of_ne _ _ own)
  | activate target | storeFailure target cause => exact holds.same has grows rfl
  | @destroy other target inside =>
      by_cases own : table = other
      · subst own
        exact absurd inside (spares target)
      · refine holds.same has grows ?_
        rw [destroyHandle_tables, Arena.get_modify_of_ne _ _ own]
  | destroyAll other =>
      by_cases own : other = table
      · subst own
        rcases holds with destroyed | listed
        · exact .inl ((grows.handles handle has).2.destroyed destroyed)
        · exact .inl (destroyed_of_destroyAll has listed)
      · exact holds.same has grows (destroyAll_get_of_ne own)

theorem Step.holds (step : Step scope old new) (holds : old.Holds table handle)
    (has : old.handles.Has handle) (spares : ∀ target, ¬ scope.destroys table target) :
    new.Holds table handle := by
  have grows := step.grows
  have pushed (tables : new.tables = old.tables.push .initial) : new.Holds table handle := by
    by_cases stands : old.tables.Has table
    · exact holds.same has grows (by rw [tables]; exact Arena.get_push_of_has stands)
    · apply holds.imp (grows.handles handle has).2.destroyed
      intro listed
      rw [World.listed, Arena.get_of_not_has stands] at listed
      exact absurd listed List.not_mem_nil
  cases step with
  | handles step => exact step.holds holds has spares
  | newTable | newScheduler | newDispatcher => exact pushed rfl
  | _ => exact holds.same has grows rfl

theorem Steps.holds (steps : Steps scope old new) (holds : old.Holds table handle)
    (has : old.handles.Has handle) (spares : ∀ target, ¬ scope.destroys table target) :
    new.Holds table handle := by
  induction steps with
  | refl => exact holds
  | tail steps step induction =>
      exact step.holds induction ((Steps.grows steps).handles handle has).1 spares

end World

end Microboard
