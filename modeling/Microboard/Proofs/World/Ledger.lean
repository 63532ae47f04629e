import Microboard.Proofs.World.Sound

/-!
# Ledgers

The ledger of a table holds every handle that the table has ever listed.  As long as
the table is asked to destroy none but these, each of them is destroyed or still
listed, so destroying all that is listed leaves none of them alive.
-/

namespace Microboard

theorem HandleTable.mem_handles {table : HandleTable} {handle : Ref .handle} :
    handle ∈ table.handles ↔ ∃ id, (id, handle) ∈ table.entries := by
  simp [HandleTable.handles]

namespace World

def Destroyed (world : World) (handle : Ref .handle) : Prop :=
  (world.handles.get handle).isDestroyed = true

def listed (world : World) (table : Ref .table) : List (Ref .handle) :=
  (world.tables.get table).handles

/-- What is known of a table and of all handles that it has ever listed. -/
structure Ledger (table : Ref .table) (known : Ref .handle → Prop) (world : World) :
    Prop where
  listed : ∀ handle ∈ world.listed table, known handle
  has : ∀ handle, known handle → world.handles.Has handle
  below : ∀ handle, known handle →
    (world.handles.get handle).id < (world.tables.get table).next
  single : ∀ handle other, known handle → known other →
    (world.handles.get handle).id = (world.handles.get other).id → handle = other
  entry : ∀ id handle, (id, handle) ∈ (world.tables.get table).entries →
    id = (world.handles.get handle).id
  kept : ∀ handle, known handle → world.Destroyed handle ∨ handle ∈ world.listed table

theorem ledger_initial (looping : Bool) (registry : Registry) (table : Ref .table) :
    (initial looping registry).Ledger table fun _ => False where
  listed _ member := absurd member List.not_mem_nil
  has _ known := known.elim
  below _ known := known.elim
  single _ _ known := known.elim
  entry _ _ member := absurd member List.not_mem_nil
  kept _ known := known.elim

variable {table : Ref .table} {known : Ref .handle → Prop} {world old new : World}

/-- A table that drops some of its entries keeps its ledger, provided that what it drops is
destroyed. -/
theorem Ledger.shrinks (ledger : old.Ledger table known)
    (handles : old.handles.Grows Handle.Succeeds new.handles)
    (next : (new.tables.get table).next = (old.tables.get table).next)
    (entries : (new.tables.get table).entries ⊆ (old.tables.get table).entries)
    (dropped : ∀ handle, known handle → handle ∈ old.listed table →
      new.Destroyed handle ∨ handle ∈ new.listed table) : new.Ledger table known := by
  have number (handle : Ref .handle) (given : known handle) :
      (new.handles.get handle).id = (old.handles.get handle).id :=
    (handles handle (ledger.has handle given)).2.id
  constructor
  case listed =>
    intro handle member
    obtain ⟨id, entry⟩ := HandleTable.mem_handles.mp member
    exact ledger.listed handle (HandleTable.mem_handles.mpr ⟨id, entries entry⟩)
  case has => exact fun handle given => (handles handle (ledger.has handle given)).1
  case below =>
    intro handle given
    rw [number handle given, next]
    exact ledger.below handle given
  case single =>
    intro handle other first second equal
    rw [number handle first, number other second] at equal
    exact ledger.single handle other first second equal
  case entry =>
    intro id handle member
    have earlier := entries member
    have given := ledger.listed handle (HandleTable.mem_handles.mpr ⟨id, earlier⟩)
    rw [number handle given]
    exact ledger.entry id handle earlier
  case kept =>
    intro handle given
    rcases ledger.kept handle given with destroyed | member
    · exact .inl ((handles handle (ledger.has handle given)).2.destroyed destroyed)
    · exact dropped handle given member

theorem Ledger.grows (ledger : old.Ledger table known)
    (handles : old.handles.Grows Handle.Succeeds new.handles)
    (same : new.tables.get table = old.tables.get table) : new.Ledger table known := by
  refine ledger.shrinks handles (by rw [same]) (by rw [same]; exact List.Subset.refl _) ?_
  intro handle _ member
  apply Or.inr
  rw [World.listed, same]
  exact member

theorem Ledger.untouched (ledger : old.Ledger table known) (handles : new.handles = old.handles)
    (tables : new.tables = old.tables) : new.Ledger table known :=
  ledger.grows (handles ▸ .refl Handle.Succeeds.refl _) (by rw [tables])

theorem Ledger.newTable (ledger : old.Ledger table known) (handles : new.handles = old.handles)
    (tables : new.tables = old.tables.push .initial) : new.Ledger table known := by
  by_cases has : old.tables.Has table
  · exact ledger.grows (handles ▸ .refl Handle.Succeeds.refl _)
      (by rw [tables]; exact Arena.get_push_of_has has)
  · have nobody (handle : Ref .handle) (given : known handle) : False := by
      have below := ledger.below handle given
      rw [Arena.get_of_not_has has] at below
      exact Nat.not_lt_zero _ below
    have empty : (new.tables.get table).entries = [] := by
      rw [tables]
      by_cases fresh : table = old.tables.fresh
      · rw [fresh, Arena.get_push_fresh]
        rfl
      · rw [Arena.get_of_not_has fun later => (Arena.has_or_fresh later).elim has fresh]
        rfl
    constructor
    case listed =>
      intro handle member
      rw [World.listed, HandleTable.handles, empty] at member
      exact absurd member List.not_mem_nil
    case entry =>
      intro id handle member
      rw [empty] at member
      exact absurd member List.not_mem_nil
    case has | below | kept => exact fun handle given => (nobody handle given).elim
    case single => exact fun handle _ given => (nobody handle given).elim

theorem Ledger.mem_destroyHandle (ledger : world.Ledger table known) {target handle : Ref .handle}
    (given : known target) :
    handle ∈ (world.destroyHandle table target).listed table ↔
      handle ∈ world.listed table ∧ handle ≠ target := by
  by_cases has : world.tables.Has table
  · have entries : ((world.destroyHandle table target).tables.get table).entries =
        (world.tables.get table).entries.filter
          fun entry => entry.1 ≠ (world.handles.get target).id := by
      rw [destroyHandle_tables, Arena.get_modify_self _ has]
      exact HandleTable.entries_erase _ _
    simp only [World.listed, HandleTable.mem_handles, entries, List.mem_filter,
      decide_eq_true_eq]
    constructor
    · rintro ⟨id, member, differs⟩
      refine ⟨⟨id, member⟩, fun same => differs ?_⟩
      rw [ledger.entry id handle member, same]
    · rintro ⟨⟨id, member⟩, differs⟩
      refine ⟨id, member, fun same => differs ?_⟩
      refine ledger.single handle target ?_ given ((ledger.entry id handle member) ▸ same)
      exact ledger.listed handle (HandleTable.mem_handles.mpr ⟨id, member⟩)
  · have before : world.listed table = [] :=
      congrArg HandleTable.handles (Arena.get_of_not_has has)
    have after : (world.destroyHandle table target).listed table = [] := by
      refine congrArg HandleTable.handles (Arena.get_of_not_has fun later => has ?_)
      rw [destroyHandle_tables, Arena.has_modify] at later
      exact later
    rw [before, after]
    simp

theorem Ledger.destroy (ledger : world.Ledger table known) {other : Ref .table}
    {target : Ref .handle} (given : other = table → known target) :
    (world.destroyHandle other target).Ledger table known := by
  have handles := (grows_destroyHandle world other target).handles
  by_cases own : other = table
  · subst own
    refine ledger.shrinks handles ?_ ?_ ?_
    · rw [destroyHandle_tables]
      exact world.tables.get_modify_field HandleTable.next
        (·.erase (world.handles.get target).id) (fun _ => rfl) other other
    · intro entry member
      rw [destroyHandle_tables] at member
      by_cases has : world.tables.Has other
      · rw [Arena.get_modify_self _ has] at member
        exact (List.mem_filter.mp member).1
      · rw [Arena.get_of_not_has fun later => has (Arena.has_modify.mp later)] at member
        exact absurd member List.not_mem_nil
    · intro handle present member
      by_cases same : handle = target
      · subst same
        apply Or.inl
        rw [Destroyed, destroyHandle_handles,
          Arena.get_modify_self _ (ledger.has handle present)]
        rfl
      · exact .inr ((ledger.mem_destroyHandle (given rfl)).mpr ⟨member, same⟩)
  · apply ledger.grows handles
    rw [destroyHandle_tables]
    exact Arena.get_modify_of_ne _ _ (Ne.symm own)

theorem Ledger.destroyEach (ledger : world.Ledger table known) (targets : List (Ref .handle))
    (given : ∀ target ∈ targets, known target) :
    (targets.foldl (fun world target => world.destroyHandle table target) world).Ledger
        table known ∧
      ∀ handle, handle ∈ (targets.foldl (fun world target => world.destroyHandle table target)
          world).listed table ↔ handle ∈ world.listed table ∧ handle ∉ targets := by
  induction targets generalizing world with
  | nil => exact ⟨ledger, fun handle => by simp⟩
  | cons target rest induction =>
      have first := given target List.mem_cons_self
      obtain ⟨after, members⟩ := induction (ledger.destroy fun _ => first)
        fun other member => given other (List.mem_cons_of_mem _ member)
      refine ⟨after, ?_⟩
      intro handle
      rw [List.foldl_cons, members, ledger.mem_destroyHandle first, List.mem_cons]
      simp only [not_or, and_assoc]

/-- Destroying all that a table lists keeps its ledger and leaves it empty, and nothing
that the table has ever listed is alive. -/
theorem Ledger.destroyAll_self (ledger : world.Ledger table known) :
    (world.destroyAll table).Ledger table known ∧
      (world.destroyAll table).listed table = [] ∧
      ∀ handle, known handle → (world.destroyAll table).Destroyed handle := by
  obtain ⟨after, members⟩ := ledger.destroyEach (world.listed table) ledger.listed
  have empty : (world.destroyAll table).listed table = [] := by
    apply List.eq_nil_iff_forall_not_mem.mpr
    intro handle member
    obtain ⟨before, gone⟩ := (members handle).mp member
    exact gone before
  refine ⟨after, empty, ?_⟩
  intro handle given
  apply (after.kept handle given).resolve_right
  intro member
  exact absurd (show handle ∈ (world.destroyAll table).listed table from member) (by simp [empty])

theorem destroyAll_get_of_ne {other : Ref .table} (differs : other ≠ table) :
    (world.destroyAll other).tables.get table = world.tables.get table := by
  unfold destroyAll
  generalize (world.tables.get other).handles = targets
  induction targets generalizing world with
  | nil => rfl
  | cons target rest induction =>
      rw [List.foldl_cons, induction, destroyHandle_tables]
      exact Arena.get_modify_of_ne _ _ (Ne.symm differs)

theorem Ledger.destroyAll (ledger : world.Ledger table known) (other : Ref .table) :
    (world.destroyAll other).Ledger table known := by
  by_cases own : other = table
  · rw [own]
    exact ledger.destroyAll_self.1
  · exact ledger.grows (grows_destroyAll world other).handles (destroyAll_get_of_ne own)

theorem Ledger.insert (ledger : old.Ledger table known) (has : old.tables.Has table)
    {kind : String} {callback : Value}
    (handles : new.handles =
      old.handles.push (.registered (old.tables.get table).next kind callback))
    (tables : new.tables = old.tables.modify table (·.insert old.handles.fresh)) :
    new.Ledger table fun handle => known handle ∨ handle = old.handles.fresh := by
  have row : new.tables.get table = (old.tables.get table).insert old.handles.fresh := by
    rw [tables, Arena.get_modify_self _ has]
  have listing : new.listed table = old.listed table ++ [old.handles.fresh] := by
    rw [World.listed, row, HandleTable.handles_insert]
    rfl
  have before {handle : Ref .handle} (given : known handle) :
      new.handles.get handle = old.handles.get handle := by
    rw [handles, Arena.get_push_of_has (ledger.has handle given)]
  have fresh : (new.handles.get old.handles.fresh).id = (old.tables.get table).next := by
    rw [handles, Arena.get_push_fresh]
    rfl
  constructor
  case listed =>
    intro handle member
    rw [listing] at member
    apply (List.mem_append.mp member).imp (ledger.listed handle)
    intro last
    exact List.mem_singleton.mp last
  case has =>
    rw [handles]
    rintro handle (given | rfl)
    · exact Arena.has_push (ledger.has handle given)
    · exact Arena.has_push_fresh _ _
  case below =>
    rw [row]
    rintro handle (given | rfl)
    · rw [before given]
      exact Nat.lt_succ_of_lt (ledger.below handle given)
    · rw [fresh]
      exact Nat.lt_succ_self _
  case single =>
    rintro handle other (first | rfl) (second | rfl) equal
    · rw [before first, before second] at equal
      exact ledger.single handle other first second equal
    · rw [before first, fresh] at equal
      exact absurd equal (Nat.ne_of_lt (ledger.below handle first))
    · rw [before second, fresh] at equal
      exact absurd equal.symm (Nat.ne_of_lt (ledger.below other second))
    · rfl
  case entry =>
    intro id handle member
    rw [row] at member
    rcases List.mem_append.mp member with earlier | last
    · have given := ledger.listed handle (HandleTable.mem_handles.mpr ⟨id, earlier⟩)
      rw [before given]
      exact ledger.entry id handle earlier
    · cases List.mem_singleton.mp last
      exact fresh.symm
  case kept =>
    rw [listing]
    rintro handle (given | rfl)
    · apply (ledger.kept handle given).imp _ (List.mem_append_left _)
      intro destroyed
      rw [Destroyed, before given]
      exact destroyed
    · exact .inr (List.mem_append_right _ (List.mem_singleton_self _))

theorem Ledger.create (ledger : world.Ledger table known) (other : Ref .table)
    (callback : Value) (kind : String) :
    ∃ more, (∀ handle, known handle → more handle) ∧
      (world.createHandle other callback kind).1.Ledger table more := by
  have handles := (grows_createHandle world other callback kind).handles
  rcases createHandle_cases world other callback kind with
    ⟨fault, failed⟩ | ⟨trace, -, created⟩
  · exact ⟨known, fun _ given => given, failed ▸ ledger⟩
  · rw [created] at handles ⊢
    by_cases own : other = table ∧ world.tables.Has table
    · obtain ⟨rfl, has⟩ := own
      exact ⟨_, fun _ given => .inl given, ledger.insert has rfl rfl⟩
    · refine ⟨known, fun _ given => given, ledger.grows handles ?_⟩
      by_cases same : other = table
      · subst same
        have has : ¬ world.tables.Has other := fun has => own ⟨rfl, has⟩
        rw [Arena.get_of_not_has has,
          Arena.get_of_not_has fun later => has (Arena.has_modify.mp later)]
      · exact Arena.get_modify_of_ne _ _ (Ne.symm same)

def Keeps (table : Ref .table) (known : Ref .handle → Prop) (scope : Scope) : Prop :=
  ∀ target, scope.destroys table target → known target

variable {scope : Scope}

theorem Ledger.handleStep (ledger : old.Ledger table known) (step : HandleStep scope old new)
    (keeps : Keeps table known scope) :
    ∃ more, (∀ handle, known handle → more handle) ∧ new.Ledger table more := by
  have handles := step.grows.handles
  cases step with
  | create other callback kind => exact ledger.create other callback kind
  | activate target | storeFailure target cause =>
      exact ⟨known, fun _ given => given, ledger.grows handles rfl⟩
  | @destroy other target inside =>
      refine ⟨known, fun _ given => given, ledger.destroy ?_⟩
      intro own
      exact keeps target (own ▸ inside)
  | destroyAll other => exact ⟨known, fun _ given => given, ledger.destroyAll other⟩

/-- Every permitted change keeps a ledger; handles may join it. -/
theorem Ledger.step (ledger : old.Ledger table known) (step : Step scope old new)
    (keeps : Keeps table known scope) :
    ∃ more, (∀ handle, known handle → more handle) ∧ new.Ledger table more := by
  cases step with
  | handles step => exact ledger.handleStep step keeps
  | newTable | newScheduler | newDispatcher =>
      exact ⟨known, fun _ given => given, ledger.newTable rfl rfl⟩
  | _ => exact ⟨known, fun _ given => given, ledger.untouched rfl rfl⟩

theorem Ledger.steps (ledger : old.Ledger table known) (steps : Steps scope old new)
    (keeps : Keeps table known scope) :
    ∃ more, (∀ handle, known handle → more handle) ∧ new.Ledger table more := by
  induction steps with
  | refl => exact ⟨known, fun _ given => given, ledger⟩
  | tail _ step induction =>
      obtain ⟨middle, grown, ledger⟩ := induction
      obtain ⟨more, later, ledger⟩ :=
        ledger.step step fun target inside => grown target (keeps target inside)
      exact ⟨more, fun handle given => later handle (grown handle given), ledger⟩

end World

end Microboard
