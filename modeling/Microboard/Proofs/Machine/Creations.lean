import Microboard.Proofs.Bus.Tokens
import Microboard.Proofs.Dispatcher.Bookkeeping
import Microboard.Proofs.World.Inventory

/-!
# The life of the handles of a table

All handles that a table has created, from the first on, are known from the calls of a run.
A handle is registered, may become active and may be destroyed, and nothing leads back.
The table lists exactly those that have not been destroyed, and only these have a callback.
-/

namespace Microboard

/-- How far a handle has come. -/
def Lifecycle.rank : Lifecycle → Nat
  | .registered => 0
  | .active => 1
  | .destroyed => 2

namespace World

variable {world old new : World} {scope : Scope} {table shelf : Ref .table}
variable {handle : Ref .handle} {issued : List (Ref .handle)}

theorem destroyed_iff_stage : world.Destroyed handle ↔ world.stage handle = .destroyed := by
  simp [Destroyed, Handle.isDestroyed, World.stage]

/-- Nothing leads a handle back. -/
theorem Steps.rank (steps : Steps scope old new) (has : old.handles.Has handle) :
    (old.stage handle).rank ≤ (new.stage handle).rank := by
  have grows := ((Steps.grows steps).handles handle has).2
  cases before : old.stage handle with
  | registered => exact Nat.zero_le _
  | active =>
      have begun : (old.handles.get handle).stage ≠ .registered := by
        rw [World.stage] at before
        rw [before]
        exact Lifecycle.noConfusion
      have later := (Engaged.steps ⟨has, begun⟩ steps).begun
      cases after : new.stage handle with
      | registered => exact absurd after later
      | active | destroyed => decide
  | destroyed =>
      have gone := destroyed_iff_stage.mp (grows.destroyed (destroyed_iff_stage.mpr before))
      exact Nat.le_of_eq (congrArg Lifecycle.rank gone.symm)

theorem createHandle_accepts (world : World) (table : Ref .table) (kind : String)
    {callback : Value} (callable : callback.isCallable = true) :
    ∃ new, world.createHandle table callback kind = (new, .ok world.handles.fresh) ∧
      new.handles = world.handles.push
        (.registered (world.tables.get table).next kind callback) ∧
      new.tables = world.tables.modify table (·.insert world.handles.fresh) := by
  rcases createHandle_cases world table callback kind with ⟨fault, failed⟩ | ⟨trace, -, created⟩
  · simp [createHandle, callable] at failed
  · exact ⟨_, created, rfl, rfl⟩

/-- A callback that can be called is listed by the table that is asked to list it. -/
theorem callTable_create_accepts (has : world.tables.Has table) {arguments : Arguments}
    (callable : (arguments.get 0 "callback").isCallable = true) :
    ∃ new, world.callTable table .create arguments = (new, .value (.handle world.handles.fresh)) ∧
      new.handles = world.handles.push
        (.registered (world.tables.get table).next (arguments.get 1 "kind").plain
          (arguments.get 0 "callback")) ∧
      world.handles.fresh ∈ new.listed table := by
  obtain ⟨new, created, handles, tables⟩ := createHandle_accepts world table
    (arguments.get 1 "kind").plain callable
  refine ⟨new, ?_, handles, ?_⟩
  · simp only [callTable, created]
  · rw [World.listed, tables, Arena.get_modify_self _ has, HandleTable.handles_insert]
    exact List.mem_append_right _ List.mem_cons_self

theorem callTable_create_rejects (world : World) (table : Ref .table) {arguments : Arguments}
    (rejected : (arguments.get 0 "callback").isCallable = false) :
    world.callTable table .create arguments =
      (world, .raise (.complaint (.callbackNotCallable (arguments.get 1 "kind").plain))) := by
  simp [callTable, createHandle, rejected]

theorem callHandle_activate (lives : ¬ world.Destroyed handle) (arguments : Arguments) :
    world.callHandle handle .activate arguments =
      (world.setHandle handle fun _ => { world.handles.get handle with stage := .active },
        .nothing) := by
  have spared : (world.handles.get handle).isDestroyed = false := by
    simpa [World.Destroyed] using lives
  have active : (world.handles.get handle).activate?.getD (world.handles.get handle) =
      { world.handles.get handle with stage := .active } := by
    simp [Handle.activate?, spared]
  have handles := world.handles.modify_const handle fun item => item.activate?.getD item
  simp only [callHandle, spared, Bool.false_eq_true, if_false, activate, setHandle, ← active,
    handles]

theorem callHandle_activate_gone (destroyed : world.Destroyed handle) (arguments : Arguments) :
    world.callHandle handle .activate arguments =
      (world, .raise (.handleDestroyed (.int (world.number handle)))) := by
  rw [Destroyed] at destroyed
  simp only [callHandle, destroyed, if_true]
  rfl

theorem Issues.listed_fresh (issues : Issues shelf old new) (filed : old.Filed) :
    old.handles.fresh ∈ new.listed table ↔ shelf = table ∧ old.tables.Has table := by
  rw [World.listed, issues.tables]
  by_cases own : shelf = table ∧ old.tables.Has table
  · obtain ⟨rfl, stands⟩ := own
    rw [Arena.get_modify_self _ stands, HandleTable.handles_insert]
    simp [stands]
  · refine iff_of_false (fun listed => ?_) own
    by_cases same : table = shelf
    · subst same
      have missing : ¬ old.tables.Has table := fun has => own ⟨rfl, has⟩
      rw [Arena.get_of_not_has fun later => missing (Arena.has_modify.mp later)] at listed
      exact absurd listed List.not_mem_nil
    · rw [Arena.get_modify_of_ne _ _ same] at listed
      exact filed.not_listed_fresh table listed

theorem Issues.size (issues : Issues shelf old new) :
    new.handles.items.length = old.handles.items.length + 1 := by
  obtain ⟨⟨record, handles, -⟩, -⟩ := issues
  rw [handles]
  exact List.length_append

namespace Inventory

variable (inventory : world.Inventory table issued) (filed : world.Filed)
variable (numbered : (world.tables.get table).Numbered)
include inventory filed numbered

theorem answers_none {id : Nat}
    (foreign : ∀ handle ∈ issued, world.alive handle = true → world.number handle ≠ id) :
    world.Answers table id .none := by
  apply answers_of_not_mem
  intro handle member
  rw [inventory.entries filed numbered] at member
  obtain ⟨other, kept, same⟩ := List.mem_map.mp member
  obtain ⟨created, lives⟩ := List.mem_filter.mp kept
  exact foreign other created lives (congrArg Prod.fst same)

theorem callFunction_list :
    world.callFunction .list (.single (.table table)) =
      (world, .ok (.list ((issued.filter world.alive).map .handle))) := by
  have asked : (Arguments.single (.table table)).get 0 "obj" = .table table := rfl
  simp only [callFunction, asked, HandleTable.handles, inventory.entries filed numbered,
    List.map_map]
  rfl

variable (member : handle ∈ issued)
include member

theorem find?_of_alive (lives : ¬ world.Destroyed handle) :
    (world.tables.get table).find? (world.number handle) = some handle := by
  apply numbered.find?
  rw [inventory.entries filed numbered]
  exact List.mem_map.mpr ⟨handle, List.mem_filter.mpr ⟨member, alive_iff.mpr lives⟩, rfl⟩

theorem find?_of_destroyed (destroyed : world.Destroyed handle) :
    (world.tables.get table).find? (world.number handle) = none := by
  apply List.lookup_eq_none_iff.mpr
  intro entry listed
  rw [inventory.entries filed numbered] at listed
  obtain ⟨other, kept, rfl⟩ := List.mem_map.mp listed
  obtain ⟨created, lives⟩ := List.mem_filter.mp kept
  simp only [bne_iff_ne, ne_eq]
  intro same
  have single := inventory.number_inj member created same
  exact alive_iff.mp lives (single ▸ destroyed)

theorem find?_eq :
    (world.tables.get table).find? (world.number handle) =
      if world.alive handle then some handle else none := by
  split
  next lives =>
    exact inventory.find?_of_alive filed numbered member (alive_iff.mp lives)
  next gone =>
    apply inventory.find?_of_destroyed filed numbered member
    exact Classical.byContradiction fun lives => gone (alive_iff.mpr lives)

theorem contains_eq :
    world.contains (.handle handle) (.table table) = .ok (world.alive handle) := by
  have found := inventory.find?_eq filed numbered member
  rw [World.number] at found
  simp only [World.contains, found]
  cases world.alive handle <;> simp

theorem answers :
    world.Answers table (world.number handle)
      (if world.alive handle then .handle handle else .none) := by
  have answers : world.Answers table (world.number handle) _ := world.answers_of_find? _
  rw [inventory.find?_eq filed numbered member] at answers
  cases lives : world.alive handle <;> simpa [lives] using answers

/-- Destroying a handle once more does nothing at all. -/
theorem destroyHandle_again (released : (world.handles.get handle).Released)
    (destroyed : world.Destroyed handle) : world.destroyHandle table handle = world := by
  have missing := inventory.find?_of_destroyed filed numbered member destroyed
  have unlisted : (world.tables.get table).erase (world.number handle) =
      world.tables.get table := by
    have kept : (world.tables.get table).entries.filter
        (fun entry => entry.1 ≠ world.number handle) = (world.tables.get table).entries := by
      apply List.filter_eq_self.mpr
      intro entry listed
      have differs := List.lookup_eq_none_iff.mp missing entry listed
      simp only [bne_iff_ne, ne_eq] at differs
      exact decide_eq_true (Ne.symm differs)
    simp only [HandleTable.erase, kept]
  have inert : (world.handles.get handle).destroy = world.handles.get handle := by
    have callback := released.mpr destroyed
    have stage := destroyed_iff_stage.mp destroyed
    rw [World.stage] at stage
    simp only [Handle.destroy, ← callback, ← stage]
  have tables : world.setTable table (·.erase (world.handles.get handle).id) = world :=
    congrArg (fun tables => { world with tables }) (Arena.modify_eq_self fun _ => unlisted)
  have handles : world.setHandle handle Handle.destroy = world :=
    congrArg (fun handles => { world with handles }) (Arena.modify_eq_self fun _ => inert)
  have own : ((world.tables.get table).find? (world.handles.get handle).id == some handle) =
      false := by
    change ((world.tables.get table).find? (world.number handle) == some handle) = false
    rw [missing]
    rfl
  unfold destroyHandle
  simp only [own, tables, Bool.false_eq_true, if_false, handles]

end Inventory

end World

namespace Machine

variable {looping : Bool} {registry : Registry} {names : List (String × Value)}
variable {machine next : Machine} {past : List Machine} {table shelf : Ref .table}
variable {handle target : Ref .handle}

/-- The handle that the call at hand creates in a table. -/
def created? (table : Ref .table) (machine : Machine) : Option (Ref .handle) :=
  match machine.control with
  | .busy _ (.call (.method method) arguments) =>
    let handle := machine.world.handles.fresh
    if handle ∈ (machine.world.callMethod method arguments).1.listed table then some handle
    else none
  | _ => none

/-- All handles that a table has created, the oldest first. -/
def creations (table : Ref .table) (past : List Machine) : List (Ref .handle) :=
  past.filterMap (created? table)

/-- The handles that a table has created have been destroyed one by one through this table
only, and it has been asked to destroy no others. -/
def Sole (table : Ref .table) (past : List Machine) : Prop :=
  ∀ earlier state later shelf handle, past = earlier ++ state :: later →
    state.destroyed? = some (shelf, handle) →
      (shelf = table ↔ handle ∈ creations table earlier)

theorem Sole.before {later : List Machine} (sole : Sole table (past ++ later)) :
    Sole table past := by
  intro earlier state rest shelf handle split
  exact sole earlier state (rest ++ later) shelf handle (by simp [split])

theorem created?_of_call {thread : Thread} {method : Method} {arguments : Arguments}
    (busy : machine.control = .busy thread (.call (.method method) arguments)) :
    machine.created? table =
      if machine.world.handles.fresh ∈ (machine.world.callMethod method arguments).1.listed table
      then some machine.world.handles.fresh else none := by
  simp only [created?, busy]

theorem created?_eq_none
    (silent : ∀ thread method arguments,
      machine.control = .busy thread (.call (.method method) arguments) →
      machine.world.handles.fresh ∉ (machine.world.callMethod method arguments).1.listed table) :
    machine.created? table = none := by
  unfold created?
  split
  next thread method arguments busy => exact if_neg (silent thread method arguments busy)
  next => rfl

theorem Move.of_table {thread : Thread} {operation : TableMethod} {arguments : Arguments}
    (move : Move machine next)
    (busy : machine.control = .busy thread (.call (.method (.table table operation)) arguments)) :
    next = machine.go thread (machine.world.callTable table operation arguments) :=
  move.of_method busy fun _ => Method.noConfusion

/-- A move creates one handle, or none. -/
theorem Move.stock (move : Move machine next) (sound : machine.Sound)
    (filed : machine.world.Filed) :
    (∃ shelf, World.Issues shelf machine.world next.world ∧
      ∀ table, machine.created? table =
        if shelf = table ∧ machine.world.tables.Has table then some machine.world.handles.fresh
        else none) ∨
    next.world.handles.items.length = machine.world.handles.items.length ∧
      ∀ table, machine.created? table = none := by
  have called {thread : Thread} {method : Method} {arguments : Arguments}
      (busy : machine.control = .busy thread (.call (.method method) arguments)) :
      next.world = (machine.world.callMethod method arguments).1 := by
    rw [move.of_busy busy]
    exact world_call thread (.method method) arguments
  have silent (same : next.world.handles.items.length = machine.world.handles.items.length)
      (table : Ref .table) : machine.created? table = none := by
    apply created?_eq_none
    intro thread method arguments busy listed
    rw [← called busy] at listed
    obtain ⟨id, member⟩ := HandleTable.mem_handles.mp listed
    have later := filed.steps (move.steps sound.focus (orderly_everything machine))
    have has : machine.world.handles.fresh.index < next.world.handles.items.length :=
      (later.entries table _ member).1
    rw [same] at has
    exact Nat.lt_irrefl _ has
  rcases move.size with same | ⟨thread, method, arguments, shelf, busy, lists⟩
  · exact .inr ⟨same, silent same⟩
  · rcases World.callMethod_issues arguments lists with nothing | issues
    · have same := congrArg (fun world : World => world.handles.items.length)
        ((called busy).trans nothing)
      exact .inr ⟨same, silent same⟩
    · refine .inl ⟨shelf, called busy ▸ issues, fun table => ?_⟩
      rw [created?_of_call busy]
      simp only [issues.listed_fresh filed]

/-- By induction on the run: a handle joins the inventory when it is created. -/
theorem Run.inventory (run : Run (initial (.initial looping registry) names) past machine)
    (sole : Sole table past) : machine.world.Inventory table (creations table past) := by
  induction run with
  | refl => exact .initial looping registry table
  | @move past machine next run move induction =>
      have sound := run.sound (sound_initial looping registry names)
      have filed := run.filed
      have inventory := induction sole.before
      rw [creations, filterMap_snoc]
      by_cases asked : ∃ shelf target, machine.destroyed? = some (shelf, target)
      · obtain ⟨shelf, target, asked⟩ := asked
        obtain ⟨-, handles, tables⟩ := move.destroys asked
        have kept : next.world.handles.items.length = machine.world.handles.items.length := by
          rw [handles]
          exact List.length_modify _ _ _
        rcases move.stock sound filed with ⟨_, issues, -⟩ | ⟨-, quiet⟩
        · have grown := issues.size
          omega
        · rw [quiet, Option.toList_none, List.append_nil]
          have own := sole past machine [] shelf target rfl asked
          exact inventory.destroys filed own handles tables
      · rcases move.stock sound filed with ⟨shelf, issues, created⟩ | ⟨same, quiet⟩
        · have more := inventory.issues issues
          rw [created]
          split at more
          next own => rwa [if_pos own]
          next other => rwa [if_neg other]
        · rw [quiet, Option.toList_none, List.append_nil]
          have orderly : machine.Orderly fun _ _ => False := by
            apply orderly_of_destroyed
            exact fun shelf target given => asked ⟨shelf, target, given⟩
          exact inventory.quiet run.shelved (move.steps sound.focus orderly)
            (fun _ _ => id) same

/-- What is known of the handles that a table has created. -/
structure Tended (table : Ref .table) (past : List Machine) (machine : Machine) : Prop where
  numbers : (creations table past).map machine.world.number =
    List.range' 1 (creations table past).length
  next : (machine.world.tables.get table).next = (creations table past).length + 1
  creates : ∀ thread arguments,
    machine.control = .busy thread (.call (.method (.table table .create)) arguments) →
    (arguments.get 0 "callback").isCallable = true →
    machine.created? table = some machine.world.handles.fresh ∧
    ∃ new, (∀ next, Move machine next → next = machine.go thread
        (new, .value (.handle machine.world.handles.fresh))) ∧
      new.handles = machine.world.handles.push
        (.registered ((creations table past).length + 1) (arguments.get 1 "kind").plain
          (arguments.get 0 "callback"))
  rejects : ∀ thread arguments,
    machine.control = .busy thread (.call (.method (.table table .create)) arguments) →
    (arguments.get 0 "callback").isCallable = false →
    machine.created? table = none ∧
    ∀ next, Move machine next → next = machine.go thread (machine.world,
      .raise (.complaint (.callbackNotCallable (arguments.get 1 "kind").plain)))
  moves : ∀ earlier state later handle, past = earlier ++ state :: later →
    handle ∈ creations table earlier →
    (state.world.stage handle).rank ≤ (machine.world.stage handle).rank ∧
      machine.world.number handle = state.world.number handle ∧
      (¬ machine.world.Destroyed handle →
        (machine.world.handles.get handle).callback = (state.world.handles.get handle).callback)
  entries : (machine.world.tables.get table).entries =
    ((creations table past).filter machine.world.alive).map fun handle =>
      (machine.world.number handle, handle)
  contains : ∀ handle ∈ creations table past,
    machine.world.contains (.handle handle) (.table table) = .ok (machine.world.alive handle)
  found : ∀ handle ∈ creations table past,
    machine.world.Answers table (machine.world.number handle)
      (if machine.world.alive handle then .handle handle else .none)
  unknown : ∀ id, (∀ handle ∈ creations table past, machine.world.alive handle = true →
    machine.world.number handle ≠ id) → machine.world.Answers table id .none
  iterated : machine.world.callFunction .list (.single (.table table)) = (machine.world,
    .ok (.list (((creations table past).filter machine.world.alive).map .handle)))
  released : ∀ handle ∈ creations table past,
    (machine.world.handles.get handle).callback = none ↔ machine.world.Destroyed handle
  activates : ∀ handle ∈ creations table past, ∀ arguments, ¬ machine.world.Destroyed handle →
    machine.world.callHandle handle .activate arguments =
      (machine.world.setHandle handle fun _ =>
        { machine.world.handles.get handle with stage := .active }, .nothing)
  final : ∀ handle ∈ creations table past, ∀ arguments, machine.world.Destroyed handle →
    machine.world.callHandle handle .activate arguments =
      (machine.world, .raise (.handleDestroyed (.int (machine.world.number handle))))
  calls : ∀ handle ∈ creations table past, ¬ machine.world.Destroyed handle →
    ∃ callback, (machine.world.handles.get handle).callback = some callback ∧
      ∀ thread next, machine.control = .busy thread (.invoke handle) → Move machine next →
        next = machine.go thread (machine.world, .call callback .empty)
  inert : ∀ handle ∈ creations table past, machine.world.Destroyed handle →
    ∀ thread next, machine.control = .busy thread (.invoke handle) → Move machine next →
      next = machine.go thread
        (machine.world, .raise (.handleDestroyed (.int (machine.world.number handle))))
  again : ∀ handle ∈ creations table past, machine.world.Destroyed handle →
    machine.world.destroyHandle table handle = machine.world
  sweeps : ∀ handle ∈ creations table past, (machine.world.destroyAll table).Destroyed handle

/-- In a run that destroys the handles of a table through this table only. -/
theorem table_tends_handles
    (run : Run (initial (.initial looping registry) names) past machine)
    (has : machine.world.tables.Has table) (sole : Sole table past) :
    Tended table past machine := by
  have inventory := run.inventory sole
  have filed := run.filed
  have numbered := run.numbering table
  have sound := run.sound (sound_initial looping registry names)
  have released {handle : Ref .handle} (member : handle ∈ creations table past) :
      (machine.world.handles.get handle).Released :=
    sound.world.handle handle (inventory.has handle member)
  have next : (machine.world.tables.get table).next = (creations table past).length + 1 := by
    simpa only [World.Counts, if_pos has] using inventory.counts
  constructor
  case numbers => exact inventory.numbers
  case next => exact next
  case creates =>
    intro thread arguments busy callable
    obtain ⟨new, answered, handles, listed⟩ := World.callTable_create_accepts has callable
    rw [next] at handles
    refine ⟨?_, new, fun next move => ?_, handles⟩
    · rw [created?_of_call busy, World.callMethod, answered]
      exact if_pos listed
    · rw [move.of_table busy, answered]
  case rejects =>
    intro thread arguments busy rejected
    have answered := World.callTable_create_rejects machine.world table rejected
    refine ⟨?_, fun next move => ?_⟩
    · rw [created?_of_call busy, World.callMethod, answered]
      exact if_neg (filed.not_listed_fresh table)
    · rw [move.of_table busy, answered]
  case moves =>
    intro earlier state later handle split member
    subst split
    obtain ⟨before, after⟩ := run.split
    have there := (before.inventory sole.before).has handle member
    have steps := after.steps (before.sound (sound_initial looping registry names))
    obtain ⟨here, grows⟩ := (World.Steps.grows steps).handles handle there
    refine ⟨steps.rank there, grows.id, fun lives => grows.callback.resolve_right fun gone => ?_⟩
    exact lives ((sound.world.handle handle here).mp gone)
  case entries => exact inventory.entries filed numbered
  case contains => exact fun handle member => inventory.contains_eq filed numbered member
  case found => exact fun handle member => inventory.answers filed numbered member
  case unknown => exact fun id foreign => inventory.answers_none filed numbered foreign
  case iterated => exact inventory.callFunction_list filed numbered
  case released => exact fun handle member => released member
  case activates =>
    exact fun handle member arguments lives => World.callHandle_activate lives arguments
  case final =>
    exact fun handle member arguments destroyed =>
      World.callHandle_activate_gone destroyed arguments
  case calls =>
    intro handle member lives
    cases given : (machine.world.handles.get handle).callback with
    | none => exact absurd ((released member).mp given) lives
    | some callback =>
        exact ⟨callback, rfl, fun thread next busy move => move.of_invoke busy given⟩
  case inert =>
    intro handle member destroyed thread next busy move
    exact move.of_invoke_gone busy ((released member).mpr destroyed)
  case again =>
    intro handle member destroyed
    exact inventory.destroyHandle_again filed numbered member (released member) destroyed
  case sweeps => exact fun handle member => inventory.swept member

/-- A check of what the states do, given the handles that have been created before. -/
def evidentlySole (table : Ref .table) : List (Ref .handle) → List Machine → Bool
  | _, [] => true
  | given, state :: rest =>
    state.destroyed?.all (fun asked => decide (asked.1 = table) == given.contains asked.2) &&
      evidentlySole table (given ++ (state.created? table).toList) rest

theorem sole_of_evident_from (before : List Machine) {past : List Machine}
    (evident : evidentlySole table (creations table before) past = true)
    (earlier : List Machine) (state : Machine) (later : List Machine) (shelf : Ref .table)
    (handle : Ref .handle) (split : past = earlier ++ state :: later)
    (asked : state.destroyed? = some (shelf, handle)) :
    shelf = table ↔ handle ∈ creations table (before ++ earlier) := by
  induction earlier generalizing past before with
  | nil =>
      subst split
      simp only [List.nil_append, evidentlySole, asked, Option.all_some, Bool.and_eq_true,
        beq_iff_eq] at evident
      rw [List.append_nil, ← List.contains_iff_mem, ← evident.1, decide_eq_true_eq]
  | cons first rest induction =>
      subst split
      simp only [List.cons_append, evidentlySole, Bool.and_eq_true] at evident
      have joined := evident.2
      rw [creations, ← filterMap_snoc] at joined
      rw [List.append_cons]
      exact induction _ joined rfl

theorem sole_of_evident (evident : evidentlySole table [] past = true) : Sole table past :=
  fun earlier state later shelf handle split asked =>
    sole_of_evident_from [] evident earlier state later shelf handle split asked

/-- The first handle is destroyed twice, the second time when there is a newer one. -/
def reusing : Program :=
  .call (.type .table) .empty fun _ => .define .plain (fun _ => .finish .nothing) fun callback =>
    .call (.method (.table ⟨0⟩ .create)) ⟨[callback, .str "first"], []⟩ fun _ =>
      .call (.method (.table ⟨0⟩ .create)) ⟨[.int 3, .str "rejected"], []⟩ fun _ =>
        .call (.method (.handle ⟨0⟩ .activate)) .empty fun _ =>
          .call (.method (.table ⟨0⟩ .destroy)) (.single (.handle ⟨0⟩)) fun _ =>
            .call (.method (.table ⟨0⟩ .create)) ⟨[callback, .str "second"], []⟩ fun _ =>
              .call (.method (.handle ⟨0⟩ .invoke)) .empty fun _ =>
                .call (.method (.table ⟨0⟩ .destroy)) (.single (.handle ⟨0⟩)) .finish

theorem table_tends_handles_reusing :
    let past := [initial (.initial true .empty) []] ++ visited 40 (begun reusing)
    let machine := settle 40 (begun reusing)
    machine.world.tables.Has ⟨0⟩ ∧ Sole ⟨0⟩ past ∧ Tended ⟨0⟩ past machine ∧
      creations ⟨0⟩ past = [⟨0⟩, ⟨1⟩] ∧ machine.world.listed ⟨0⟩ = [⟨1⟩] := by
  have has : (settle 40 (begun reusing)).world.tables.Has ⟨0⟩ := by decide
  have sole : Sole ⟨0⟩ ([initial (.initial true .empty) []] ++ visited 40 (begun reusing)) :=
    sole_of_evident rfl
  exact ⟨has, sole, table_tends_handles (run_begun reusing 40) has sole, rfl, rfl⟩

end Machine

end Microboard
