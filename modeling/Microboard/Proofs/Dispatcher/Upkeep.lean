import Microboard.Proofs.Dispatcher.Roster
import Microboard.Proofs.Machine.Destroying
import Microboard.Proofs.Machine.Effect

/-!
# The books of a dispatcher

A dispatcher keeps its handlers twice: in its table, and in the lists of its buttons.  Whatever
destroys them through the dispatcher takes the same handles from both, and everything else
leaves both as they are.
-/

namespace Microboard

namespace World

variable {world old middle new : World} {target other : Ref .dispatcher} {table : Ref .table}
variable {handle : Ref .handle} {scope : Scope}

def stage (world : World) (handle : Ref .handle) : Lifecycle :=
  (world.handles.get handle).stage

def alive (world : World) (handle : Ref .handle) : Bool :=
  !(world.handles.get handle).isDestroyed

theorem alive_iff : world.alive handle = true ↔ ¬ world.Destroyed handle := by
  rw [alive, Destroyed, Bool.not_eq_true', Bool.not_eq_true]

theorem isActive_of_stage (same : new.stage handle = old.stage handle) :
    (new.handles.get handle).isActive = (old.handles.get handle).isActive := by
  simp only [stage] at same
  simp only [Handle.isActive, same]

theorem alive_of_isActive (active : (world.handles.get handle).isActive = true) :
    world.alive handle = true := by
  simp only [Handle.isActive, decide_eq_true_eq] at active
  simp [alive, Handle.isDestroyed, active]

/-- No list of handlers has changed, nor what any table lists, nor the stage of any handle. -/
structure Unmoved (old new : World) : Prop where
  roll : ∀ target button, new.roll target button = old.roll target button
  listed : ∀ table, new.listed table = old.listed table
  stage : ∀ handle, new.stage handle = old.stage handle

theorem Unmoved.refl (world : World) : Unmoved world world :=
  ⟨fun _ _ => rfl, fun _ => rfl, fun _ => rfl⟩

theorem Unmoved.trans (first : Unmoved old middle) (second : Unmoved middle new) :
    Unmoved old new where
  roll target button := (second.roll target button).trans (first.roll target button)
  listed table := (second.listed table).trans (first.listed table)
  stage handle := (second.stage handle).trans (first.stage handle)

theorem unmoved_of_same (dispatchers : new.dispatchers = old.dispatchers)
    (tables : new.tables = old.tables) (handles : new.handles = old.handles) :
    Unmoved old new where
  roll _ _ := by rw [roll, roll, dispatchers]
  listed _ := by rw [listed, listed, tables]
  stage _ := by rw [stage, stage, handles]

theorem unmoved_newTable (dispatchers : ∀ target button, new.roll target button =
      old.roll target button) (tables : new.tables = old.tables.push .initial)
    (handles : new.handles = old.handles) : Unmoved old new where
  roll := dispatchers
  listed table := by
    rw [listed, listed, tables]
    exact old.tables.get_push_field HandleTable.handles
      (show HandleTable.initial.handles = _ from rfl) table
  stage _ := by rw [stage, stage, handles]

theorem unmoved_storeFailure (world : World) (target : Ref .handle) (cause : Value) :
    Unmoved world (world.storeFailure target cause).1 :=
  ⟨fun _ _ => rfl, fun _ => rfl,
    world.handles.get_modify_field Handle.stage (·.recordFailure _) (fun _ => rfl) target⟩

theorem unmoved_noteFailure (world : World) (logger : Logger) (heading : String)
    (target : Ref .handle) (fault : Fault) :
    Unmoved world (world.noteFailure logger heading target fault) :=
  ⟨fun _ _ => rfl, fun _ => rfl,
    world.handles.get_modify_field Handle.stage (·.recordFailure _) (fun _ => rfl) target⟩

theorem gentle_unmoved : Gentle Unmoved where
  refl := Unmoved.refl
  trans := Unmoved.trans
  same _ dispatchers tables handles _ := unmoved_of_same dispatchers tables handles
  observe _ _ _ := unmoved_of_same rfl rfl rfl
  newTable _ := unmoved_newTable (fun _ _ => rfl) rfl rfl
  newScheduler _ _ _ := unmoved_newTable (fun _ _ => rfl) rfl rfl
  newDispatcher world hardware bus := by
    refine unmoved_newTable (fun target button => ?_) rfl rfl
    have same := world.dispatchers.get_push_field Dispatcher.handlers
      (show (⟨hardware, bus, world.tables.fresh, .const [], []⟩ : Dispatcher).handlers = _ from rfl)
      target
    simp only [roll, newDispatcher, newTable, same]

theorem Minor.unmoved (minor : old.Minor new) : Unmoved old new := by
  induction minor with
  | refl => exact .refl old
  | history | setTasks => exact unmoved_of_same rfl rfl rfl
  | setBackground target background =>
      have same := old.dispatchers.get_modify_field Dispatcher.handlers
        (fun dispatcher => { dispatcher with background := background dispatcher })
        (fun _ => rfl) target
      exact ⟨fun other button => congrArg (·.get button) (same other), fun _ => rfl, fun _ => rfl⟩
  | blame _ logger heading handle fault induction =>
      exact induction.trans (unmoved_noteFailure _ logger heading handle fault)

theorem resume_unmoved (frame : Frame) (reply : Reply) :
    Unmoved world (world.resume frame reply).1 := by
  have kept := (resume_keeps gentle_unmoved (fun handle (_ : world.handles.Has handle) => trivial)
    (Frame.blames_all (fun _ => trivial) frame) (fun _ _ => unmoved_of_same rfl rfl rfl) reply).1
  refine Unmoved.trans ?_ kept
  cases frame.failure? world.looping reply with
  | none => exact .refl world
  | some failure => exact unmoved_noteFailure _ _ _ _ _

/-- The books of a dispatcher agree: all handlers in the lists take part, and they are those
that its table lists. -/
structure Booked (target : Ref .dispatcher) (table : Ref .table) (world : World) : Prop where
  has : world.dispatchers.Has target
  owns : (world.dispatchers.get target).table = table
  shelved : world.Shelved
  active : ∀ button, ∀ handle ∈ world.roll target button,
    (world.handles.get handle).isActive = true
  tabled : ∀ handle, handle ∈ world.listed table ↔ ∃ button, handle ∈ world.roll target button

/-- The handles that have been destroyed are gone from the books, and nothing else has changed
in them. -/
structure Upkeep (target : Ref .dispatcher) (table : Ref .table) (old new : World) : Prop where
  roll : ∀ button, new.roll target button = (old.roll target button).filter new.alive
  listed : ∀ handle, handle ∈ new.listed table ↔
    handle ∈ old.listed table ∧ new.alive handle = true

/-- The books, and the stages of the handles in them, are as they were. -/
structure Bypasses (target : Ref .dispatcher) (table : Ref .table) (old new : World) :
    Prop where
  roll : ∀ button, new.roll target button = old.roll target button
  listed : new.listed table = old.listed table
  stage : ∀ button, ∀ handle ∈ old.roll target button, new.stage handle = old.stage handle

theorem Unmoved.bypasses (unmoved : Unmoved old new) : Bypasses target table old new where
  roll := unmoved.roll target
  listed := unmoved.listed table
  stage _ handle _ := unmoved.stage handle

theorem Bypasses.refl (world : World) : Bypasses target table world world :=
  (Unmoved.refl world).bypasses

theorem Bypasses.trans (first : Bypasses target table old middle)
    (second : Bypasses target table middle new) : Bypasses target table old new where
  roll button := (second.roll button).trans (first.roll button)
  listed := second.listed.trans first.listed
  stage button handle member :=
    (second.stage button handle (first.roll button ▸ member)).trans
      (first.stage button handle member)

theorem Bypasses.upkeep (bypasses : Bypasses target table old new)
    (booked : old.Booked target table) : Upkeep target table old new := by
  have alive (button : Button) (handle : Ref .handle) (member : handle ∈ old.roll target button) :
      new.alive handle = true := by
    apply alive_of_isActive
    rw [isActive_of_stage (bypasses.stage button handle member)]
    exact booked.active button handle member
  constructor
  case roll =>
    intro button
    rw [bypasses.roll, List.filter_eq_self.mpr (alive button)]
  case listed =>
    intro handle
    rw [bypasses.listed]
    refine ⟨fun listed => ⟨listed, ?_⟩, And.left⟩
    obtain ⟨button, member⟩ := (booked.tabled handle).mp listed
    exact alive button handle member

namespace Booked

theorem has_handle (booked : world.Booked target table) {button : Button}
    (member : handle ∈ world.roll target button) : world.handles.Has handle :=
  has_of_isActive (booked.active button handle member)

/-- A handle of a list is listed in no other table. -/
theorem unlisted (booked : world.Booked target table) {shelf : Ref .table}
    (differs : shelf ≠ table) (listed : handle ∈ world.listed shelf) (button : Button) :
    handle ∉ world.roll target button := by
  intro member
  exact differs (booked.shelved.single handle _ _ listed
    ((booked.tabled handle).mpr ⟨button, member⟩))

theorem upkeep (booked : old.Booked target table) (steps : Steps scope old new)
    (upkeep : Upkeep target table old new) : new.Booked target table where
  has := ((Steps.grows steps).dispatchers target booked.has).1
  owns := ((Steps.grows steps).dispatchers target booked.has).2.table.trans booked.owns
  shelved := booked.shelved.steps steps
  active button handle member := by
    rw [upkeep.roll, List.mem_filter] at member
    have active := booked.active button handle member.1
    have engaged : old.Engaged handle := by
      refine ⟨booked.has_handle member.1, ?_⟩
      simp only [Handle.isActive, decide_eq_true_eq] at active
      simp [active]
    apply Decidable.byContradiction
    intro inactive
    exact alive_iff.mp member.2 ((engaged.steps steps).destroyed (Bool.not_eq_true _ ▸ inactive))
  tabled handle := by
    rw [upkeep.listed, booked.tabled]
    simp only [upkeep.roll, List.mem_filter, exists_and_right]

theorem upkeep_trans (booked : old.Booked target table) (steps : Steps scope old middle)
    (first : Upkeep target table old middle) (later : Steps scope middle new)
    (second : Upkeep target table middle new) : Upkeep target table old new := by
  have before (button : Button) (handle : Ref .handle) (member : handle ∈ old.roll target button)
      (lives : new.alive handle = true) : middle.alive handle = true := by
    have has := ((Steps.grows steps).handles handle (booked.has_handle member)).1
    exact alive_iff.mpr fun destroyed =>
      alive_iff.mp lives (((Steps.grows later).handles handle has).2.destroyed destroyed)
  constructor
  case roll =>
    intro button
    rw [second.roll, first.roll, List.filter_filter]
    refine List.filter_congr fun handle member => ?_
    cases lives : new.alive handle with
    | false => rfl
    | true => rw [before button handle member lives]; rfl
  case listed =>
    intro handle
    rw [second.listed, first.listed]
    refine ⟨fun ⟨⟨listed, _⟩, lives⟩ => ⟨listed, lives⟩, fun ⟨listed, lives⟩ => ?_⟩
    obtain ⟨button, member⟩ := (booked.tabled handle).mp listed
    exact ⟨⟨listed, before button handle member lives⟩, lives⟩

end Booked

section Operations

variable {shelf : Ref .table} (booked : world.Booked target table)

theorem Booked.bypasses_create (booked : old.Booked target table) {record : Handle}
    {change : HandleTable → HandleTable} (differs : shelf ≠ table)
    (roll : ∀ button, new.roll target button = old.roll target button)
    (tables : new.tables = old.tables.modify shelf change)
    (handles : new.handles = old.handles.push record) : Bypasses target table old new where
  roll := roll
  listed := by rw [listed, listed, tables, Arena.get_modify_of_ne _ _ (Ne.symm differs)]
  stage button handle member := by
    rw [stage, stage, handles, Arena.get_push_of_has (booked.has_handle member)]

theorem bypasses_destroyHandle (differs : shelf ≠ table)
    (outside : ∀ button, handle ∉ world.roll target button) :
    Bypasses target table world (world.destroyHandle shelf handle) where
  roll button := by
    obtain ⟨_, _, _, same⟩ := destroyHandle_eq world shelf handle
    rw [same]
    rfl
  listed := by
    rw [listed, listed, destroyHandle_tables, Arena.get_modify_of_ne _ _ (Ne.symm differs)]
  stage button other member := by
    have different : other ≠ handle := fun same => outside button (same ▸ member)
    rw [stage, stage, destroyHandle_handles, Arena.get_modify_of_ne _ _ different]

include booked

theorem Booked.bypasses_activate (handle : Ref .handle) :
    Bypasses target table world (world.activate handle) where
  roll _ := rfl
  listed := rfl
  stage button other member := by
    by_cases same : other = handle
    · subst same
      have active := booked.active button other member
      simp only [Handle.isActive, decide_eq_true_eq] at active
      rw [stage, stage, activate, setHandle, Arena.get_modify_self _ (booked.has_handle member)]
      simp [Handle.activate?, Handle.isDestroyed, active]
    · rw [stage, stage, activate, setHandle, Arena.get_modify_of_ne _ _ same]

theorem Booked.bypasses_destroyAll (differs : shelf ≠ table) :
    Bypasses target table world (world.destroyAll shelf) := by
  have outside : ∀ handle ∈ (world.tables.get shelf).handles, ∀ button,
      handle ∉ world.roll target button := fun handle => booked.unlisted differs
  clear booked
  unfold destroyAll
  generalize (world.tables.get shelf).handles = handles at outside
  induction handles generalizing world with
  | nil => exact .refl world
  | cons handle rest induction =>
      have first := bypasses_destroyHandle differs (outside handle List.mem_cons_self)
      refine first.trans (induction fun later member button => ?_)
      rw [first.roll]
      exact outside later (List.mem_cons_of_mem _ member) button

omit booked in
theorem roll_clearHandlers (has : world.dispatchers.Has target) (button : Button) :
    (world.clearHandlers target).roll target button = [] := by
  rw [roll, clearHandlers, setDispatcher, destroyAll_dispatchers, Arena.get_modify_self _ has]
  exact PerButton.get_const _ _

omit booked in
theorem roll_clearHandlers_of_ne (differs : target ≠ other) (button : Button) :
    (world.clearHandlers other).roll target button = world.roll target button := by
  rw [roll, clearHandlers, setDispatcher, destroyAll_dispatchers,
    Arena.get_modify_of_ne _ _ differs, roll]

/-- Destroying all handlers of a dispatcher empties the books, or those of another one. -/
theorem Booked.clearHandlers
    (reach : (world.dispatchers.get other).table = table → other = target) :
    Upkeep target table world (world.clearHandlers other) := by
  by_cases own : other = target
  · subst own
    have empty : (world.clearHandlers other).listed table = [] := by
      rw [← booked.owns]
      exact congrArg (List.map Prod.snd) (booked.shelved.destroyAll_self _)
    have gone (handle : Ref .handle) (listed : handle ∈ world.listed table) :
        (world.clearHandlers other).alive handle ≠ true := by
      intro lives
      obtain ⟨button, member⟩ := (booked.tabled handle).mp listed
      rw [← booked.owns] at listed
      exact alive_iff.mp lives (destroyed_of_destroyAll (booked.has_handle member) listed)
    constructor
    case roll =>
      intro button
      rw [roll_clearHandlers booked.has, List.filter_eq_nil_iff.mpr]
      exact fun handle member => gone handle ((booked.tabled handle).mpr ⟨button, member⟩)
    case listed =>
      intro handle
      rw [empty]
      exact ⟨fun listed => absurd listed List.not_mem_nil,
        fun ⟨listed, lives⟩ => absurd lives (gone handle listed)⟩
  · have bypasses := booked.bypasses_destroyAll (fun same => own (reach same))
    refine Bypasses.upkeep ⟨?_, bypasses.listed, bypasses.stage⟩ booked
    exact roll_clearHandlers_of_ne (Ne.symm own)

/-- A dispatcher that is asked to destroy one of its handlers strikes it from both books. -/
theorem Booked.unregister (nodup : ∀ button, (world.roll target button).Nodup)
    (own : ∀ listed ∈ world.listed table, world.number listed = world.number handle →
      listed = handle) :
    Upkeep target table world (world.unregister target handle) := by
  have struck (button : Button) : (world.unregister target handle).roll target button =
      (world.roll target button).erase handle := by
    rw [roll, unregister_dispatchers, Arena.get_modify_self _ booked.has]
    exact PerButton.get_map _ _ _
  have tables := world.unregister_tables target handle
  rw [booked.owns] at tables
  have lives (button : Button) (listed : Ref .handle)
      (member : listed ∈ world.roll target button) :
      (world.unregister target handle).alive listed = true ↔ listed ≠ handle := by
    by_cases same : listed = handle
    · subst same
      rw [alive_iff, Destroyed, unregister_handles,
        Arena.get_modify_self _ (booked.has_handle member)]
      simp [Handle.destroy, Handle.isDestroyed]
    · refine iff_of_true ?_ same
      rw [alive, unregister_handles, Arena.get_modify_of_ne _ _ same]
      exact alive_of_isActive (booked.active button listed member)
  constructor
  case roll =>
    intro button
    rw [struck, (nodup button).erase_eq_filter]
    refine List.filter_congr fun listed member => ?_
    rw [Bool.eq_iff_iff, lives button listed member, bne_iff_ne]
  case listed =>
    intro listed
    have kept : listed ∈ (world.unregister target handle).listed table ↔
        listed ∈ world.listed table ∧ world.number listed ≠ world.number handle := by
      simp only [World.listed, HandleTable.mem_handles, mem_entries_erased tables]
      constructor
      · rintro ⟨id, member, differs⟩
        exact ⟨⟨id, member⟩, booked.shelved.numbered member ▸ differs⟩
      · rintro ⟨⟨id, member⟩, differs⟩
        exact ⟨id, member, booked.shelved.numbered member ▸ differs⟩
    rw [kept]
    refine and_congr_right fun before => ?_
    obtain ⟨button, member⟩ := (booked.tabled listed).mp before
    rw [lives button listed member]
    exact not_congr ⟨own listed before, fun same => same ▸ rfl⟩

end Operations

/-- The table of a dispatcher, which is reached through the dispatcher. -/
def handlerWay (world : World) (target : Ref .dispatcher) : Option (Ref .dispatcher) × Ref .table :=
  (some target, (world.dispatchers.get target).table)

def loopWay (world : World) (target : Ref .scheduler) : Option (Ref .dispatcher) × Ref .table :=
  (none, (world.schedulers.get target).table)

/-- The tables in which calling a method lists or destroys callbacks, and the dispatchers
through which they are reached. -/
def reaches (world : World) : Method → List (Option (Ref .dispatcher) × Ref .table)
  | .table target .create | .table target .destroy | .table target .destroyAll => [(none, target)]
  | .scheduler target .register | .scheduler target .cancel | .scheduler target .cancelAll =>
    [world.loopWay target]
  | .dispatcher target .register | .dispatcher target .unregister
  | .dispatcher target .clear | .dispatcher target .reset => [world.handlerWay target]
  | .bridge target .forever => [world.loopWay (world.bridges.get target).scheduler]
  | .bridge target .onButtonPressed | .bridge target .clearButtonHandlers =>
    [world.handlerWay (world.bridges.get target).dispatcher]
  | .bridge target .reset =>
    let bridge := world.bridges.get target
    [world.loopWay bridge.scheduler, world.handlerWay bridge.dispatcher]
  | .board target .reset =>
    let bridge := world.bridges.get (world.boards.get target).bridge
    [world.loopWay bridge.scheduler, world.handlerWay bridge.dispatcher]
  | _ => []

/-- The tables whose callbacks closing a board destroys. -/
def closing (world : World) (target : Ref .board) : List (Option (Ref .dispatcher) × Ref .table) :=
  let board := world.boards.get target
  [world.loopWay board.scheduler, world.handlerWay board.dispatcher]

/-- A table is reached through its dispatcher only. -/
def Through (target : Ref .dispatcher) (table : Ref .table)
    (ways : List (Option (Ref .dispatcher) × Ref .table)) : Prop :=
  ∀ way, (way, table) ∈ ways → way = some target

section Ways

variable {ways : List (Option (Ref .dispatcher) × Ref .table)} {shelf : Ref .table}

theorem Through.elsewhere (through : Through target table ways) (inside : (none, shelf) ∈ ways) :
    shelf ≠ table := by
  rintro rfl
  cases through none inside

theorem Through.loops (through : Through target table ways) {scheduler : Ref .scheduler}
    (inside : world.loopWay scheduler ∈ ways) : (world.schedulers.get scheduler).table ≠ table :=
  through.elsewhere inside

theorem Through.handlers (through : Through target table ways)
    (inside : world.handlerWay other ∈ ways) (same : (world.dispatchers.get other).table = table) :
    other = target := by
  subst same
  exact Option.some.inj (through (some other) inside)

end Ways

/-- A handle that a table is asked to destroy: the table of the dispatcher lists no other one
with its number, and another table is not asked for a handler of the dispatcher. -/
structure Apt (target : Ref .dispatcher) (table : Ref .table) (world : World)
    (asked : Option (Ref .table × Ref .handle)) : Prop where
  own : ∀ handle, asked = some (table, handle) → ∀ listed ∈ world.listed table,
    world.number listed = world.number handle → listed = handle
  foreign : ∀ shelf handle, asked = some (shelf, handle) → shelf ≠ table →
    ∀ button, handle ∉ world.roll target button

section Upkeep

variable (booked : world.Booked target table)
include booked

omit booked in
theorem Upkeep.unmoved (upkeep : Upkeep target table old middle) (unmoved : Unmoved middle new) :
    Upkeep target table old new := by
  have alive : new.alive = middle.alive := by
    funext handle
    have same := unmoved.stage handle
    simp only [stage] at same
    simp only [World.alive, Handle.isDestroyed, same]
  exact ⟨fun button => (unmoved.roll target button).trans (alive ▸ upkeep.roll button),
    fun handle => by rw [unmoved.listed, alive]; exact upkeep.listed handle⟩

theorem upkeep_of_unmoved (unmoved : Unmoved world new) : Upkeep target table world new :=
  unmoved.bypasses.upkeep booked

theorem upkeep_of_leaves {next : World × Focus}
    (leaves : Leaves Unmoved (fun _ => True) world next) : Upkeep target table world next.1 :=
  upkeep_of_unmoved booked leaves.keeps

/-- Loops and handlers are destroyed, one after the other. -/
theorem upkeep_stopped {scheduler : Ref .scheduler}
    (through : Through target table [world.loopWay scheduler, world.handlerWay other]) :
    Upkeep target table world ((world.cancelAll scheduler).clearHandlers other) := by
  have differs := through.loops List.mem_cons_self
  have first : Upkeep target table world (world.cancelAll scheduler) :=
    (booked.bypasses_destroyAll differs).upkeep booked
  have steps : Steps .everything world (world.cancelAll scheduler) := cancelAll_steps scheduler
  have halted := booked.upkeep steps first
  refine booked.upkeep_trans steps first (clearHandlers_steps other) (halted.clearHandlers ?_)
  rw [cancelAll_dispatchers]
  exact through.handlers (List.mem_cons_of_mem _ List.mem_cons_self)

theorem resetBoard_upkeep {bridge : Ref .bridge}
    (through : Through target table [world.loopWay (world.bridges.get bridge).scheduler,
      world.handlerWay (world.bridges.get bridge).dispatcher]) :
    Upkeep target table world (world.resetBoard bridge).1 :=
  (upkeep_stopped booked through).unmoved (unmoved_of_same rfl rfl rfl)

theorem resetDispatcher_upkeep
    (reach : (world.dispatchers.get other).table = table → other = target) :
    Upkeep target table world (world.resetDispatcher other) :=
  (booked.clearHandlers reach).unmoved (unmoved_of_same rfl rfl rfl)

theorem withHandle_upkeep {value : Value} {change : Ref .handle → World}
    (upkeep : ∀ handle, value = .handle handle → Upkeep target table world (change handle)) :
    Upkeep target table world (world.withHandle value change).1 := by
  cases value with
  | handle handle => exact upkeep handle rfl
  | _ => exact upkeep_of_unmoved booked (.refl world)

theorem createHandle_upkeep {shelf : Ref .table} (differs : shelf ≠ table) (callback : Value)
    (kind : String) : Upkeep target table world (world.createHandle shelf callback kind).1 := by
  rcases createHandle_cases world shelf callback kind with ⟨fault, failed⟩ | ⟨trace, -, created⟩
  · rw [failed]
    exact upkeep_of_unmoved booked (.refl world)
  · rw [created]
    refine Bypasses.upkeep ?_ booked
    exact booked.bypasses_create differs (fun _ => rfl) rfl rfl

theorem startLoop_upkeep {scheduler : Ref .scheduler}
    (differs : (world.schedulers.get scheduler).table ≠ table) (callback : Value) :
    Upkeep target table world (world.startLoop scheduler callback).1 := by
  have created := createHandle_upkeep booked differs callback "forever"
  have steps : Steps .everything world (world.createHandle _ callback "forever").1 :=
    .handles (.create world (world.schedulers.get scheduler).table callback "forever")
  unfold startLoop
  split
  · exact upkeep_of_unmoved booked (.refl world)
  · split
    next result =>
      rw [result] at created
      exact created
    next made handle result =>
      rw [result] at created steps
      have later := booked.upkeep steps created
      exact booked.upkeep_trans steps created (.handles (.activate made handle))
        ((later.bypasses_activate handle).upkeep later)

theorem registerHandler_upkeep (differs : other ≠ target)
    (reach : (world.dispatchers.get other).table = table → other = target)
    (button handler : Value) :
    Upkeep target table world (world.registerHandler other button handler).1 := by
  rcases registerHandler_cases world other button handler with
    ⟨fault, failed⟩ | ⟨known, new, -, enlists, registered⟩
  · rw [failed]
    exact upkeep_of_unmoved booked (.refl world)
  · rw [registered]
    refine (booked.bypasses_create (fun same => differs (reach same)) (fun listed => ?_)
      enlists.tables enlists.handles).upkeep booked
    rcases enlists.roll target listed with same | ⟨-, equal, -⟩
    · exact same
    · exact absurd equal differs

theorem unregister_upkeep (nodup : ∀ button, (world.roll target button).Nodup)
    (reach : (world.dispatchers.get other).table = table → other = target)
    (apt : world.Apt target table (some ((world.dispatchers.get other).table, handle))) :
    Upkeep target table world (world.unregister other handle) := by
  by_cases own : other = target
  · subst own
    exact booked.unregister nodup (apt.own handle (by rw [booked.owns]))
  · have differs : (world.dispatchers.get other).table ≠ table := fun same => own (reach same)
    have outside := apt.foreign _ handle rfl differs
    refine Bypasses.upkeep ⟨fun button => ?_, ?_, fun button listed member => ?_⟩ booked
    · rw [roll, unregister_dispatchers, Arena.get_modify_of_ne _ _ (Ne.symm own), roll]
    · rw [listed, unregister_tables, Arena.get_modify_of_ne _ _ (Ne.symm differs), listed]
    · have different : listed ≠ handle := fun same => outside button (same ▸ member)
      rw [stage, unregister_handles, Arena.get_modify_of_ne _ _ different, stage]

/-- A method that is called keeps the books, unless it registers a handler. -/
theorem callMethod_upkeep {method : Method} {arguments : Arguments}
    (nodup : ∀ button, (world.roll target button).Nodup)
    (through : Through target table (world.reaches method))
    (apt : world.Apt target table (world.destroyed? method arguments))
    (registers : ∀ button handler,
      method.registers? world arguments ≠ some (target, button, handler)) :
    Upkeep target table world (world.callMethod method arguments).1 := by
  cases listed : world.lists? method with
  | some shelf =>
      cases Lists.of_lists? listed with
      | create =>
          have created := createHandle_upkeep booked (through.elsewhere List.mem_cons_self)
            (arguments.get 0 "callback") (arguments.get 1 "kind").plain
          simp only [callMethod, callTable]
          split
          next result =>
            rw [result] at created
            exact created
          next result =>
            rw [result] at created
            exact created
      | register | forever =>
          exact startLoop_upkeep booked (through.loops List.mem_cons_self) _
      | handle | onButtonPressed =>
          refine registerHandler_upkeep booked ?_ (through.handlers List.mem_cons_self) _ _
          rintro rfl
          exact registers _ _ rfl
  | none =>
      cases recorded : method.recorded? with
      | some handle =>
          obtain rfl := Method.recorded?_eq_some recorded
          simp only [callMethod]
          rcases recordFailure_cases world handle arguments with ⟨fault, -, same⟩ | ⟨-, same⟩
          · exact same ▸ upkeep_of_unmoved booked (.refl world)
          · exact same ▸ upkeep_of_unmoved booked (unmoved_storeFailure world handle _)
      | none =>
          cases restages : method.restages with
          | false =>
              exact upkeep_of_leaves booked
                (callMethod_gentle gentle_unmoved listed recorded restages)
          | true =>
              unfold Method.restages at restages
              split at restages
              case h_1 =>
                simp only [callMethod, callHandle]
                split
                · exact upkeep_of_unmoved booked (.refl world)
                · exact (booked.bypasses_activate _).upkeep booked
              case h_2 | h_3 =>
                refine withHandle_upkeep booked fun handle given => ?_
                have differs := through.elsewhere List.mem_cons_self
                have outside := apt.foreign _ handle (by simp only [destroyed?, given]) differs
                exact (bypasses_destroyHandle differs outside).upkeep booked
              case h_4 | h_5 =>
                exact (booked.bypasses_destroyAll (through.elsewhere List.mem_cons_self)).upkeep
                  booked
              case h_6 =>
                refine withHandle_upkeep booked fun handle given => ?_
                refine unregister_upkeep booked nodup (through.handlers List.mem_cons_self) ?_
                simpa only [destroyed?, given] using apt
              case h_7 | h_8 => exact booked.clearHandlers (through.handlers List.mem_cons_self)
              case h_9 => exact resetDispatcher_upkeep booked (through.handlers List.mem_cons_self)
              case h_10 | h_11 => exact resetBoard_upkeep booked through
              case h_12 => cases restages

end Upkeep

end World

end Microboard
