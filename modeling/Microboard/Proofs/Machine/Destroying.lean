import Microboard.Proofs.Machine.Issued
import Microboard.Proofs.World.Numbering

/-!
# Destroying one handle

A table that is asked to destroy a handle makes it inert and drops what it lists under
its number.  Nothing else changes, so a handle that another number was given to stays
within the reach of whoever destroys all that is listed.
-/

namespace Microboard

namespace World

variable {world old new : World} {table : Ref .table} {target handle : Ref .handle}

def number (world : World) (handle : Ref .handle) : Nat :=
  (world.handles.get handle).id

/-- What a table answers when it is asked for the handle with a number. -/
def Answers (world : World) (table : Ref .table) (id : Nat) (answer : Value) : Prop :=
  world.callTable table .get (.single (.int id)) = (world, .value answer)

/-- One handle has been destroyed through a table, and what has not been listed there under
its number is as it was. -/
structure DestroysOne (table : Ref .table) (target : Ref .handle) (old new : World) :
    Prop where
  destroyed : new.Destroyed target
  released : (new.handles.get target).callback = none
  handles : ∀ other, other ≠ target → new.handles.get other = old.handles.get other
  tables : ∀ other, other ≠ table → new.tables.get other = old.tables.get other
  stays : ∀ other ∈ old.listed table, old.number other ≠ old.number target →
    other ∈ new.listed table ∧ new.Answers table (old.number other) (.handle other)
  drops : ∀ other ∈ old.listed table, old.number other = old.number target →
    other ∉ new.listed table ∧ new.Answers table (old.number other) .none

theorem equals_number (first second : Nat) :
    (Value.int first).equals (.int second) = (first == second) := by
  simp only [Value.equals, Value.sameAtom, Value.number?, Number.equals]
  rw [Bool.eq_iff_iff, beq_iff_eq, beq_iff_eq, Int.ofNat_inj]

theorem answers_of_find? (id : Nat) :
    world.Answers table id
      (match (world.tables.get table).find? id with
      | some handle => .handle handle
      | none => .none) := by
  have asked : (Arguments.single (.int id)).get 0 "handle_id" = .int id := rfl
  simp only [Answers, callTable, asked, equals_number, HandleTable.find?, answer]
  induction (world.tables.get table).entries with
  | nil => rfl
  | cons entry rest induction =>
      rw [List.find?_cons, List.lookup_cons]
      cases id == entry.1 with
      | true => rfl
      | false => exact induction

variable {id : Nat}

theorem answers_of_mem (numbered : (world.tables.get table).Numbered)
    (member : (id, handle) ∈ (world.tables.get table).entries) :
    world.Answers table id (.handle handle) := by
  have answers : world.Answers table id _ := world.answers_of_find? id
  rw [numbered.find? member] at answers
  exact answers

theorem answers_of_not_mem
    (missing : ∀ handle, (id, handle) ∉ (world.tables.get table).entries) :
    world.Answers table id .none := by
  have unlisted : (world.tables.get table).find? id = none := by
    apply List.lookup_eq_none_iff.mpr
    rintro ⟨other, handle⟩ member
    simp only [bne_iff_ne, ne_eq]
    rintro rfl
    exact missing handle member
  have answers : world.Answers table id _ := world.answers_of_find? id
  rw [unlisted] at answers
  exact answers

theorem Filed.numbered (filed : world.Filed)
    (member : (id, handle) ∈ (world.tables.get table).entries) : id = world.number handle :=
  (filed.entries table (id, handle) member).2

theorem mem_entries_erased {number : Nat}
    (tables : new.tables = old.tables.modify table (·.erase number))
    (entry : Nat × Ref .handle) :
    entry ∈ (new.tables.get table).entries ↔
      entry ∈ (old.tables.get table).entries ∧ entry.1 ≠ number := by
  rw [tables]
  by_cases stands : old.tables.Has table
  · rw [Arena.get_modify_self _ stands, HandleTable.entries_erase, List.mem_filter,
      decide_eq_true_eq]
  · rw [Arena.get_of_not_has stands,
      Arena.get_of_not_has fun later => stands (Arena.has_modify.mp later)]
    exact ⟨fun member => absurd member List.not_mem_nil,
      fun member => absurd member.1 List.not_mem_nil⟩

theorem Filed.destroysOne (filed : old.Filed) (numbered : (old.tables.get table).Numbered)
    (has : old.handles.Has target)
    (handles : new.handles = old.handles.modify target Handle.destroy)
    (tables : new.tables = old.tables.modify table (·.erase (old.number target))) :
    DestroysOne table target old new := by
  have record : new.handles.get target = (old.handles.get target).destroy := by
    rw [handles, Arena.get_modify_self _ has]
  have kept := mem_entries_erased tables
  have follows : (old.tables.get table).Follows (new.tables.get table) :=
    follows_modify (HandleTable.follows_erase _ _) tables
  constructor
  case destroyed =>
    rw [Destroyed, record]
    rfl
  case released =>
    rw [record]
    rfl
  case handles =>
    intro other differs
    rw [handles, Arena.get_modify_of_ne _ _ differs]
  case tables =>
    intro other differs
    rw [tables, Arena.get_modify_of_ne _ _ differs]
  case stays =>
    intro other listed differs
    obtain ⟨id, member⟩ := HandleTable.mem_handles.mp listed
    obtain rfl := filed.numbered member
    have still := (kept (old.number other, other)).mpr ⟨member, differs⟩
    exact ⟨HandleTable.mem_handles.mpr ⟨_, still⟩,
      answers_of_mem (follows.numbered numbered) still⟩
  case drops =>
    intro other listed same
    constructor
    · intro still
      obtain ⟨id, member⟩ := HandleTable.mem_handles.mp still
      obtain ⟨earlier, differs⟩ := (kept (id, other)).mp member
      exact differs ((filed.numbered earlier).trans same)
    · apply answers_of_not_mem
      intro handle member
      exact ((kept _).mp member).2 same

/-- The tables whose handles are all destroyed by calling a method. -/
def swept (world : World) : Method → List (Ref .table)
  | .table target .destroyAll => [target]
  | .scheduler target .cancelAll => [(world.schedulers.get target).table]
  | .dispatcher target .clear | .dispatcher target .reset =>
    [(world.dispatchers.get target).table]
  | .bridge target .clearButtonHandlers =>
    [(world.dispatchers.get (world.bridges.get target).dispatcher).table]
  | .bridge target .reset =>
    [(world.schedulers.get (world.bridges.get target).scheduler).table,
      (world.dispatchers.get (world.bridges.get target).dispatcher).table]
  | .board target .reset =>
    let bridge := world.bridges.get (world.boards.get target).bridge
    [(world.schedulers.get bridge.scheduler).table,
      (world.dispatchers.get bridge.dispatcher).table]
  | _ => []

theorem destroyed_of_resetBoard {bridge : Ref .bridge} (has : world.handles.Has handle)
    (listed : handle ∈ world.listed table)
    (inside : table ∈ [(world.schedulers.get (world.bridges.get bridge).scheduler).table,
      (world.dispatchers.get (world.bridges.get bridge).dispatcher).table]) :
    (world.resetBoard bridge).1.Destroyed handle := by
  generalize loops : (world.schedulers.get (world.bridges.get bridge).scheduler).table = first
    at inside
  have handlers := congrArg (fun dispatchers : Arena .dispatcher Dispatcher =>
    (dispatchers.get (world.bridges.get bridge).dispatcher).table)
      (world.cancelAll_dispatchers (world.bridges.get bridge).scheduler)
  generalize (world.dispatchers.get (world.bridges.get bridge).dispatcher).table = second
    at inside handlers
  have middle := (grows_destroyAll world first).handles handle has
  suffices reached : ((world.destroyAll first).destroyAll second).Destroyed handle by
    rw [← handlers, ← loops] at reached
    exact reached
  rcases List.mem_cons.mp inside with rfl | last
  · have destroyed := destroyed_of_destroyAll has listed
    exact ((grows_destroyAll _ second).handles handle middle.1).2.destroyed destroyed
  · obtain rfl := List.mem_singleton.mp last
    by_cases own : first = table
    · subst own
      have destroyed := destroyed_of_destroyAll has listed
      exact ((grows_destroyAll _ first).handles handle middle.1).2.destroyed destroyed
    · apply destroyed_of_destroyAll middle.1
      rw [World.listed, destroyAll_get_of_ne own]
      exact listed

theorem destroyed_of_swept {method : Method} {arguments : Arguments}
    (has : world.handles.Has handle) (listed : handle ∈ world.listed table)
    (inside : table ∈ world.swept method) :
    (world.callMethod method arguments).1.Destroyed handle := by
  have reached := destroyed_of_destroyAll has listed
  unfold swept at inside
  split at inside
  case h_1 | h_2 | h_3 | h_4 | h_5 =>
    obtain rfl := List.mem_singleton.mp inside
    exact reached
  case h_6 | h_7 => exact destroyed_of_resetBoard has listed inside
  case h_8 => exact absurd inside List.not_mem_nil

end World

namespace Machine

variable {looping : Bool} {registry : Registry} {names : List (String × Value)}
variable {machine next : Machine} {past : List Machine} {table : Ref .table}
variable {target handle : Ref .handle}

/-- The call at hand destroys all that a table lists. -/
def DestroysAll (table : Ref .table) (machine : Machine) : Prop :=
  ∃ thread method arguments, machine.control = .busy thread (.call (.method method) arguments) ∧
    table ∈ machine.world.swept method

/-- The call at hand does not ask a table to destroy another handle with the number of this
one. -/
def Spares (table : Ref .table) (handle : Ref .handle) (machine : Machine) : Prop :=
  ∀ target, machine.destroyed? = some (table, target) → target ≠ handle →
    machine.world.number handle ≠ machine.world.number target

/-- Whoever destroys all that a table lists reaches the handle. -/
structure Reachable (table : Ref .table) (handle : Ref .handle) (machine : Machine) : Prop where
  holds : machine.world.Destroyed handle ∨
    machine.world.Answers table (machine.world.number handle) (.handle handle)
  swept : ∀ next, Move machine next → machine.DestroysAll table → next.world.Destroyed handle

theorem callMethod_destroys {world : World} {method : Method} {arguments : Arguments}
    (asked : world.destroyed? method arguments = some (table, target)) :
    (world.callMethod method arguments).2 = .nothing ∧
      (world.callMethod method arguments).1.handles =
        world.handles.modify target Handle.destroy ∧
      (world.callMethod method arguments).1.tables =
        world.tables.modify table (·.erase (world.number target)) := by
  unfold World.destroyed? at asked
  split at asked
  next handle given =>
    split at asked
    next owner =>
      cases asked
      simp only [World.callMethod, World.callTable, given, World.withHandle]
      exact ⟨trivial, World.destroyHandle_handles _ _ _, World.destroyHandle_tables _ _ _⟩
    next owner =>
      cases asked
      simp only [World.callMethod, World.callScheduler, given, World.withHandle]
      exact ⟨trivial, World.destroyHandle_handles _ _ _, World.destroyHandle_tables _ _ _⟩
    next owner =>
      cases asked
      simp only [World.callMethod, World.callDispatcher, given, World.withHandle]
      exact ⟨trivial, World.unregister_handles _ _ _, World.unregister_tables _ _ _⟩
    next => cases asked
  next => split at asked <;> cases asked

theorem Move.destroys (move : Move machine next)
    (asked : machine.destroyed? = some (table, target)) :
    (∃ thread, next.control = .busy thread .nothing) ∧
      next.world.handles = machine.world.handles.modify target Handle.destroy ∧
      next.world.tables =
        machine.world.tables.modify table (·.erase (machine.world.number target)) := by
  unfold destroyed? at asked
  split at asked
  next thread method arguments busy =>
    obtain ⟨answered, handles, tables⟩ := callMethod_destroys asked
    rw [move.of_method busy fun function same => by subst same; cases asked]
    exact ⟨⟨thread, congrArg (Control.busy thread) answered⟩, handles, tables⟩
  next => cases asked

/-- A move keeps a handle listed or destroys it, unless another handle with its number is
to be destroyed. -/
theorem Move.holds (move : Move machine next) (sound : machine.Sound)
    (filed : machine.world.Filed) (holds : machine.world.Holds table handle)
    (has : machine.world.handles.Has handle) (spares : machine.Spares table handle) :
    next.world.Holds table handle := by
  by_cases named : ∃ target, machine.destroyed? = some (table, target)
  · obtain ⟨target, asked⟩ := named
    obtain ⟨-, handles, tables⟩ := move.destroys asked
    by_cases own : target = handle
    · subst own
      apply Or.inl
      rw [World.Destroyed, handles, Arena.get_modify_self _ has]
      rfl
    · apply holds.imp ((move.grows sound).handles handle has).2.destroyed
      intro listed
      obtain ⟨id, member⟩ := HandleTable.mem_handles.mp listed
      have differs := spares target asked own
      rw [← filed.numbered member] at differs
      apply HandleTable.mem_handles.mpr
      refine ⟨id, (World.mem_entries_erased tables _).mpr ⟨member, differs⟩⟩
  · have orderly : machine.Orderly fun other _ => other ≠ table := by
      apply orderly_of_destroyed
      rintro other target asked rfl
      exact named ⟨target, asked⟩
    exact (move.steps sound.focus orderly).holds holds has fun _ asked => asked rfl

theorem Run.holds {start : Machine} (run : Run start past machine) (sound : start.Sound)
    (filed : start.world.Filed) (holds : start.world.Holds table handle)
    (has : start.world.handles.Has handle) (spares : ∀ state ∈ past, state.Spares table handle) :
    machine.world.Holds table handle := by
  induction run with
  | refl => exact holds
  | @move past machine next run move induction =>
      obtain ⟨earlier, last⟩ := forall_snoc spares
      have middle := run.sound sound
      have grows := (run.grows sound).handles handle has
      exact move.holds middle (filed.steps (run.steps sound)) (induction earlier) grows.1 last

theorem Run.numbering (run : Run (initial (.initial looping registry) names) past machine)
    (table : Ref .table) : (machine.world.tables.get table).Numbered := by
  have follows := (run.steps (sound_initial looping registry names)).follows table
  apply follows.numbered
  exact ⟨List.Pairwise.nil, fun _ member => absurd member List.not_mem_nil⟩

/-- No other handle that a table lists has the number of one that it has issued. -/
theorem Run.issued_number (run : Run (initial (.initial looping registry) names) past machine)
    (issued : Issued table past machine target) (listed : handle ∈ machine.world.listed table)
    (same : machine.world.number handle = machine.world.number target) : handle = target := by
  obtain ⟨state, member, early⟩ := issued
  obtain ⟨before, after, toState, further⟩ : ∃ before after,
      Run (initial (.initial looping registry) names) before state ∧ Run state after machine := by
    rcases List.mem_append.mp member with earlier | last
    · obtain ⟨before, after, rfl⟩ := List.append_of_mem earlier
      exact ⟨before, _, run.split⟩
    · cases List.mem_singleton.mp last
      exact ⟨past, [], run, .refl⟩
  have sound := toState.sound (sound_initial looping registry names)
  have follows := (further.steps sound).follows table
  obtain ⟨old, issuing⟩ := HandleTable.mem_handles.mp early
  obtain ⟨id, standing⟩ := HandleTable.mem_handles.mp listed
  have kept : machine.world.number target = state.world.number target :=
    ((further.grows sound).handles target (toState.filed.entries table _ issuing).1).2.id
  rw [← toState.filed.numbered issuing, ← run.filed.numbered standing] at *
  rcases follows.listed _ standing with earlier | late
  · exact congrArg Prod.snd ((toState.numbering table).single earlier issuing (same.trans kept))
  · have below := (toState.numbering table).given _ issuing
    omega

/-- What it does to ask a table to destroy one handle: the handle is inert, and all that the
table lists under other numbers stays within the reach of whoever destroys what it lists. -/
structure OneDestroyed (table : Ref .table) (target : Ref .handle) (past : List Machine)
    (machine next : Machine) : Prop where
  returns : ∃ thread, next.control = .busy thread .nothing
  one : World.DestroysOne table target machine.world next.world
  own : Issued table past machine target → ∀ handle ∈ machine.world.listed table,
    handle ≠ target → machine.world.number handle ≠ machine.world.number target
  reaches : ∀ handle ∈ next.world.listed table, ∀ more later, Run next more later →
    (∀ state ∈ more, state.Spares table handle) → later.Reachable table handle

theorem destroy_spares_other_numbers
    (run : Run (initial (.initial looping registry) names) past machine)
    (has : machine.world.handles.Has target)
    (asked : machine.destroyed? = some (table, target)) (move : Move machine next) :
    OneDestroyed table target past machine next := by
  obtain ⟨returns, handles, tables⟩ := move.destroys asked
  constructor
  case returns => exact returns
  case one => exact run.filed.destroysOne (run.numbering table) has handles tables
  case own =>
    intro issued handle listed differs same
    exact differs (run.issued_number issued listed same)
  case reaches =>
    intro handle listed more later further spares
    have reached := run.move move
    have sound := reached.sound (sound_initial looping registry names)
    obtain ⟨id, member⟩ := HandleTable.mem_handles.mp listed
    have present := (reached.filed.entries table _ member).1
    have holds := further.holds sound reached.filed (.inr listed) present spares
    have still := ((further.grows sound).handles handle present).1
    have whole := reached.trans further
    constructor
    case holds =>
      apply holds.imp_right
      intro listed
      obtain ⟨id, member⟩ := HandleTable.mem_handles.mp listed
      obtain rfl := whole.filed.numbered member
      exact World.answers_of_mem (whole.numbering table) member
    case swept =>
      rintro after move ⟨thread, method, arguments, busy, inside⟩
      rcases holds with destroyed | listed
      · have grows := (move.grows (further.sound sound)).handles handle still
        exact grows.2.destroyed destroyed
      · have called : later.call thread (.method method) arguments =
            later.go thread (later.world.callMethod method arguments) := by
          cases method with
          | function => cases inside
          | _ => rfl
        rw [move.of_busy busy, advance, called]
        exact World.destroyed_of_swept still listed inside

/-- A program that registers two loops and a handler, cancels the handler with the scheduler
and resets the board. -/
def confusing : Program :=
  building <| .define .plain (fun _ => .finish .nothing) fun callback =>
    .call (.method (.bridge ⟨0⟩ .forever)) (.single callback) fun _ =>
      .call (.method (.bridge ⟨0⟩ .forever)) (.single callback) fun _ =>
        .call (.method (.bridge ⟨0⟩ .onButtonPressed)) ⟨[.button .a, callback], []⟩ fun reply =>
          .call (.method (.scheduler ⟨0⟩ .cancel))
            ⟨(match reply with | .ok handle => [handle] | _ => []), []⟩ fun _ =>
            .call (.method (.bridge ⟨0⟩ .reset)) .empty .finish

/-- The scheduler is asked to destroy the handler. -/
def confused : Machine := settle 27 (begun confusing)

def dropped : Machine := settle 1 confused

/-- The board is about to be reset. -/
def recovering : Machine := settle 3 dropped

theorem destroy_spares_other_numbers_loop :
    confused.world.handles.Has ⟨2⟩ ∧ confused.destroyed? = some (⟨0⟩, ⟨2⟩) ∧
      OneDestroyed ⟨0⟩ ⟨2⟩ ([initial (.initial true .empty) []] ++ visited 27 (begun confusing))
        confused dropped :=
  ⟨by decide, rfl, destroy_spares_other_numbers (run_begun confusing 27) (by decide) rfl
    (.of_step? rfl)⟩

/-- The scheduler drops the loop that has the number of the handler: it stays active, and
the reset does not reach it. -/
theorem destroy_drops_namesake :
    (∃ past, Run (initial (.initial true .empty) []) past confused) ∧
      confused.destroyed? = some (⟨0⟩, ⟨2⟩) ∧ ⟨0⟩ ∈ confused.world.listed ⟨0⟩ ∧
      Move confused dropped ∧ ⟨0⟩ ∉ dropped.world.listed ⟨0⟩ ∧
      dropped.world.Answers ⟨0⟩ (dropped.world.number ⟨0⟩) .none ∧
      Run dropped (visited 3 dropped) recovering ∧ recovering.DestroysAll ⟨0⟩ ∧
      Run recovering (visited 9 recovering) (settle 9 recovering) ∧
      ((settle 9 recovering).world.handles.get ⟨0⟩).isActive = true :=
  ⟨⟨_, run_begun confusing 27⟩, rfl, .head _, .of_step? rfl, by decide,
    World.answers_of_find? _, run_settle 3 dropped, ⟨_, _, _, rfl, .head _⟩,
    run_settle 9 recovering, rfl⟩

end Machine

end Microboard
