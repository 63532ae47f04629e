import Microboard.Proofs.Dispatcher.Upkeep

/-!
# Bookkeeping

The lists of a dispatcher hold the handles that it has given out for each button and that have
not been destroyed since, in the order in which it gave them out; its table lists the same
handles.  So it is at any moment of a run, whoever is being called.
-/

namespace Microboard

/-- The handle that an operation answers with. -/
def Focus.handle? : Focus → Option (Ref .handle)
  | .reply (.ok (.handle handle)) => some handle
  | _ => none

theorem Focus.eq_of_handle? {focus : Focus} {handle : Ref .handle}
    (answered : focus.handle? = some handle) : focus = .value (.handle handle) := by
  unfold handle? at answered
  split at answered
  · cases answered
    rfl
  · cases answered

namespace World

variable {old new : World} {target : Ref .dispatcher} {table : Ref .table}
variable {known : Button} {handler : Value} {scope : Scope}

theorem registerHandler_accepts (world : World) (target : Ref .dispatcher) {value : Value}
    (accepted : value.toButton = .ok known) (callable : handler.isCallable = true) :
    (world.registerHandler target value handler).2 = .value (.handle world.handles.fresh) := by
  simp only [registerHandler, accepted, createHandle, callable, if_true]

namespace Enlists

variable (enlists : Enlists target known handler old new) (booked : old.Booked target table)
include enlists booked

theorem roll_own (button : Button) :
    new.roll target button =
      old.roll target button ++ if button = known then [old.handles.fresh] else [] := by
  unfold World.roll
  rw [enlists.dispatchers, Arena.get_modify_self _ booked.has]
  split
  next same =>
    subst same
    exact PerButton.get_set_self _ _ _
  next differs =>
    rw [List.append_nil]
    exact PerButton.get_set_of_ne _ _ differs

theorem listed_own : new.listed table = old.listed table ++ [old.handles.fresh] := by
  have stands := booked.shelved.dispatchers target booked.has
  rw [booked.owns] at stands
  rw [World.listed, enlists.tables, booked.owns, Arena.get_modify_self _ stands,
    HandleTable.handles_insert]
  rfl

omit booked in
theorem active_fresh : (new.handles.get old.handles.fresh).isActive = true := by
  rw [enlists.handles, Arena.get_push_fresh]
  rfl

omit booked in
theorem get_handle {handle : Ref .handle} (has : old.handles.Has handle) :
    new.handles.get handle = old.handles.get handle := by
  rw [enlists.handles, Arena.get_push_of_has has]

theorem rebooked (steps : Steps scope old new) : new.Booked target table where
  has := ((Steps.grows steps).dispatchers target booked.has).1
  owns := ((Steps.grows steps).dispatchers target booked.has).2.table.trans booked.owns
  shelved := booked.shelved.steps steps
  active button handle member := by
    rw [enlists.roll_own booked, List.mem_append, List.mem_ite_nil_right,
      List.mem_singleton] at member
    rcases member with earlier | ⟨-, rfl⟩
    · rw [enlists.get_handle (booked.has_handle earlier)]
      exact booked.active button handle earlier
    · exact enlists.active_fresh
  tabled handle := by
    rw [enlists.listed_own booked, List.mem_append, booked.tabled, List.mem_singleton]
    simp only [enlists.roll_own booked, List.mem_append, List.mem_ite_nil_right,
      List.mem_singleton, exists_or, exists_eq_left]

end Enlists

end World

namespace Machine

variable {machine next : Machine} {past : List Machine} {target : Ref .dispatcher}
variable {table : Ref .table} {button : Button}
variable {looping : Bool} {registry : Registry} {names : List (String × Value)}

/-- The handle that a dispatcher is about to give out for a handler of a button. -/
def registered? (target : Ref .dispatcher) (button : Button) (machine : Machine) :
    Option (Ref .handle) :=
  match machine.control with
  | .busy _ focus =>
    match focus.registers? machine.world with
    | some (dispatcher, given, handler) =>
      if dispatcher = target ∧ machine.world.dispatchers.Has target ∧
          given.toButton.toOption = some button then
        (machine.world.registerHandler target given handler).2.handle?
      else none
    | none => none
  | .idle => none

/-- All handles that a dispatcher has given out for a button, the oldest first. -/
def registrations (target : Ref .dispatcher) (button : Button) (past : List Machine) :
    List (Ref .handle) :=
  past.filterMap (registered? target button)

/-- The tables in which the operation at hand lists or destroys callbacks. -/
def reaches (machine : Machine) : List (Option (Ref .dispatcher) × Ref .table) :=
  match machine.control with
  | .busy _ (.call (.method method) _) => machine.world.reaches method
  | .busy _ (.await (.closeBoard target)) => machine.world.closing target
  | _ => []

/-- The table of a dispatcher has been left to the dispatcher, which has been asked to destroy
only handles that it had given out; and nobody else has been asked to destroy these. -/
structure Devoted (target : Ref .dispatcher) (table : Ref .table) (past : List Machine) :
    Prop where
  through : ∀ state ∈ past, World.Through target table state.reaches
  own : ∀ earlier state later shelf handle, past = earlier ++ state :: later →
    state.destroyed? = some (shelf, handle) →
      (shelf = table ↔ ∃ button, handle ∈ registrations target button earlier)

theorem Devoted.before (devoted : Devoted target table (past ++ [machine])) :
    Devoted target table past where
  through state member := devoted.through state (List.mem_append_left _ member)
  own earlier state later shelf handle split :=
    devoted.own earlier state (later ++ [machine]) shelf handle (by simp [split])

theorem registered?_eq_none
    (other : ∀ thread focus given handler, machine.control = .busy thread focus →
      focus.registers? machine.world ≠ some (target, given, handler)) :
    machine.registered? target button = none := by
  unfold registered?
  split
  next thread focus busy =>
    split
    next dispatcher given handler registers =>
      rw [if_neg]
      rintro ⟨rfl, -⟩
      exact other thread focus given handler busy registers
    next => rfl
  next => rfl

theorem registered?_of_accepted {thread : Thread} {focus : Focus} {value handler : Value}
    {known : Button} {handle : Ref .handle} (busy : machine.control = .busy thread focus)
    (registers : focus.registers? machine.world = some (target, value, handler))
    (has : machine.world.dispatchers.Has target) (accepted : value.toButton = .ok known)
    (answered : (machine.world.registerHandler target value handler).2 =
      .value (.handle handle)) (button : Button) :
    machine.registered? target button = if button = known then some handle else none := by
  simp only [registered?, busy, registers, has, accepted, Except.toOption, Option.some.injEq,
    true_and, eq_comm, answered]
  rfl

theorem has_of_registered? {handle : Ref .handle}
    (registered : machine.registered? target button = some handle) :
    machine.world.dispatchers.Has target := by
  unfold registered? at registered
  grind

/-- An operation other than a registration keeps the books of a dispatcher. -/
theorem Effect.upkeep {after : World} (effect : Effect machine after)
    (booked : machine.world.Booked target table)
    (nodup : ∀ button, (machine.world.roll target button).Nodup)
    (through : World.Through target table machine.reaches)
    (apt : machine.world.Apt target table machine.destroyed?)
    (registers : ∀ thread focus given handler, machine.control = .busy thread focus →
      focus.registers? machine.world ≠ some (target, given, handler)) :
    World.Upkeep target table machine.world after := by
  cases effect with
  | @calls thread callee arguments busy =>
      have registers := fun given handler => registers thread _ given handler busy
      cases callee with
      | method method =>
          simp only [reaches, busy] at through
          simp only [destroyed?, busy] at apt
          exact World.callMethod_upkeep booked nodup through apt registers
      | _ =>
          exact World.upkeep_of_leaves booked
            (World.callValue_gentle World.gentle_unmoved fun _ => Value.noConfusion)
  | @begins thread work busy =>
      cases work with
      | closeBoard board =>
          simp only [reaches, busy] at through
          exact World.upkeep_stopped booked through
      | _ =>
          exact World.upkeep_of_leaves booked
            (World.begin_gentle World.gentle_unmoved fun _ => Work.noConfusion)
  | resumes busy => exact World.upkeep_of_unmoved booked (World.resume_unmoved _ _)
  | minor quiet change => exact World.upkeep_of_unmoved booked change.unmoved

/-- The books of a dispatcher, and the handles that it has given out. -/
structure Books (target : Ref .dispatcher) (table : Ref .table) (past : List Machine)
    (machine : Machine) : Prop where
  booked : machine.world.Booked target table
  roll : ∀ button, machine.world.roll target button =
    (registrations target button past).filter machine.world.alive
  has : ∀ button, ∀ handle ∈ registrations target button past, machine.world.handles.Has handle
  issued : ∀ button, ∀ handle ∈ registrations target button past,
    Issued table past machine handle

theorem registrations_quiet (quiet : machine.registered? target button = none) :
    registrations target button (past ++ [machine]) = registrations target button past := by
  rw [registrations, filterMap_snoc, quiet]
  exact List.append_nil _

section Moves

variable (move : Move machine next) (sound : machine.Sound)
include move sound

theorem Books.upkeep (books : Books target table past machine)
    (upkeep : World.Upkeep target table machine.world next.world)
    (quiet : ∀ button, machine.registered? target button = none) :
    Books target table (past ++ [machine]) next := by
  have grows := move.grows sound
  constructor
  case booked =>
    exact books.booked.upkeep (move.steps sound.focus (orderly_everything machine)) upkeep
  case roll =>
    intro button
    rw [registrations_quiet (quiet button), upkeep.roll, books.roll, List.filter_filter]
    refine List.filter_congr fun handle member => ?_
    cases lives : next.world.alive handle with
    | false => rfl
    | true =>
        rw [Bool.true_and, World.alive_iff]
        intro destroyed
        have has := books.has button handle member
        exact World.alive_iff.mp lives ((grows.handles handle has).2.destroyed destroyed)
  case has =>
    intro button handle member
    rw [registrations_quiet (quiet button)] at member
    exact (grows.handles handle (books.has button handle member)).1
  case issued =>
    intro button handle member
    rw [registrations_quiet (quiet button)] at member
    exact (books.issued button handle member).later

/-- A registration that succeeds adds the new handle to the books. -/
theorem Books.enlists (books : Books target table past machine) {known : Button}
    {handler : Value} (enlists : World.Enlists target known handler machine.world next.world)
    (given : ∀ button, machine.registered? target button =
      if button = known then some machine.world.handles.fresh else none) :
    Books target table (past ++ [machine]) next := by
  have steps := move.steps sound.focus (orderly_everything machine)
  have grows := move.grows sound
  have joined (button : Button) : registrations target button (past ++ [machine]) =
      registrations target button past ++
        if button = known then [machine.world.handles.fresh] else [] := by
    rw [registrations, filterMap_snoc, given]
    split <;> rfl
  have either (button : Button) (handle : Ref .handle)
      (member : handle ∈ registrations target button (past ++ [machine])) :
      handle ∈ registrations target button past ∨ handle = machine.world.handles.fresh := by
    rw [joined, List.mem_append, List.mem_ite_nil_right, List.mem_singleton] at member
    exact member.imp_right And.right
  constructor
  case booked => exact enlists.rebooked books.booked steps
  case roll =>
    intro button
    rw [enlists.roll_own books.booked, joined, List.filter_append, books.roll]
    congr 1
    · refine List.filter_congr fun handle member => ?_
      rw [World.alive, World.alive, enlists.get_handle (books.has button handle member)]
    · split
      · exact (List.filter_eq_self.mpr fun handle last =>
          List.mem_singleton.mp last ▸ World.alive_of_isActive enlists.active_fresh).symm
      · rfl
  case has =>
    intro button handle member
    rcases either button handle member with earlier | rfl
    · exact (grows.handles handle (books.has button handle earlier)).1
    · rw [enlists.handles]
      exact Arena.has_push_fresh _ _
  case issued =>
    intro button handle member
    rcases either button handle member with earlier | rfl
    · exact (books.issued button handle earlier).later
    · refine ⟨next, List.mem_append_right _ List.mem_cons_self, ?_⟩
      rw [enlists.listed_own books.booked]
      exact List.mem_append_right _ List.mem_cons_self

theorem Books.registers (books : Books target table past machine) {thread : Thread}
    {focus : Focus} {value handler : Value} (busy : machine.control = .busy thread focus)
    (registers : focus.registers? machine.world = some (target, value, handler)) :
    Books target table (past ++ [machine]) next := by
  have world : next.world = (machine.world.registerHandler target value handler).1 :=
    congrArg Machine.world (move.registers busy registers)
  rcases World.registerHandler_cases machine.world target value handler with
    ⟨fault, failed⟩ | ⟨known, new, accepted, enlists, same⟩
  · rw [failed] at world
    refine books.upkeep move sound ?_ fun button => ?_
    · rw [world]
      exact World.upkeep_of_unmoved books.booked (.refl _)
    · simp only [registered?, busy, registers, failed]
      split <;> rfl
  · rw [same] at world
    subst world
    exact books.enlists move sound enlists
      (registered?_of_accepted busy registers books.booked.has accepted (congrArg Prod.snd same))

/-- A dispatcher that is new has empty books. -/
theorem Move.opens (filed : machine.world.Filed) (missing : ¬ machine.world.dispatchers.Has target)
    (arrives : next.world.dispatchers.Has target) :
    (∀ button, next.world.roll target button = []) ∧
      next.world.listed (next.world.dispatchers.get target).table = [] := by
  have steps := move.steps sound.focus (orderly_everything machine)
  have absent := steps.dispatcher_table missing arrives
  have quiet : next.world.handles.items.length = machine.world.handles.items.length := by
    apply move.size.resolve_right
    rintro ⟨thread, method, arguments, shelf, busy, lists⟩
    have stands := (filed.steps steps).dispatchers target arrives
    have called : next.world = (machine.world.callMethod method arguments).1 := by
      rw [move.of_busy busy]
      exact world_call thread (.method method) arguments
    rcases (World.callMethod_tables arguments lists).2 with same | inserted
    · rw [called, same, ← called] at stands
      exact absent stands
    · rw [called, inserted, ← called, Arena.has_modify] at stands
      exact absent stands
  constructor
  · intro button
    have fewer : World.Fewer machine.world next.world := by
      refine move.lasts World.lasting_fewer ?_ sound ?_
      · exact fun _ _ _ _ => World.fewer_of_dispatchers rfl
      intro thread focus dispatcher value handler busy registers
      have world : next.world = (machine.world.registerHandler dispatcher value handler).1 :=
        congrArg Machine.world (move.registers busy registers)
      rcases World.registerHandler_cases machine.world dispatcher value handler with
        ⟨fault, failed⟩ | ⟨known, new, -, enlists, same⟩
      · rw [failed]
        exact World.lasting_fewer.refl _
      · rw [world, same, enlists.handles] at quiet
        simp [Arena.push] at quiet
    have none : machine.world.roll target button = [] := by
      apply List.eq_nil_iff_forall_not_mem.mpr
      exact fun handle member => missing (World.has_of_roll member)
    exact List.sublist_nil.mp (none ▸ fewer target button)
  · have none : machine.world.listed (next.world.dispatchers.get target).table = [] :=
      congrArg HandleTable.handles (Arena.get_of_not_has absent)
    exact List.subset_nil.mp (none ▸ List.map_subset Prod.snd (steps.entries quiet _))

end Moves

theorem Run.shelved (run : Run (initial (.initial looping registry) names) past machine) :
    machine.world.Shelved :=
  (World.shelved_initial looping registry).steps
    (run.steps (sound_initial looping registry names))

/-- Before a dispatcher is there it gives out no handle. -/
theorem Run.registrations_nil (run : Run (initial (.initial looping registry) names) past machine)
    (missing : ¬ machine.world.dispatchers.Has target) :
    registrations target button past = [] := by
  induction run with
  | refl => rfl
  | @move past machine next run move induction =>
      have grows := move.grows (run.sound (sound_initial looping registry names))
      have before : ¬ machine.world.dispatchers.Has target :=
        fun has => missing (grows.dispatchers target has).1
      rw [registrations_quiet, induction before]
      rw [Option.eq_none_iff_forall_ne_some]
      exact fun handle registered => before (has_of_registered? registered)

/-- What a dispatcher to which its table is left may be asked to destroy. -/
theorem Books.apt (books : Books target table past machine)
    (run : Run (initial (.initial looping registry) names) past machine)
    (devoted : Devoted target table (past ++ [machine])) :
    machine.world.Apt target table machine.destroyed? := by
  constructor
  case own =>
    intro handle asked other listed same
    obtain ⟨button, given⟩ := (devoted.own past machine [] table handle rfl asked).mp rfl
    exact run.issued_number (books.issued button handle given) listed same
  case foreign =>
    intro shelf handle asked differs button member
    rw [books.roll, List.mem_filter] at member
    exact differs ((devoted.own past machine [] shelf handle rfl asked).mpr ⟨button, member.1⟩)

theorem Run.books (run : Run (initial (.initial looping registry) names) past machine)
    (has : machine.world.dispatchers.Has target)
    (devoted : Devoted target (machine.world.dispatchers.get target).table past) :
    Books target (machine.world.dispatchers.get target).table past machine := by
  induction run with
  | refl => exact absurd has (Nat.not_lt_zero _)
  | @move past machine next run move induction =>
      have sound := run.sound (sound_initial looping registry names)
      by_cases before : machine.world.dispatchers.Has target
      · rw [((move.grows sound).dispatchers target before).2.table] at devoted ⊢
        have books := induction before devoted.before
        by_cases registers : ∃ thread focus value handler, machine.control = .busy thread focus ∧
            focus.registers? machine.world = some (target, value, handler)
        · obtain ⟨thread, focus, value, handler, busy, registers⟩ := registers
          exact books.registers move sound busy registers
        · have other : ∀ thread focus value handler, machine.control = .busy thread focus →
              focus.registers? machine.world ≠ some (target, value, handler) :=
            fun thread focus value handler busy registered =>
              registers ⟨thread, focus, value, handler, busy, registered⟩
          refine books.upkeep move sound ?_ fun button => registered?_eq_none other
          exact move.effect.upkeep books.booked (run.rostered.nodup target)
            (devoted.through machine (List.mem_append_right _ List.mem_cons_self))
            (books.apt run devoted) other
      · obtain ⟨roll, listed⟩ := move.opens sound run.filed before has
        have none (button : Button) : registrations target button (past ++ [machine]) = [] := by
          rw [registrations_quiet, run.registrations_nil before]
          rw [Option.eq_none_iff_forall_ne_some]
          exact fun handle registered => before (has_of_registered? registered)
        constructor
        case booked =>
          refine ⟨has, rfl, (run.move move).shelved, ?_, ?_⟩
          · intro button handle member
            rw [roll] at member
            exact absurd member List.not_mem_nil
          · intro handle
            simp [listed, roll]
        case roll => exact fun button => by rw [roll, none]; rfl
        case has | issued =>
          intro button handle member
          rw [none] at member
          exact absurd member List.not_mem_nil

/-- What holds of a dispatcher at any moment. -/
structure KeepsBooks (target : Ref .dispatcher) (past : List Machine) (machine : Machine) :
    Prop where
  ascending : ∀ button, (machine.world.roll target button).Pairwise fun first second =>
    machine.world.number first < machine.world.number second
  disjoint : ∀ handle ∈ machine.world.roll target .a, handle ∉ machine.world.roll target .b
  active : ∀ button, ∀ handle ∈ machine.world.roll target button,
    machine.world.stage handle = .active ∧
      (machine.world.handles.get handle).kind = "button " ++ button.name
  tabled : ∀ handle, handle ∈ machine.world.listed (machine.world.dispatchers.get target).table ↔
    ∃ button, handle ∈ machine.world.roll target button
  registered : ∀ button, machine.world.roll target button =
    (registrations target button past).filter machine.world.alive
  handlers : ∀ button arguments, (arguments.get 0 "button").toButton = .ok button →
    machine.world.callDispatcher target .handlers arguments =
      (machine.world, .value (.list ((machine.world.roll target button).map .handle)))
  returns : ∀ button handle next, machine.registered? target button = some handle →
    Move machine next → ∃ thread, next.control = .busy thread (.value (.handle handle))
  registers : ∀ thread focus value handler button next, machine.control = .busy thread focus →
    focus.registers? machine.world = some (target, value, handler) →
    value.toButton = .ok button → handler.isCallable = true → Move machine next →
    ∃ handle, machine.registered? target button = some handle ∧
      next.world.roll target button = machine.world.roll target button ++ [handle]

/-- The lists and the table of a dispatcher always agree, if handles are destroyed through this
dispatcher only, and it is only asked to destroy its own. -/
theorem dispatcher_keeps_books
    (run : Run (initial (.initial looping registry) names) past machine)
    (has : machine.world.dispatchers.Has target)
    (devoted : Devoted target (machine.world.dispatchers.get target).table past) :
    KeepsBooks target past machine := by
  have books := run.books has devoted
  have rostered := run.rostered
  constructor
  case ascending => exact rostered.ascending target
  case disjoint => exact fun handle member => rostered.others member (by decide)
  case active =>
    intro button handle member
    have active := books.booked.active button handle member
    simp only [Handle.isActive, decide_eq_true_eq] at active
    exact ⟨active, (rostered.listed target button handle member).kind⟩
  case tabled => exact books.booked.tabled
  case registered => exact books.roll
  case handlers =>
    intro button arguments accepted
    have all : machine.world.handlersOf target button = machine.world.roll target button :=
      List.filter_eq_self.mpr (books.booked.active button)
    simp only [World.callDispatcher, accepted, World.answerWith, all]
  case returns =>
    intro button handle next registered move
    unfold registered? at registered
    split at registered
    next thread focus busy =>
      split at registered
      next dispatcher given handler registers =>
        split at registered
        next own =>
          obtain rfl := own.1
          refine ⟨thread, ?_⟩
          rw [move.registers busy registers]
          exact congrArg (Control.busy thread) (Focus.eq_of_handle? registered)
        next => cases registered
      next => cases registered
    next => cases registered
  case registers =>
    intro thread focus value handler button next busy registers accepted callable move
    have answered := World.registerHandler_accepts machine.world target accepted callable
    have given := registered?_of_accepted busy registers has accepted answered button
    rw [if_pos rfl] at given
    refine ⟨_, given, ?_⟩
    rcases World.registerHandler_cases machine.world target value handler with
      ⟨fault, failed⟩ | ⟨known, new, named, enlists, same⟩
    · rw [failed] at answered
      cases answered
    · obtain rfl : button = known := Except.ok.inj (accepted.symm.trans named)
      have world : next.world = new := by
        rw [move.registers busy registers, same]
        rfl
      rw [world, enlists.roll_own books.booked, if_pos rfl]

/-- A check of what the states do, given the handles that have been given out before. -/
def evidentlyDevoted (target : Ref .dispatcher) (table : Ref .table) :
    List (Ref .handle) → List Machine → Bool
  | _, [] => true
  | given, state :: rest =>
    state.reaches.all (fun way => way.2 ≠ table || way.1 = some target) &&
      state.destroyed?.all (fun asked => decide (asked.1 = table) == given.contains asked.2) &&
      evidentlyDevoted target table
        (given ++ Button.all.filterMap fun button => state.registered? target button) rest

theorem own_of_evident {given : List (Ref .handle)} (before : List Machine)
    (known : ∀ handle, handle ∈ given ↔ ∃ button, handle ∈ registrations target button before)
    (evident : evidentlyDevoted target table given past = true) (earlier : List Machine)
    (state : Machine) (later : List Machine) (shelf : Ref .table) (handle : Ref .handle)
    (split : past = earlier ++ state :: later) (asked : state.destroyed? = some (shelf, handle)) :
    shelf = table ↔ ∃ button, handle ∈ registrations target button (before ++ earlier) := by
  induction earlier generalizing past given before with
  | nil =>
      subst split
      simp only [List.nil_append, evidentlyDevoted, asked, Option.all_some, Bool.and_eq_true,
        beq_iff_eq] at evident
      rw [List.append_nil, ← known, ← List.contains_iff_mem, ← evident.1.2, decide_eq_true_eq]
  | cons first rest induction =>
      subst split
      simp only [List.cons_append, evidentlyDevoted, Bool.and_eq_true] at evident
      have joined (handle : Ref .handle) :
          handle ∈ given ++ Button.all.filterMap (fun button => first.registered? target button) ↔
            ∃ button, handle ∈ registrations target button (before ++ [first]) := by
        simp only [registrations, filterMap_snoc, List.mem_append, exists_or, Option.mem_toList,
          List.mem_filterMap, known, Button.mem_all, true_and]
      rw [List.append_cons]
      exact induction _ joined evident.2 rfl

theorem devoted_of_evident (evident : evidentlyDevoted target table [] past = true) :
    Devoted target table past where
  through := by
    generalize ([] : List (Ref .handle)) = given at evident
    induction past generalizing given with
    | nil => exact fun state member => absurd member List.not_mem_nil
    | cons first rest induction =>
        simp only [evidentlyDevoted, Bool.and_eq_true] at evident
        refine List.forall_mem_cons.mpr ⟨fun way inside => ?_, induction _ evident.2⟩
        simpa using List.all_eq_true.mp evident.1.1 _ inside
  own := own_of_evident [] (by simp [registrations]) evident

/-- A handler that takes another one from its list and presses the other button; the handler
of that one destroys all of them and registers anew. -/
def turnover : Program :=
  building <| .define .plain (fun _ => .finish .nothing) fun quiet =>
    .define .plain
      (fun _ =>
        .call (.method (.dispatcher ⟨0⟩ .reset)) .empty fun _ =>
          .call (.method (.dispatcher ⟨0⟩ .register)) ⟨[.button .a, quiet], []⟩ .finish)
      fun sweeper =>
      .define .plain
        (fun _ =>
          .call (.method (.dispatcher ⟨0⟩ .unregister)) (.single (.handle ⟨1⟩)) fun _ =>
            .call (.method (.dispatcher ⟨0⟩ .press)) (.single (.button .b)) .finish) fun handler =>
        .call (.method (.dispatcher ⟨0⟩ .register)) ⟨[.button .a, handler], []⟩ fun _ =>
          .call (.method (.dispatcher ⟨0⟩ .register)) ⟨[.button .a, quiet], []⟩ fun _ =>
            .call (.method (.dispatcher ⟨0⟩ .register)) ⟨[.button .b, sweeper], []⟩ fun _ =>
              .call (.method (.dispatcher ⟨0⟩ .press)) (.single (.button .a)) .finish

/-- After the new registration both presses are still under way. -/
theorem dispatcher_keeps_books_turnover :
    let past := [initial (.initial true .empty) []] ++ visited 48 (begun turnover)
    let machine := settle 48 (begun turnover)
    machine.world.dispatchers.Has ⟨0⟩ ∧ KeepsBooks ⟨0⟩ past machine ∧
      registrations ⟨0⟩ .a past = [⟨0⟩, ⟨1⟩, ⟨3⟩] ∧ machine.world.roll ⟨0⟩ .a = [⟨3⟩] := by
  have has : (settle 48 (begun turnover)).world.dispatchers.Has ⟨0⟩ := by decide
  exact ⟨has, dispatcher_keeps_books (run_begun turnover 48) has (devoted_of_evident rfl), rfl, rfl⟩

end Machine

end Microboard
