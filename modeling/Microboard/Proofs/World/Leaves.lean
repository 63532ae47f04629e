import Microboard.Proofs.World.Blame

/-!
# What operations leave as it is

A relation of worlds that only the listing of callbacks, the starting of tasks, the
recording of failures and the calling of subscribers can break.  The other operations keep
it; they start no loop, and put no failure down to a handle that is not known.
-/

namespace Microboard

def Frame.isPublishing : Frame → Bool
  | .publishing .. => true
  | _ => false

/-- The loop that a focus is about to start a task for: its work, and how its end will
be announced. -/
def Focus.enrols? : Focus → Option (Work × Ref .scheduler × Nat)
  | .within _ focus => focus.enrols?
  | .start work (.loopEnded scheduler id) => some (work, scheduler, id)
  | _ => none

/-- The focus is about to have a subscriber called. -/
def Focus.delivers : Focus → Bool
  | .within frame focus => frame.isPublishing || focus.delivers
  | _ => false

def Entry.isError : Entry → Bool
  | .log .error _ _ => true
  | _ => false

/-- An entry that tells of the failure of a callback. -/
def Entry.isFailure : Entry → Bool
  | .log .error .scheduler _ | .log .error .buttons _ => true
  | _ => false

theorem Entry.isFailure_of_not_error {entry : Entry} (harmless : entry.isError = false) :
    entry.isFailure = false := by
  unfold isFailure
  split <;> first | rfl | cases harmless

/-- The handle whose failure calling a method records by hand. -/
def Method.recorded? : Method → Option (Ref .handle)
  | .handle target .recordFailure => some target
  | _ => none

theorem Method.recorded?_eq_some {method : Method} {target : Ref .handle}
    (recorded : method.recorded? = some target) : method = .handle target .recordFailure := by
  unfold recorded? at recorded
  split at recorded
  · cases recorded
    rfl
  · cases recorded

/-- The methods that let a handle take part, and those that end handles. -/
def Method.restages : Method → Bool
  | .handle _ .activate => true
  | .table _ .destroy | .scheduler _ .cancel => true
  | .table _ .destroyAll | .scheduler _ .cancelAll => true
  | .dispatcher _ .unregister => true
  | .dispatcher _ .clear | .bridge _ .clearButtonHandlers => true
  | .dispatcher _ .reset => true
  | .bridge _ .reset | .board _ .reset => true
  | _ => false

namespace World

/-- The table in which calling a method lists a new callback. -/
def lists? (world : World) : Method → Option (Ref .table)
  | .table target .create => some target
  | .scheduler target .register => some (world.schedulers.get target).table
  | .dispatcher target .register => some (world.dispatchers.get target).table
  | .bridge target .forever =>
    some (world.schedulers.get (world.bridges.get target).scheduler).table
  | .bridge target .onButtonPressed =>
    some (world.dispatchers.get (world.bridges.get target).dispatcher).table
  | _ => none

/-- The methods that list a new callback, each with its table. -/
inductive Lists (world : World) : Method → Ref .table → Prop where
  | create (target : Ref .table) : Lists world (.table target .create) target
  | register (target : Ref .scheduler) :
      Lists world (.scheduler target .register) (world.schedulers.get target).table
  | handle (target : Ref .dispatcher) :
      Lists world (.dispatcher target .register) (world.dispatchers.get target).table
  | forever (target : Ref .bridge) :
      Lists world (.bridge target .forever)
        (world.schedulers.get (world.bridges.get target).scheduler).table
  | onButtonPressed (target : Ref .bridge) :
      Lists world (.bridge target .onButtonPressed)
        (world.dispatchers.get (world.bridges.get target).dispatcher).table

theorem Lists.of_lists? {world : World} {method : Method} {table : Ref .table}
    (listed : world.lists? method = some table) : world.Lists method table := by
  unfold lists? at listed
  split at listed
  case h_6 => cases listed
  all_goals
    cases listed
    constructor

/-- A relation of a world to a later one that looks at the schedulers, the dispatchers, the
handles and the trace.  It lets the stage of a handle change, handlers and entries that
tell of no error go, and new parts come. -/
structure Stable (keeps : World → World → Prop) : Prop where
  refl : ∀ world, keeps world world
  trans : ∀ {first second third : World}, keeps first second → keeps second third →
    keeps first third
  same : ∀ {old new : World}, new.schedulers = old.schedulers →
    new.dispatchers = old.dispatchers → new.handles = old.handles → new.trace = old.trace →
    keeps old new
  observe : ∀ (world : World) {entry : Entry}, entry.isError = false →
    keeps world (world.observe entry)
  activate : ∀ world target, keeps world (activate world target)
  destroy : ∀ world target, keeps world (setHandle world target Handle.destroy)
  dropHandlers : ∀ (world : World) target (handlers : Dispatcher → PerButton (List (Ref .handle))),
    (∀ dispatcher button,
      ((handlers dispatcher).get button).Sublist (dispatcher.handlers.get button)) →
    keeps world (world.setDispatcher target fun dispatcher =>
      { dispatcher with handlers := handlers dispatcher })
  newScheduler : ∀ world clock interval, keeps world (newScheduler world clock interval).1
  newDispatcher : ∀ world hardware bus, keeps world (newDispatcher world hardware bus).1

/-- A relation that operations keep which neither list a handle nor change its stage, nor drop
one from the list of a dispatcher. -/
structure Gentle (keeps : World → World → Prop) : Prop where
  refl : ∀ world, keeps world world
  trans : ∀ {first second third : World}, keeps first second → keeps second third →
    keeps first third
  same : ∀ {old new : World}, new.schedulers = old.schedulers →
    new.dispatchers = old.dispatchers → new.tables = old.tables → new.handles = old.handles →
    new.trace = old.trace → keeps old new
  observe : ∀ (world : World) {entry : Entry}, entry.isError = false →
    keeps world (world.observe entry)
  newTable : ∀ world, keeps world (newTable world).1
  newScheduler : ∀ world clock interval, keeps world (newScheduler world clock interval).1
  newDispatcher : ∀ world hardware bus, keeps world (newDispatcher world hardware bus).1

theorem Stable.gentle {keeps : World → World → Prop} (stable : Stable keeps) : Gentle keeps where
  refl := stable.refl
  trans := stable.trans
  same schedulers dispatchers _ handles trace := stable.same schedulers dispatchers handles trace
  observe := stable.observe
  newTable _ := stable.same rfl rfl rfl rfl
  newScheduler := stable.newScheduler
  newDispatcher := stable.newDispatcher

/-- A view shows the same of both worlds. -/
def Same {α : Type} (view : World → α) (old new : World) : Prop :=
  view new = view old

/-- What the relation looks at is kept, no loop is started, no subscriber is called, and no
unknown handle can be blamed. -/
structure Leaves (keeps : World → World → Prop) (known : Ref .handle → Prop) (world : World)
    (next : World × Focus) : Prop where
  keeps : keeps world next.1
  idle : next.2.enrols? = none
  silent : next.2.delivers = false
  blames : next.2.Blames known

variable {keeps : World → World → Prop} {known : Ref .handle → Prop} {world : World}

theorem Gentle.reply (gentle : Gentle keeps) (reply : Reply) :
    Leaves keeps known world (world, .reply reply) :=
  ⟨gentle.refl world, rfl, rfl, trivial⟩

theorem Leaves.after (gentle : Gentle keeps) {middle : World} {next : World × Focus}
    (first : keeps world middle) (leaves : Leaves keeps known middle next) :
    Leaves keeps known world next :=
  ⟨gentle.trans first leaves.keeps, leaves.idle, leaves.silent, leaves.blames⟩

theorem Leaves.within {next : World × Focus} (leaves : Leaves keeps known world next)
    {frame : Frame} (silent : frame.isPublishing = false) (blames : frame.Blames known) :
    Leaves keeps known world (next.1, .within frame next.2) := by
  refine ⟨leaves.keeps, leaves.idle, ?_, blames, leaves.blames⟩
  rw [Focus.delivers, silent, leaves.silent]
  rfl

theorem publishRest_enrols (bus : Ref .bus) (event : Value)
    (subscribers : List (Nat × Value)) : (publishRest bus event subscribers).enrols? = none := by
  cases subscribers <;> rfl

theorem publishRest_blames (bus : Ref .bus) (event : Value) (subscribers : List (Nat × Value)) :
    (publishRest bus event subscribers).Blames known := by
  cases subscribers <;> simp [publishRest, Focus.nothing, Focus.Blames, Frame.Blames]

theorem waitFor_enrols (tasks : List TaskId) : (waitFor tasks).enrols? = none := by
  cases tasks <;> rfl

theorem waitFor_delivers (tasks : List TaskId) : (waitFor tasks).delivers = false := by
  cases tasks <;> rfl

theorem waitFor_blames (tasks : List TaskId) : (waitFor tasks).Blames known := by
  cases tasks <;> trivial

theorem serve_enrols (target : Ref .dispatcher) (handles : List (Ref .handle)) :
    (world.serve target handles).enrols? = none := by
  induction handles with
  | nil => rfl
  | cons handle rest induction =>
      unfold serve
      split
      · rfl
      · exact induction

theorem handOn_enrols (target : Ref .dispatcher) (handle : Ref .handle)
    (rest : List (Ref .handle)) (work : Work) :
    (handOn target handle rest work).enrols? = none := by
  cases work <;> rfl

theorem handOn_delivers (target : Ref .dispatcher) (handle : Ref .handle)
    (rest : List (Ref .handle)) (work : Work) :
    (handOn target handle rest work).delivers = false := by
  cases work <;> rfl

theorem handOn_blames {handle : Ref .handle} (knows : known handle) (target : Ref .dispatcher)
    (rest : List (Ref .handle)) (work : Work) :
    (handOn target handle rest work).Blames known := by
  cases work with
  | future task => exact ⟨trivial, knows⟩
  | _ => exact ⟨knows, knows⟩

theorem serve_delivers (target : Ref .dispatcher) (handles : List (Ref .handle)) :
    (world.serve target handles).delivers = false := by
  induction handles with
  | nil => rfl
  | cons handle rest induction =>
      unfold serve
      split
      · rfl
      · exact induction

theorem has_of_isActive {handle : Ref .handle}
    (active : (world.handles.get handle).isActive = true) : world.handles.Has handle := by
  apply Decidable.byContradiction
  intro missing
  rw [Arena.get_of_not_has missing] at active
  cases active

theorem serve_blames (knows : ∀ handle, world.handles.Has handle → known handle)
    (target : Ref .dispatcher) (handles : List (Ref .handle)) :
    (world.serve target handles).Blames known := by
  induction handles with
  | nil => trivial
  | cons handle rest induction =>
      unfold serve
      split
      next active => exact ⟨knows handle (has_of_isActive active), trivial⟩
      next => exact induction

section Handles

variable (stable : Stable keeps)
include stable

theorem keeps_destroyHandle (world : World) (table : Ref .table) (target : Ref .handle) :
    keeps world (world.destroyHandle table target) := by
  have erased : keeps world (world.setTable table (·.erase (world.handles.get target).id)) :=
    stable.same rfl rfl rfl rfl
  unfold destroyHandle
  simp only
  split
  · exact stable.trans erased (stable.trans (stable.observe _ rfl) (stable.destroy _ _))
  · exact stable.trans erased (stable.destroy _ _)

theorem keeps_destroyAll (world : World) (table : Ref .table) :
    keeps world (world.destroyAll table) := by
  unfold destroyAll
  generalize (world.tables.get table).handles = listed
  induction listed generalizing world with
  | nil => exact stable.refl world
  | cons handle rest induction =>
      exact stable.trans (keeps_destroyHandle stable world table handle) (induction _)

theorem keeps_clearHandlers (world : World) (target : Ref .dispatcher) :
    keeps world (world.clearHandlers target) := by
  refine stable.trans (keeps_destroyAll stable world (world.dispatchers.get target).table) ?_
  refine stable.dropHandlers _ target (fun _ => .const []) fun dispatcher button => ?_
  rw [PerButton.get_const]
  exact List.nil_sublist _

theorem keeps_unregister (world : World) (target : Ref .dispatcher) (handle : Ref .handle) :
    keeps world (world.unregister target handle) := by
  refine stable.trans ?_ (keeps_destroyHandle stable _ _ _)
  refine stable.dropHandlers world target (fun dispatcher => dispatcher.handlers.map _) ?_
  intro dispatcher button
  rw [PerButton.get_map]
  exact List.erase_sublist

theorem keeps_resetDispatcher (world : World) (target : Ref .dispatcher) :
    keeps world (world.resetDispatcher target) :=
  stable.trans (keeps_clearHandlers stable world target) (stable.same rfl rfl rfl rfl)

end Handles

section Operations

variable (gentle : Gentle keeps)
include gentle

/-- An operation that concerns none of what the relation looks at. -/
theorem Gentle.leaves {next : World} {focus : Focus}
    (schedulers : next.schedulers = world.schedulers)
    (dispatchers : next.dispatchers = world.dispatchers) (tables : next.tables = world.tables)
    (handles : next.handles = world.handles) (trace : next.trace = world.trace)
    (idle : focus.enrols? = none) (silent : focus.delivers = false)
    (blames : focus.Blames known) : Leaves keeps known world (next, focus) :=
  ⟨gentle.same schedulers dispatchers tables handles trace, idle, silent, blames⟩

theorem continueLoop_leaves (target : Ref .scheduler) (handle : Ref .handle) :
    Leaves keeps known world (world.continueLoop target handle) := by
  unfold continueLoop
  simp only
  split
  · exact ⟨gentle.refl _, rfl, rfl, trivial, trivial⟩
  · exact ⟨gentle.observe _ rfl, rfl, rfl, trivial⟩

theorem iterateLoop_leaves (knows : ∀ handle, world.handles.Has handle → known handle)
    (target : Ref .scheduler) (handle : Ref .handle) :
    Leaves keeps known world (world.iterateLoop target handle) := by
  unfold iterateLoop
  simp only
  split
  next active => exact ⟨gentle.refl _, rfl, rfl, knows handle (has_of_isActive active), trivial⟩
  next => exact ⟨gentle.observe _ rfl, rfl, rfl, trivial⟩

theorem press_leaves (target : Ref .dispatcher) (button : Value) :
    Leaves keeps known world (world.press target button) := by
  unfold press
  split
  · exact gentle.reply _
  · exact gentle.leaves rfl rfl rfl rfl rfl rfl rfl ⟨trivial, trivial⟩

theorem sweep_leaves (target : Ref .bridge) (cells : List (Nat × Nat)) :
    Leaves keeps known world (world.sweep target cells) := by
  cases cells with
  | nil => exact gentle.reply _
  | cons cell rest => exact gentle.leaves rfl rfl rfl rfl rfl rfl rfl ⟨trivial, trivial⟩

theorem drawCell_leaves (target : Ref .bridge) (x y : Value) (lit : Bool) :
    Leaves keeps known world (world.drawCell target x y lit) := by
  rcases drawCell_cases world target x y lit with ⟨fault, failed⟩ | ⟨column, row, -, drawn⟩
  · exact failed ▸ gentle.reply _
  · rw [drawn]
    exact gentle.leaves rfl rfl rfl rfl rfl rfl rfl trivial

theorem digitalWrite_leaves (target : Ref .bridge) (pin level : Value) :
    Leaves keeps known world (world.digitalWrite target pin level) := by
  rcases digitalWrite_cases world target pin level with
    ⟨fault, failed⟩ | ⟨name, stored, -, written⟩
  · exact failed ▸ gentle.reply _
  · rw [written]
    exact gentle.leaves rfl rfl rfl rfl rfl rfl rfl trivial

theorem draw_leaves (surface : Surface) (interval : Value) (strokes : List Scroll.Stroke) :
    Leaves keeps known world (world.draw surface interval strokes) := by
  induction strokes generalizing world with
  | nil => exact gentle.reply _
  | cons stroke rest induction =>
      cases stroke with
      | pause => exact ⟨gentle.refl _, rfl, rfl, trivial, trivial⟩
      | clear =>
          cases surface with
          | matrix bridge => exact (sweep_leaves gentle bridge _).within rfl trivial
          | panel label => exact .after gentle (gentle.observe world rfl) induction
      | plot x y =>
          cases surface with
          | matrix bridge => exact (drawCell_leaves gentle bridge _ _ true).within rfl trivial
          | panel label => exact .after gentle (gentle.observe world rfl) induction

theorem scroll_leaves (target : Ref .scroller) (text : String) (interval : Value) :
    Leaves keeps known world (world.scroll target text interval) := by
  unfold scroll
  split
  · exact gentle.reply _
  · exact draw_leaves gentle _ _ _

theorem begin_gentle {work : Work} (stays : ∀ target, work ≠ .closeBoard target) :
    Leaves keeps known world (world.begin work) := by
  cases work with
  | body | sleep | future => exact ⟨gentle.refl _, rfl, rfl, trivial⟩
  | loop => exact ⟨gentle.refl _, rfl, rfl, trivial, trivial⟩
  | closeKeeper => exact gentle.leaves rfl rfl rfl rfl rfl rfl rfl trivial
  | showString | scroll => exact scroll_leaves gentle _ _ _
  | loopsIdle | handlersIdle =>
      exact ⟨gentle.refl _, waitFor_enrols _, waitFor_delivers _, waitFor_blames _⟩
  | closeBoard target => exact absurd rfl (stays target)

/-- A caller that goes on after a failure keeps the relation. -/
theorem survive_leaves (knows : ∀ handle, world.handles.Has handle → known handle)
    (frame : Frame) : Leaves keeps known world (world.survive frame) := by
  cases frame with
  | pressing target handle rest =>
      exact ⟨gentle.refl _, serve_enrols _ _, serve_delivers _ _, serve_blames knows _ _⟩
  | iterating target handle | iterationAwaits target handle => exact continueLoop_leaves gentle _ _
  | _ => exact gentle.reply _

/-- Apart from the failure that is recorded, an operation that goes on keeps the relation,
unless it calls subscribers. -/
theorem resume_leaves {frame : Frame} (knows : ∀ handle, world.handles.Has handle → known handle)
    (blames : frame.Blames known) (quiet : frame.isPublishing = false) (reply : Reply) :
    Leaves keeps known (world.blamed (frame.failure? world.looping reply))
      (world.resume frame reply) := by
  cases failed : frame.failure? world.looping reply with
  | some failure =>
      rw [resume_failed failed]
      refine survive_leaves gentle ?_ frame
      exact fun handle has => knows handle (Arena.has_modify.mp has)
  | none =>
      cases reply with
      | error fault =>
          cases frame with
          | publishing => cases quiet
          | pressing | iterating | iterationAwaits =>
              simp only [Frame.failure?, Failure.caught?] at failed
              split at failed
              next other escapes =>
                simp only [resume, escapes]
                exact gentle.reply _
              next => cases failed
          | spawned | spawnAwaits => exact ⟨gentle.observe _ rfl, rfl, rfl, trivial⟩
          | program next => exact ⟨gentle.refl _, rfl, rfl, trivial⟩
          | _ => exact gentle.reply _
      | ok value =>
          cases frame with
          | publishing => cases quiet
          | pressed target button =>
              exact ⟨gentle.refl _, serve_enrols _ _, serve_delivers _ _, serve_blames knows _ _⟩
          | pressing target handle rest =>
              simp only [Frame.failure?] at failed
              simp only [resume]
              cases awaited : value.work? with
              | none =>
                  exact ⟨gentle.refl _, serve_enrols _ _, serve_delivers _ _,
                    serve_blames knows _ _⟩
              | some work =>
                  by_cases looping : world.looping = true
                  · simp only [looping, if_true]
                    exact ⟨gentle.refl _, handOn_enrols _ _ _ _, handOn_delivers _ _ _ _,
                      handOn_blames blames _ _ _⟩
                  · simp [awaited, looping] at failed
          | serving target rest =>
              exact ⟨gentle.refl _, serve_enrols _ _, serve_delivers _ _, serve_blames knows _ _⟩
          | clearing target rest => exact sweep_leaves gentle _ _
          | drawing surface interval rest => exact draw_leaves gentle _ _ _
          | announced => exact ⟨gentle.observe _ rfl, rfl, rfl, trivial⟩
          | loopSlept target handle => exact iterateLoop_leaves gentle knows _ _
          | iterating target handle =>
              simp only [resume]
              split
              · exact ⟨gentle.refl _, rfl, rfl, blames, trivial⟩
              · exact continueLoop_leaves gentle _ _
          | iterationAwaits target handle => exact continueLoop_leaves gentle _ _
          | closingLoops target => exact ⟨gentle.refl _, rfl, rfl, trivial, trivial⟩
          | closingHandlers target => exact gentle.leaves rfl rfl rfl rfl rfl rfl rfl trivial
          | spawned =>
              simp only [resume]
              split
              · split
                · exact ⟨gentle.refl _, rfl, rfl, trivial, trivial⟩
                · exact ⟨gentle.observe _ rfl, rfl, rfl, trivial⟩
              · exact ⟨gentle.observe _ rfl, rfl, rfl, trivial⟩
          | spawnAwaits => exact ⟨gentle.observe _ rfl, rfl, rfl, trivial⟩
          | program next => exact ⟨gentle.refl _, rfl, rfl, trivial⟩

end Operations

/-- What is logged of a subscriber that has failed. -/
def mishap (world : World) (event : Value) (id : Nat) : Entry :=
  .log .error .events
    ("Event subscriber " ++ toString id ++ " failed while handling " ++ event.text world.describe)

/-- When a subscriber has failed with an ordinary fault this is logged, and the others are
called. -/
theorem resume_publishing_cases (world : World) (bus : Ref .bus) (event : Value) (id : Nat)
    (rest : List (Nat × Value)) (reply : Reply) :
    (∃ value, reply = .ok value ∧ world.resume (.publishing bus event id rest) reply =
      (world, publishRest bus event rest)) ∨
    (∃ fault, reply = .error fault ∧ fault.isOrdinary = true ∧
      world.resume (.publishing bus event id rest) reply =
        (world.observe (world.mishap event id), publishRest bus event rest)) ∨
    ∃ fault, reply = .error fault ∧ fault.isOrdinary = false ∧
      world.resume (.publishing bus event id rest) reply = (world, .raise fault) := by
  cases reply with
  | ok value => exact .inl ⟨value, rfl, rfl⟩
  | error fault =>
      apply Or.inr
      cases ordinary : fault.isOrdinary with
      | true =>
          refine .inl ⟨fault, rfl, ordinary, ?_⟩
          simp only [resume, ordinary, if_true]
          rfl
      | false =>
          refine .inr ⟨fault, rfl, ordinary, ?_⟩
          simp only [resume, ordinary]
          rfl

/-- A relation that lets the failures of subscribers be logged is kept by every operation
that goes on, apart from the failure that is recorded. -/
theorem resume_keeps (gentle : Gentle keeps) {frame : Frame}
    (knows : ∀ handle, world.handles.Has handle → known handle) (blames : frame.Blames known)
    (mishaps : ∀ event id, keeps world (world.observe (world.mishap event id))) (reply : Reply) :
    keeps (world.blamed (frame.failure? world.looping reply)) (world.resume frame reply).1 ∧
      (world.resume frame reply).2.enrols? = none ∧ (world.resume frame reply).2.Blames known := by
  cases published : frame.isPublishing with
  | false =>
      have leaves := resume_leaves gentle knows blames published reply
      exact ⟨leaves.keeps, leaves.idle, leaves.blames⟩
  | true =>
      cases frame with
      | publishing bus event id rest =>
          have unblamed : (Frame.publishing bus event id rest).failure? world.looping reply =
              none := by
            cases reply <;> rfl
          rw [unblamed]
          rcases resume_publishing_cases world bus event id rest reply with
            ⟨value, -, same⟩ | ⟨fault, -, -, same⟩ | ⟨fault, -, -, same⟩
          · rw [same]
            exact ⟨gentle.refl world, publishRest_enrols _ _ _, publishRest_blames _ _ _⟩
          · rw [same]
            exact ⟨mishaps event id, publishRest_enrols _ _ _, publishRest_blames _ _ _⟩
          · rw [same]
            exact ⟨gentle.refl world, rfl, trivial⟩
      | _ => cases published

section Building

variable (gentle : Gentle keeps)
include gentle

theorem keeps_buildScheduler (world : World) (clock : Clock) (interval : Value) :
    keeps world (world.buildScheduler clock interval).1 := by
  unfold buildScheduler
  split
  · exact gentle.refl world
  · exact gentle.newScheduler _ _ _

theorem keeps_buildHardware (world : World) (pins width height : Value) :
    keeps world (world.buildHardware pins width height).1 := by
  unfold buildHardware
  split
  · exact gentle.refl world
  · exact gentle.refl world
  · exact gentle.refl world
  · split
    · exact gentle.refl world
    · exact gentle.same rfl rfl rfl rfl rfl

theorem keeps_buildBoard (world : World) (clock : Clock) (config : BoardConfig)
    (identity : Nat) : keeps world (world.buildBoard clock config identity).1 := by
  have hardware := keeps_buildHardware gentle world (textTuple config.pins.pinIds)
    (.int config.display.width) (.int config.display.height)
  unfold buildBoard
  split
  next result =>
    rw [result] at hardware
    exact hardware
  next wired target result =>
    rw [result] at hardware
    have bus : keeps wired wired.newBus.1 := gentle.same rfl rfl rfl rfl rfl
    have scheduler := keeps_buildScheduler gentle wired.newBus.1 clock
      config.timing.forever.value
    simp only
    split
    next result =>
      rw [result] at scheduler
      exact gentle.trans hardware (gentle.trans bus scheduler)
    next scheduled other result =>
      rw [result] at scheduler
      refine gentle.trans (gentle.trans hardware (gentle.trans bus scheduler)) ?_
      refine gentle.trans (gentle.newDispatcher scheduled target wired.newBus.2) ?_
      exact gentle.same rfl rfl rfl rfl rfl

omit gentle in
theorem keeps_built {component : Component} (record : Ref component → Value)
    {result : World × Except Fault (Ref component)} (kept : keeps world result.1) :
    keeps world (built record result).1 := by
  obtain ⟨next, reply⟩ := result
  cases reply <;> exact kept

theorem keeps_construct (world : World) (className : ClassName) (arguments : Arguments) :
    keeps world (world.construct className arguments).1 := by
  cases className with
  | hardware => exact keeps_built _ (keeps_buildHardware gentle _ _ _ _)
  | scheduler => exact keeps_built _ (keeps_buildScheduler gentle _ _ _)
  | board =>
      unfold construct constructBoard
      simp only
      split
      · exact keeps_built _ (keeps_buildBoard gentle _ _ _ _)
      · split
        · exact gentle.refl world
        next config _ =>
          have counted : keeps world { world with identities := world.identities + 1 } :=
            gentle.same rfl rfl rfl rfl rfl
          exact gentle.trans counted (keeps_built _ (keeps_buildBoard gentle _ _ _ _))
      · exact gentle.refl world
  | dispatcher =>
      unfold construct
      simp only
      split
      · exact gentle.newDispatcher _ _ _
      · exact gentle.refl world
  | table => exact gentle.newTable world
  | bridge | boardConfig | button | pinChange | ledChange | buttonPress | reset | fault =>
      unfold construct
      simp only
      split <;> first | exact gentle.refl world | exact gentle.same rfl rfl rfl rfl rfl
  | _ => first | exact gentle.refl world | exact gentle.same rfl rfl rfl rfl rfl

theorem keeps_getConfig (world : World) (name : Value) :
    keeps world (world.getConfig name).1 := by
  unfold getConfig getConfigFrom
  split
  · exact gentle.refl world
  · cases loaded : loadConfig Yaml.read? name .none with
    | error problem =>
        simp only [loaded]
        exact gentle.refl world
    | ok config =>
        simp only [loaded]
        exact gentle.same rfl rfl rfl rfl rfl

theorem keeps_buildNamed (world : World) (className : ClassName) (name : Value)
    (named : List (String × Value)) : keeps world (world.buildNamed className name named).1 :=
  gentle.trans (gentle.observe world rfl) (keeps_construct gentle _ _ _)

theorem keeps_createBoard (world : World) (target : Ref .registry) (name : Value)
    (named : List (String × Value)) :
    keeps world (world.createBoard target name named).1 := by
  unfold createBoard createBoardFrom
  split
  · exact gentle.refl world
  next className _ =>
    by_cases missing : (isOpen named "config" && isOpen named "config_path") = true
    · have loaded := keeps_getConfig gentle world name
      simp only [missing, if_true]
      change keeps world (buildWith className name named (world.getConfig name)).1
      generalize world.getConfig name = found at loaded ⊢
      obtain ⟨next, reply⟩ := found
      cases reply with
      | error fault => exact loaded
      | ok config => exact gentle.trans loaded (keeps_buildNamed gentle _ _ _ _)
    · simp only [missing]
      exact keeps_buildNamed gentle _ _ _ _

theorem keeps_registerBoard (world : World) (target : Ref .registry) (name className : Value) :
    keeps world (world.registerBoard target name className).1 := by
  unfold registerBoard
  split
  · exact gentle.refl world
  next registry bound _ =>
    have stored : keeps world (world.setRegistry target fun _ => registry) :=
      gentle.same rfl rfl rfl rfl rfl
    exact gentle.trans stored (gentle.observe _ rfl)

theorem keeps_withConfig (world : World) (result : ConfigResult BoardConfig) :
    keeps world (world.withConfig result).1 := by
  cases result with
  | ok config => exact gentle.same rfl rfl rfl rfl rfl
  | error fault => exact gentle.refl world

theorem keeps_callFunction (world : World) (function : Function) (arguments : Arguments) :
    keeps world (world.callFunction function arguments).1 := by
  cases function with
  | coerce | glyphWidth | glyph | verifyBoards | length | list =>
      unfold callFunction
      simp only
      split <;> exact gentle.refl world
  | parseConfig | loadConfig => exact keeps_withConfig gentle _ _
  | getConfig => exact keeps_getConfig gentle _ _
  | clearConfigCache => exact gentle.same rfl rfl rfl rfl rfl
  | registerBoard => exact keeps_registerBoard gentle _ _ _ _
  | createBoard => exact keeps_createBoard gentle _ _ _ _
  | _ => exact gentle.refl world

end Building

section Calls

variable (gentle : Gentle keeps)
include gentle

theorem storeHardware_leaves (target : Ref .hardware) (result : Except Fault Hardware) :
    Leaves keeps known world (world.storeHardware target result) := by
  cases result with
  | error fault => exact gentle.reply _
  | ok hardware => exact gentle.leaves rfl rfl rfl rfl rfl rfl rfl trivial

theorem answerWith_leaves {β : Type} (record : β → Value) (result : Except Fault β) :
    Leaves keeps known world (world.answerWith record result) := by
  cases result <;> exact gentle.reply _

theorem subscribe_leaves (target : Ref .bus) (subscriber : Value) :
    Leaves keeps known world (world.subscribe target subscriber) := by
  unfold subscribe
  split
  · exact gentle.leaves rfl rfl rfl rfl rfl rfl rfl trivial
  · exact gentle.reply _

theorem unsubscribe_leaves (target : Ref .bus) (token : Value) :
    Leaves keeps known world (world.unsubscribe target token) := by
  cases token with
  | token bus id =>
      unfold unsubscribe
      simp only
      split
      · exact gentle.leaves rfl rfl rfl rfl rfl rfl rfl trivial
      · exact gentle.reply _
  | _ => exact gentle.reply _

theorem withHandle_leaves {value : Value} {change : Ref .handle → World}
    (kept : ∀ handle, keeps world (change handle)) :
    Leaves keeps known world (world.withHandle value change) := by
  cases value with
  | handle handle => exact ⟨kept handle, rfl, rfl, trivial⟩
  | _ => exact gentle.reply _

theorem callHardware_leaves (target : Ref .hardware) (operation : HardwareMethod)
    (arguments : Arguments) :
    Leaves keeps known world (world.callHardware target operation arguments) := by
  cases operation with
  | setDigital | setAnalog | setLed | setButton => exact storeHardware_leaves gentle _ _
  | getDigital | getAnalog | getLed | getButton => exact answerWith_leaves gentle _ _
  | clearLeds | reset | snapshot => exact gentle.leaves rfl rfl rfl rfl rfl rfl rfl trivial

theorem callBus_leaves (target : Ref .bus) (operation : BusMethod) (arguments : Arguments) :
    Leaves keeps known world (world.callBus target operation arguments) := by
  cases operation with
  | subscribe => exact subscribe_leaves gentle _ _
  | unsubscribe => exact unsubscribe_leaves gentle _ _
  | isSubscribed =>
      unfold callBus
      cases arguments.get 0 "token" <;> exact gentle.reply _
  | publish => exact ⟨gentle.refl _, rfl, rfl, trivial⟩
  | clear => exact gentle.leaves rfl rfl rfl rfl rfl rfl rfl trivial

/-- A method that lists no callback, ends no handle and records no failure. -/
theorem callMethod_gentle {method : Method} {arguments : Arguments}
    (unlisted : world.lists? method = none) (unrecorded : method.recorded? = none)
    (steady : method.restages = false) :
    Leaves keeps known world (world.callMethod method arguments) := by
  cases method with
  | hardware target operation => exact callHardware_leaves gentle _ _ _
  | bus target operation => exact callBus_leaves gentle _ _ _
  | token target id => exact unsubscribe_leaves gentle target (.token target id)
  | table target operation =>
      cases operation with
      | create => cases unlisted
      | get => exact gentle.reply _
      | destroy | destroyAll => cases steady
  | handle target operation =>
      cases operation with
      | activate => cases steady
      | invoke => exact ⟨gentle.refl _, rfl, rfl, trivial⟩
      | recordFailure => cases unrecorded
  | scheduler target operation =>
      cases operation with
      | register => cases unlisted
      | cancel | cancelAll => cases steady
      | waitIdle => exact gentle.reply _
  | dispatcher target operation =>
      cases operation with
      | register => cases unlisted
      | handlers | isPressed => exact answerWith_leaves gentle _ _
      | press => exact press_leaves gentle _ _
      | waitIdle => exact gentle.reply _
      | unregister | clear | reset => cases steady
  | bridge target operation =>
      cases operation with
      | forever | onButtonPressed => cases unlisted
      | digitalWrite => exact digitalWrite_leaves gentle _ _ _
      | digitalRead | analogRead | point | buttonIsPressed => exact answerWith_leaves gentle _ _
      | analogWrite => exact storeHardware_leaves gentle _ _
      | plot | unplot => exact drawCell_leaves gentle _ _ _ _
      | clearScreen => exact sweep_leaves gentle _ _
      | showString | pause => exact gentle.reply _
      | clearButtonHandlers | reset => cases steady
  | scroller target operation =>
      cases operation with
      | frames => exact answerWith_leaves gentle _ _
      | scroll => exact gentle.reply _
  | board target operation =>
      cases operation with
      | subscribe => exact subscribe_leaves gentle _ _
      | snapshot => exact gentle.leaves rfl rfl rfl rfl rfl rfl rfl trivial
      | pressButton => exact press_leaves gentle _ _
      | reset => cases steady
      | close | scriptModule => exact gentle.reply _
  | registry target operation =>
      cases operation with
      | register => exact ⟨keeps_registerBoard gentle _ _ _ _, rfl, rfl, trivial⟩
      | boardClass | names => exact gentle.reply _
      | create => exact ⟨keeps_createBoard gentle _ _ _ _, rfl, rfl, trivial⟩
  | keeperClose | eventRecord | now | sleep => exact gentle.reply _
  | function function => exact ⟨keeps_callFunction gentle _ _ _, rfl, rfl, trivial⟩

theorem callValue_gentle {target : Value} {arguments : Arguments}
    (plain : ∀ method, target ≠ .method method) :
    Leaves keeps known world (world.callValue target arguments) := by
  cases target with
  | method method => exact absurd rfl (plain method)
  | token bus id => exact unsubscribe_leaves gentle bus (.token bus id)
  | recorder label =>
      unfold callValue deliver
      simp only
      split
      · exact ⟨gentle.observe _ rfl, rfl, rfl, trivial⟩
      · exact gentle.reply _
  | type className => exact ⟨keeps_construct gentle _ _ _, rfl, rfl, trivial⟩
  | _ => exact gentle.reply _

end Calls

section Stages

variable (stable : Stable keeps)
include stable

theorem resetBoard_leaves (target : Ref .bridge) :
    Leaves keeps known world (world.resetBoard target) := by
  have emptied := stable.trans
    (keeps_destroyAll stable world
      (world.schedulers.get (world.bridges.get target).scheduler).table)
    (keeps_resetDispatcher stable _ (world.bridges.get target).dispatcher)
  refine ⟨stable.trans emptied ?_, rfl, rfl, trivial, trivial⟩
  exact stable.same rfl rfl rfl rfl

theorem begin_leaves (work : Work) : Leaves keeps known world (world.begin work) := by
  cases work with
  | closeBoard target =>
      exact ⟨stable.trans (keeps_destroyAll stable _ _) (keeps_clearHandlers stable _ _), rfl,
        rfl, trivial, trivial⟩
  | _ => exact begin_gentle stable.gentle fun _ => Work.noConfusion

/-- A method that neither lists a callback nor records a failure keeps the relation. -/
theorem callMethod_leaves {method : Method} {arguments : Arguments}
    (unlisted : world.lists? method = none) (unrecorded : method.recorded? = none) :
    Leaves keeps known world (world.callMethod method arguments) := by
  cases restages : method.restages with
  | false => exact callMethod_gentle stable.gentle unlisted unrecorded restages
  | true =>
      unfold Method.restages at restages
      split at restages
      case h_1 =>
        simp only [callMethod, callHandle]
        split
        · exact stable.gentle.reply _
        · exact ⟨stable.activate _ _, rfl, rfl, trivial⟩
      case h_2 | h_3 =>
        exact withHandle_leaves stable.gentle fun handle => keeps_destroyHandle stable _ _ _
      case h_4 | h_5 => exact ⟨keeps_destroyAll stable _ _, rfl, rfl, trivial⟩
      case h_6 => exact withHandle_leaves stable.gentle fun handle => keeps_unregister stable _ _ _
      case h_7 | h_8 => exact ⟨keeps_clearHandlers stable _ _, rfl, rfl, trivial⟩
      case h_9 => exact ⟨keeps_resetDispatcher stable _ _, rfl, rfl, trivial⟩
      case h_10 | h_11 => exact resetBoard_leaves stable _
      case h_12 => cases restages

/-- Anything that is called but a method lists no callback and records no failure. -/
theorem callValue_leaves {target : Value} {arguments : Arguments}
    (quiet : ∀ method, target = .method method →
      world.lists? method = none ∧ method.recorded? = none) :
    Leaves keeps known world (world.callValue target arguments) := by
  cases target with
  | method method => exact callMethod_leaves stable (quiet method rfl).1 (quiet method rfl).2
  | _ => exact callValue_gentle stable.gentle fun _ => Value.noConfusion

end Stages

end World

end Microboard
