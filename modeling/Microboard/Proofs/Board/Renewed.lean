import Microboard.Proofs.Board.Stop
import Microboard.Proofs.Pairing.Worlds

/-!
# Boards that are renewed

A board that has just been built can be put in the place of another board.  If that board
is as blank as the new one, nobody can tell the difference, but for the numbers of
handles and subscriptions.
-/

namespace Microboard

theorem Arena.modify_fixed {component : Component} {α : Type} [Inhabited α]
    {arena : Arena component α} {target : Ref component} {change : α → α}
    (fixed : change (arena.get target) = arena.get target) :
    arena.modify target change = arena := by
  rw [← arena.modify_const, fixed]
  exact (arena.modify_const target id).trans (congrArg Arena.mk (List.modify_id _ _))

theorem Arena.get_mem_or {component : Component} {α : Type} [Inhabited α]
    (arena : Arena component α) (target : Ref component) :
    arena.get target ∈ arena.items ∨ arena.get target = default := by
  by_cases has : arena.Has target
  · have place : target.index < arena.items.length := has
    refine .inl (List.mem_of_getElem? (i := target.index) ?_)
    simp [get, place]
  · exact .inr (get_of_not_has has)

/-- An object of an arena is changed, and the others are as they were. -/
theorem Arena.alike_modify {component : Component} {α : Type} [Inhabited α]
    {relation : Ref component → α → α → Prop} {arena : Arena component α}
    {target : Ref component} {change : α → α} (has : arena.Has target)
    (own : relation target (arena.get target) (change (arena.get target)))
    (others : ∀ other, other ≠ target → relation other (arena.get other) (arena.get other)) :
    arena.Alike relation (arena.modify target change) := by
  constructor
  case size => simp [Arena.modify]
  case each =>
    intro place
    by_cases same : place = target
    · rw [same, get_modify_self change has]
      exact own
    · rw [get_modify_of_ne arena change same]
      exact others place same

namespace Bus

/-- Subscribes the subscribers of a list, in the same order. -/
def adopt (bus : Bus) (subscribers : List (Nat × Value)) : Bus :=
  subscribers.foldl (fun bus entry => bus.subscribe entry.2) bus

theorem adopt_next (bus : Bus) (subscribers : List (Nat × Value)) :
    (bus.adopt subscribers).next = bus.next + subscribers.length := by
  induction subscribers generalizing bus with
  | nil => rfl
  | cons entry rest induction =>
      rw [adopt, List.foldl_cons, ← adopt, induction]
      simp only [subscribe, List.length_cons]
      omega

theorem adopt_values (bus : Bus) (subscribers : List (Nat × Value)) :
    (bus.adopt subscribers).subscribers.map (·.2) =
      bus.subscribers.map (·.2) ++ subscribers.map (·.2) := by
  induction subscribers generalizing bus with
  | nil => simp [adopt]
  | cons entry rest induction =>
      rw [adopt, List.foldl_cons, ← adopt, induction]
      simp [subscribe]

theorem Numbered.adopt {bus : Bus} (numbered : bus.Numbered)
    (subscribers : List (Nat × Value)) : (bus.adopt subscribers).Numbered := by
  induction subscribers generalizing bus with
  | nil => exact numbered
  | cons entry rest induction =>
      exact induction ((succeeds_subscribe bus entry.2).numbered numbered)

end Bus

variable {pairing : Pairing}

/-- Subscriptions of the same subscribers stand for each other as long as all of them are
older than what is counted together. -/
theorem related_subscriptions {bus : Ref .bus} {left right : List (Nat × Value)}
    (same : left.map (·.2) = right.map (·.2))
    (below : ∀ entry ∈ left, entry.1 < (pairing.token bus).1)
    (under : ∀ entry ∈ right, entry.1 < (pairing.token bus).2)
    (blind : ∀ entry ∈ left, entry.2.Blind pairing) :
    List.Forall₂ (Subscription.Alike pairing bus) left right := by
  induction left generalizing right with
  | nil =>
      cases right with
      | nil => exact .nil
      | cons other others => cases same
  | cons entry rest induction =>
      cases right with
      | nil => cases same
      | cons other others =>
          obtain ⟨first, later⟩ := List.cons_eq_cons.mp same
          have subscribers : entry.2 = other.2 := first
          refine .cons ⟨.inl ⟨below _ List.mem_cons_self, under _ List.mem_cons_self⟩, ?_⟩
            (induction later (fun item member => below item (List.mem_cons_of_mem _ member))
              (fun item member => under item (List.mem_cons_of_mem _ member))
              fun item member => blind item (List.mem_cons_of_mem _ member))
          rw [← subscribers]
          exact .same (blind entry List.mem_cons_self)

namespace World

variable {world built : World} {board new : Board} {target : Ref .board}

/-- Apart from the numbers that it has given out and from its subscribers, a board is as it
was when it had just been built. -/
structure Blank (world : World) (board : Board) : Prop where
  hardware : world.hardwares.get board.hardware =
    .initial board.config.pins.pinIds board.config.display.width board.config.display.height
  loops : (world.tables.get (world.loopTable board)).entries = []
  handlers : (world.tables.get (world.handlerTable board)).entries = []
  lists : (world.dispatchers.get board.dispatcher).handlers = .const []
  tasks : (world.schedulers.get board.scheduler).tasks = []
  background : (world.dispatchers.get board.dispatcher).background = []

/-- A board that has given out no number yet, and that has no subscriber. -/
structure Unused (world : World) (board : Board) : Prop where
  wired : world.Wired board
  blank : world.Blank board
  bus : world.buses.get board.bus = .initial
  loops : world.tables.get (world.loopTable board) = .initial
  handlers : world.tables.get (world.handlerTable board) = .initial

theorem unused_of_buildBoard {other : World} {clock : Clock} {config : BoardConfig}
    {identity : Nat} (success : other.buildBoard clock config identity = (built, .ok target)) :
    built.Unused (built.boards.get target) ∧ (built.boards.get target).config = config ∧
      (built.boards.get target).clock = clock ∧
      (built.boards.get target).identity = identity := by
  obtain ⟨rfl, rfl, buildable⟩ := buildBoard_ok success
  have wired := withParts_wired other clock identity buildable
  have planned : (other.boards.push (other.plannedBoard clock config identity)).get
      other.boards.fresh = other.plannedBoard clock config identity :=
    Arena.get_push_fresh _ _
  have loopTable : (other.withParts clock config).loopTable
      (other.plannedBoard clock config identity) = other.tables.fresh :=
    congrArg Scheduler.table (withParts_scheduler other clock config)
  have handlerTable : (other.withParts clock config).handlerTable
      (other.plannedBoard clock config identity) = (other.tables.push .initial).fresh :=
    congrArg Dispatcher.table (withParts_dispatcher other clock config)
  have loops : ((other.tables.push .initial).push .initial).get other.tables.fresh = .initial :=
    (Arena.get_push_of_has (Arena.has_push_fresh _ _)).trans (Arena.get_push_fresh _ _)
  have handlers : ((other.tables.push .initial).push .initial).get
      (other.tables.push .initial).fresh = .initial := Arena.get_push_fresh _ _
  refine ⟨?_, congrArg Board.config planned, congrArg Board.clock planned,
    congrArg Board.identity planned⟩
  simp only [planned]
  have step : Step .everything (other.withParts clock config)
      { other.withParts clock config with
        boards := other.boards.push (other.plannedBoard clock config identity) } := .newBoard wired
  refine ⟨wired.grows step.grows, ⟨Arena.get_push_fresh _ _, ?_, ?_, ?_, ?_, ?_⟩,
    Arena.get_push_fresh _ _, ?_, ?_⟩
  · exact congrArg HandleTable.entries (loopTable ▸ loops)
  · exact congrArg HandleTable.entries (handlerTable ▸ handlers)
  · exact congrArg Dispatcher.handlers (withParts_dispatcher other clock config)
  · exact congrArg Scheduler.tasks (withParts_scheduler other clock config)
  · exact congrArg Dispatcher.background (withParts_dispatcher other clock config)
  · exact loopTable ▸ loops
  · exact handlerTable ▸ handlers

/-- A board that has just been built elsewhere is put in the place of a board: all of its
parts are, but they refer to each other as those did.  Who was subscribed is subscribed
again. -/
def renewed (world : World) (target : Ref .board) (built : World) (new : Board) : World :=
  let board := world.boards.get target
  { world with
    hardwares := world.hardwares.modify board.hardware fun _ => built.hardwares.get new.hardware
    buses := world.buses.modify board.bus fun bus =>
      (built.buses.get new.bus).adopt bus.subscribers
    tables := (world.tables.modify (world.loopTable board) fun _ =>
        built.tables.get (built.loopTable new)).modify (world.handlerTable board) fun _ =>
      built.tables.get (built.handlerTable new)
    schedulers := world.schedulers.modify board.scheduler fun scheduler =>
      { built.schedulers.get new.scheduler with table := scheduler.table }
    dispatchers := world.dispatchers.modify board.dispatcher fun dispatcher =>
      { built.dispatchers.get new.dispatcher with
        hardware := dispatcher.hardware, bus := dispatcher.bus, table := dispatcher.table }
    bridges := world.bridges.modify board.bridge fun bridge =>
      { built.bridges.get new.bridge with
        hardware := bridge.hardware, bus := bridge.bus, scheduler := bridge.scheduler
        dispatcher := bridge.dispatcher, scroller := bridge.scroller }
    scrollers := world.scrollers.modify (world.bridges.get board.bridge).scroller fun scroller =>
      { built.scrollers.get (built.bridges.get new.bridge).scroller with
        surface := scroller.surface }
    boards := world.boards.modify target fun board =>
      { new with
        hardware := board.hardware, bus := board.bus, scheduler := board.scheduler
        dispatcher := board.dispatcher, bridge := board.bridge } }

/-- The numbers of a board are counted anew, all others as before. -/
def renewal (world : World) (board : Board) (words : Vocabulary) : Pairing where
  toVocabulary := words
  number table :=
    if table = world.loopTable board ∨ table = world.handlerTable board then
      ((world.tables.get table).next, 1)
    else (0, 0)
  token bus :=
    if bus = board.bus then
      ((world.buses.get bus).next, (world.buses.get bus).subscribers.length + 1)
    else (0, 0)
  table scheduler := (world.schedulers.get scheduler).table

/-- What is stored in a world tells of no number that is paired. -/
structure Blind (pairing : Pairing) (world : World) : Prop where
  callbacks : ∀ handle callback, (world.handles.get handle).callback = some callback →
    callback.Blind pairing
  failures : ∀ handle, (world.handles.get handle).lastFailure.Blind pairing
  subscribers : ∀ bus, ∀ entry ∈ (world.buses.get bus).subscribers, entry.2.Blind pairing
  intervals : ∀ scheduler, (world.schedulers.get scheduler).interval.Blind pairing

theorem blind_of_items {pairing : Pairing}
    (handles : ∀ handle ∈ world.handles.items,
      (∀ callback, handle.callback = some callback → callback.Blind pairing) ∧
        handle.lastFailure.Blind pairing)
    (buses : ∀ bus ∈ world.buses.items, ∀ entry ∈ bus.subscribers, entry.2.Blind pairing)
    (schedulers : ∀ scheduler ∈ world.schedulers.items, scheduler.interval.Blind pairing) :
    world.Blind pairing where
  callbacks handle callback given := by
    rcases world.handles.get_mem_or handle with member | missing
    · exact (handles _ member).1 callback given
    · rw [missing] at given
      cases given
  failures handle := by
    rcases world.handles.get_mem_or handle with member | missing
    · exact (handles _ member).2
    · rw [missing]
      trivial
  subscribers bus entry member := by
    rcases world.buses.get_mem_or bus with listed | missing
    · exact buses _ listed entry member
    · rw [missing] at member
      exact absurd member List.not_mem_nil
  intervals scheduler := by
    rcases world.schedulers.get_mem_or scheduler with member | missing
    · exact schedulers _ member
    · rw [missing]
      trivial

section Renewed

variable (wired : world.Wired (world.boards.get target))
  (blank : world.Blank (world.boards.get target)) (unused : built.Unused new)
  (config : new.config = (world.boards.get target).config)
  (clock : new.clock = (world.boards.get target).clock)
  (identity : new.identity = (world.boards.get target).identity)

include blank unused config in
theorem renewed_hardwares : (world.renewed target built new).hardwares = world.hardwares := by
  apply Arena.modify_fixed
  rw [blank.hardware, unused.blank.hardware, config]

include blank unused in
theorem renewed_dispatchers :
    (world.renewed target built new).dispatchers = world.dispatchers := by
  apply Arena.modify_fixed
  have lists := unused.blank.lists.trans blank.lists.symm
  have background := unused.blank.background.trans blank.background.symm
  simp only [lists, background]

include wired unused config clock in
theorem renewed_bridges : (world.renewed target built new).bridges = world.bridges := by
  apply Arena.modify_fixed
  have clocks := (congrArg Bridge.clock unused.wired.bridge).trans
    (clock.trans (congrArg Bridge.clock wired.bridge).symm)
  have intervals := (congrArg Bridge.scrollInterval unused.wired.bridge).trans
    ((congrArg (fun config : BoardConfig => config.timing.scroll.value) config).trans
      (congrArg Bridge.scrollInterval wired.bridge).symm)
  simp only [clocks, intervals]

include wired unused config clock in
theorem renewed_scrollers : (world.renewed target built new).scrollers = world.scrollers := by
  apply Arena.modify_fixed
  simp only [unused.wired.scroller, wired.scroller, config, clock]

include config clock identity in
theorem renewed_boards : (world.renewed target built new).boards = world.boards := by
  apply Arena.modify_fixed
  simp only [config, clock, identity]

variable {words : Vocabulary}

theorem renewal_number {table : Ref .table}
    (foreign : table ≠ world.loopTable board ∧ table ≠ world.handlerTable board) :
    (world.renewal board words).number table = (0, 0) :=
  if_neg (not_or.mpr foreign)

include unused in
theorem alike_renewed_bus (sound : world.Sound) (has : world.buses.Has board.bus)
    (blind : world.Blind (world.renewal board words)) :
    (world.buses.get board.bus).Alike (world.renewal board words) board.bus
      ((built.buses.get new.bus).adopt (world.buses.get board.bus).subscribers) := by
  have token : (world.renewal board words).token board.bus =
      ((world.buses.get board.bus).next, (world.buses.get board.bus).subscribers.length + 1) :=
    if_pos rfl
  have next : ((built.buses.get new.bus).adopt (world.buses.get board.bus).subscribers).next =
      (world.buses.get board.bus).subscribers.length + 1 := by
    rw [Bus.adopt_next, unused.bus]
    exact Nat.add_comm _ _
  have numbered : (built.buses.get new.bus).Numbered := unused.bus ▸ Bus.numbered_initial
  constructor
  case next =>
    rw [token, next]
    exact since_first _
  case subscribers =>
    refine related_subscriptions ?_ ?_ ?_ (blind.subscribers board.bus)
    · rw [Bus.adopt_values, unused.bus]
      rfl
    · intro entry member
      rw [token]
      exact (sound.bus _ has).given _ (List.mem_map_of_mem member)
    · intro entry member
      rw [token, ← next]
      exact (numbered.adopt _).given _ (List.mem_map_of_mem member)

theorem alike_bus {bus : Ref .bus} (other : bus ≠ board.bus)
    (blind : world.Blind (world.renewal board words)) :
    (world.buses.get bus).Alike (world.renewal board words) bus
      (world.buses.get bus) := by
  have token : (world.renewal board words).token bus = (0, 0) := if_neg other
  constructor
  case next =>
    rw [token]
    exact since_zero _
  case subscribers =>
    refine List.forall₂_same.mpr fun entry member => ⟨.inr ?_, ?_⟩
    · rw [token]
      exact since_zero _
    · exact .same (blind.subscribers bus entry member)

theorem alike_table {table : Ref .table}
    (foreign : table ≠ world.loopTable board ∧ table ≠ world.handlerTable board) :
    (world.tables.get table).Alike (world.renewal board words) table
      (world.tables.get table) := by
  have number : (world.renewal board words).number table = (0, 0) :=
    renewal_number foreign
  constructor
  case next =>
    rw [number]
    exact since_zero _
  case entries =>
    refine List.forall₂_same.mpr fun entry member => ⟨?_, rfl⟩
    rw [number]
    exact since_zero _

theorem alike_emptied {table : Ref .table} {fresh : HandleTable}
    (own : table = world.loopTable board ∨ table = world.handlerTable board)
    (empty : (world.tables.get table).entries = []) (initially : fresh = .initial) :
    (world.tables.get table).Alike (world.renewal board words) table fresh := by
  have number : (world.renewal board words).number table =
      ((world.tables.get table).next, 1) := if_pos own
  constructor
  case next =>
    rw [number, initially]
    exact since_first _
  case entries =>
    rw [empty, initially]
    exact .nil

include unused in
theorem alike_renewed_tables (wired : world.Wired board) (blank : world.Blank board) :
    world.tables.Alike (HandleTable.Alike (world.renewal board words))
      ((world.tables.modify (world.loopTable board) fun _ =>
        built.tables.get (built.loopTable new)).modify (world.handlerTable board) fun _ =>
          built.tables.get (built.handlerTable new)) := by
  have hasLoops : world.tables.Has (world.loopTable board) := wired.hasLoops
  have hasHandlers : world.tables.Has (world.handlerTable board) := wired.hasHandlers
  constructor
  case size => simp [Arena.modify]
  case each =>
    intro table
    by_cases handlers : table = world.handlerTable board
    · subst handlers
      rw [Arena.get_modify_self _ (Arena.has_modify.mpr hasHandlers)]
      exact alike_emptied (.inr rfl) blank.handlers unused.handlers
    · rw [Arena.get_modify_of_ne _ _ handlers]
      by_cases loops : table = world.loopTable board
      · subst loops
        rw [Arena.get_modify_self _ hasLoops]
        exact alike_emptied (.inl rfl) blank.loops unused.loops
      · rw [Arena.get_modify_of_ne _ _ loops]
        exact alike_table ⟨loops, handlers⟩

include unused in
theorem alike_renewed_scheduler (wired : world.Wired board) (blank : world.Blank board)
    (config : new.config = board.config)
    (blind : world.Blind (world.renewal board words)) :
    (world.schedulers.get board.scheduler).Alike (world.renewal board words)
      board.scheduler
      { built.schedulers.get new.scheduler with
        table := (world.schedulers.get board.scheduler).table } where
  table := rfl
  other := rfl
  interval := by rw [wired.interval, unused.wired.interval, config]
  blind := blind.intervals _
  tasks := by
    rw [blank.tasks, unused.blank.tasks]
    exact .nil

theorem alike_scheduler (filed : world.Filed) (wired : world.Wired board)
    {scheduler : Ref .scheduler} (other : scheduler ≠ board.scheduler)
    (blind : world.Blind (world.renewal board words)) :
    (world.schedulers.get scheduler).Alike (world.renewal board words) scheduler
      (world.schedulers.get scheduler) where
  table := rfl
  other := rfl
  interval := rfl
  blind := blind.intervals _
  tasks := by
    by_cases has : world.schedulers.Has scheduler
    · have foreign : (world.schedulers.get scheduler).table ≠ world.loopTable board ∧
          (world.schedulers.get scheduler).table ≠ world.handlerTable board :=
        ⟨fun same => other (filed.apart _ _ has wired.hasScheduler same),
          filed.foreign _ _ has wired.hasDispatcher⟩
      refine List.forall₂_same.mpr fun entry member => ⟨?_, rfl⟩
      rw [show (world.renewal board words).table scheduler =
        (world.schedulers.get scheduler).table from rfl, renewal_number foreign]
      exact since_zero _
    · rw [Arena.get_of_not_has has]
      exact .nil

theorem alike_handle (target : Ref .handle)
    (blind : world.Blind (world.renewal board words)) :
    (world.handles.get target).Alike (world.renewal board words)
      (world.handles.get target) where
  id := .inl rfl
  kind := rfl
  callback := by
    cases given : (world.handles.get target).callback with
    | none => exact .none
    | some callback => exact .some (.same (blind.callbacks target callback given))
  stage := rfl
  failures := rfl
  lastFailure := .same (blind.failures target)

/-- Nobody can tell a blank board from one that has just been built. -/
theorem alike_renewed (filed : world.Filed) (sound : world.Sound)
    (wired : world.Wired (world.boards.get target))
    (blank : world.Blank (world.boards.get target)) (unused : built.Unused new)
    (config : new.config = (world.boards.get target).config)
    (clock : new.clock = (world.boards.get target).clock)
    (identity : new.identity = (world.boards.get target).identity)
    (blind : world.Blind (world.renewal (world.boards.get target) words)) :
    world.Alike (world.renewal (world.boards.get target) words)
      (world.renewed target built new) := by
  constructor
  case same =>
    have parts : world.renewed target built new =
        { world with
          hardwares := (world.renewed target built new).hardwares
          buses := (world.renewed target built new).buses
          tables := (world.renewed target built new).tables
          schedulers := (world.renewed target built new).schedulers
          dispatchers := (world.renewed target built new).dispatchers
          bridges := (world.renewed target built new).bridges
          scrollers := (world.renewed target built new).scrollers
          boards := (world.renewed target built new).boards } := rfl
    rw [renewed_hardwares blank unused config, renewed_dispatchers blank unused,
      renewed_bridges wired unused config clock, renewed_scrollers wired unused config clock,
      renewed_boards config clock identity] at parts
    exact parts
  case buses =>
    exact Arena.alike_modify wired.hasBus
      (alike_renewed_bus unused sound wired.hasBus blind) fun bus other => alike_bus other blind
  case tables => exact alike_renewed_tables unused wired blank
  case handles => exact ⟨rfl, fun handle => alike_handle handle blind⟩
  case schedulers =>
    exact Arena.alike_modify wired.hasScheduler
      (alike_renewed_scheduler unused wired blank config blind)
      fun scheduler other => alike_scheduler filed wired other blind
  case listed =>
    intro table handle member
    obtain ⟨id, entry⟩ := HandleTable.mem_handles.mp member
    refine ⟨(filed.entries table _ entry).1, ?_⟩
    have foreign : table ≠ world.loopTable (world.boards.get target) ∧
        table ≠ world.handlerTable (world.boards.get target) := by
      constructor
      · rintro rfl
        rw [blank.loops] at entry
        exact absurd entry List.not_mem_nil
      · rintro rfl
        rw [blank.handlers] at entry
        exact absurd entry List.not_mem_nil
    rw [renewal_number foreign]
    exact since_zero _
  case trace => exact List.forall₂_same.mpr fun entry _ => .same entry

end Renewed

theorem numbered_renewed (sound : world.Sound) (unused : built.Unused new) {bus : Ref .bus}
    (has : (world.renewed target built new).buses.Has bus) :
    ((world.renewed target built new).buses.get bus).Numbered := by
  have earlier : world.buses.Has bus := Arena.has_modify.mp has
  have numbered : (built.buses.get new.bus).Numbered := unused.bus ▸ Bus.numbered_initial
  simp only [renewed]
  by_cases own : bus = (world.boards.get target).bus
  · subst own
    rw [Arena.get_modify_self _ earlier]
    exact numbered.adopt _
  · rw [Arena.get_modify_of_ne _ _ own]
    exact sound.bus bus earlier

variable {left right : World}

theorem Alike.released (alike : left.Alike pairing right) {handle : Ref .handle}
    (released : (left.handles.get handle).Released) : (right.handles.get handle).Released := by
  have each := alike.handles.each handle
  have callbacks := each.callback
  have gone : (right.handles.get handle).callback = none ↔
      (left.handles.get handle).callback = none := by
    generalize (left.handles.get handle).callback = first,
      (right.handles.get handle).callback = second at callbacks
    cases callbacks <;> simp
  rw [Handle.Released, gone, alike.isDestroyed]
  exact released

theorem Alike.wired (alike : left.Alike pairing right) (wired : left.Wired board) :
    right.Wired board where
  buildable := wired.buildable
  hasHardware := by rw [alike.hardwares]; exact wired.hasHardware
  hasBus := (alike.buses.has _).mp wired.hasBus
  hasScheduler := (alike.schedulers.has _).mp wired.hasScheduler
  hasDispatcher := by rw [alike.dispatchers]; exact wired.hasDispatcher
  hasBridge := by rw [alike.bridges]; exact wired.hasBridge
  hasScroller := by rw [alike.bridges, alike.scrollers]; exact wired.hasScroller
  hasLoops := by rw [alike.table]; exact (alike.tables.has _).mp wired.hasLoops
  hasHandlers := by rw [alike.dispatchers]; exact (alike.tables.has _).mp wired.hasHandlers
  pinIds := by rw [alike.hardwares]; exact wired.pinIds
  width := by rw [alike.hardwares]; exact wired.width
  height := by rw [alike.hardwares]; exact wired.height
  interval := by rw [alike.interval]; exact wired.interval
  dispatcher := by rw [alike.dispatchers]; exact wired.dispatcher
  bridge := by rw [alike.bridges]; exact wired.bridge
  scroller := by rw [alike.bridges, alike.scrollers]; exact wired.scroller

/-- A world that is like a sound one is sound if its subscriptions are numbered. -/
theorem Alike.sound (alike : left.Alike pairing right) (sound : left.Sound)
    (numbered : ∀ bus, right.buses.Has bus → (right.buses.get bus).Numbered) : right.Sound where
  hardware target has := by
    rw [alike.hardwares] at has ⊢
    exact sound.hardware target has
  bus := numbered
  handle target has := alike.released (sound.handle target ((alike.handles.has target).mpr has))
  surface target has := by
    rw [alike.bridges] at has ⊢
    rw [alike.scrollers]
    exact sound.surface target has
  board target has := by
    rw [alike.boards] at has ⊢
    exact alike.wired (sound.board target has)

theorem Alike.blank (alike : left.Alike pairing right) (blank : left.Blank board) :
    right.Blank board where
  hardware := by rw [alike.hardwares]; exact blank.hardware
  loops := by
    have entries := (alike.tables.each (left.loopTable board)).entries
    rw [blank.loops] at entries
    rw [World.loopTable, alike.table]
    exact List.forall₂_nil_left_iff.mp entries
  handlers := by
    have entries := (alike.tables.each (left.handlerTable board)).entries
    rw [blank.handlers] at entries
    rw [World.handlerTable, alike.dispatchers]
    exact List.forall₂_nil_left_iff.mp entries
  lists := by rw [alike.dispatchers]; exact blank.lists
  tasks := by
    have tasks := (alike.schedulers.each board.scheduler).tasks
    rw [blank.tasks] at tasks
    exact List.forall₂_nil_left_iff.mp tasks
  background := by rw [alike.dispatchers]; exact blank.background

/-- A board as it is when it has just been built and been given subscribers: it is blank, and
its handles and subscriptions are numbered from one on. -/
structure AsNew (world : World) (board : Board) (subscribers : List (Nat × Value)) : Prop where
  blank : world.Blank board
  loops : (world.tables.get (world.loopTable board)).next = 1
  handlers : (world.tables.get (world.handlerTable board)).next = 1
  bus : world.buses.get board.bus = Bus.initial.adopt subscribers

theorem Alike.next_renewed {words : Vocabulary}
    (alike : left.Alike (left.renewal board words) right) {table : Ref .table}
    (own : table = left.loopTable board ∨ table = left.handlerTable board) :
    (right.tables.get table).next = 1 := by
  have number : (left.renewal board words).number table = ((left.tables.get table).next, 1) :=
    if_pos own
  obtain ⟨count, first, second⟩ := (alike.tables.each table).next
  rw [number] at first second
  simp only at first second
  omega

/-- A board that has been put in the place of another is fresh, with its subscribers. -/
theorem asNew_renewed {words : Vocabulary} (wired : world.Wired (world.boards.get target))
    (blank : world.Blank (world.boards.get target)) (unused : built.Unused new)
    (alike : world.Alike (world.renewal (world.boards.get target) words)
      (world.renewed target built new)) :
    (world.renewed target built new).AsNew (world.boards.get target)
      (world.buses.get (world.boards.get target).bus).subscribers where
  blank := alike.blank blank
  loops := by
    rw [World.loopTable, alike.table]
    exact alike.next_renewed (.inl rfl)
  handlers := by
    rw [World.handlerTable, alike.dispatchers]
    exact alike.next_renewed (.inr rfl)
  bus := by
    rw [← unused.bus]
    exact Arena.get_modify_self _ wired.hasBus

/-- The parts of a board are as they were in another world, apart from the numbers that have
been given out and from the subscribers. -/
structure Undisturbed (board : Board) (old new : World) : Prop where
  hardware : new.hardwares.get board.hardware = old.hardwares.get board.hardware
  loops : (new.tables.get (new.loopTable board)).entries =
    (old.tables.get (old.loopTable board)).entries
  handlers : (new.tables.get (new.handlerTable board)).entries =
    (old.tables.get (old.handlerTable board)).entries
  lists : (new.dispatchers.get board.dispatcher).handlers =
    (old.dispatchers.get board.dispatcher).handlers
  tasks : (new.schedulers.get board.scheduler).tasks =
    (old.schedulers.get board.scheduler).tasks
  background : (new.dispatchers.get board.dispatcher).background =
    (old.dispatchers.get board.dispatcher).background

theorem Undisturbed.blank {old : World} (undisturbed : Undisturbed board old world)
    (blank : old.Blank board) : world.Blank board where
  hardware := undisturbed.hardware.trans blank.hardware
  loops := undisturbed.loops.trans blank.loops
  handlers := undisturbed.handlers.trans blank.handlers
  lists := undisturbed.lists.trans blank.lists
  tasks := undisturbed.tasks.trans blank.tasks
  background := undisturbed.background.trans blank.background

/-- A board without tasks is blank once it has been stopped. -/
theorem blank_stopped (filed : world.Filed) (wired : world.Wired board)
    (tasks : (world.schedulers.get board.scheduler).tasks = [])
    (background : (world.dispatchers.get board.dispatcher).background = []) :
    (world.stopped board).Blank board := by
  have stopped := filed.stopped wired
  have schedulers : (world.stopped board).schedulers = world.schedulers := by
    change ((world.destroyAll _).destroyAll _).schedulers = _
    rw [destroyAll_schedulers, destroyAll_schedulers]
  have dispatchers : (world.stopped board).dispatchers =
      world.dispatchers.modify board.dispatcher fun dispatcher =>
        { dispatcher with handlers := .const [] } := by
    change ((world.destroyAll _).destroyAll _).dispatchers.modify _ _ = _
    rw [destroyAll_dispatchers, destroyAll_dispatchers]
  constructor
  case hardware =>
    rw [stopped_hardware wired, Hardware.reset, wired.pinIds, wired.width, wired.height]
  case loops => exact stopped.loops
  case handlers => exact stopped.handlers
  case lists => exact stopped.lists
  case tasks =>
    rw [schedulers]
    exact tasks
  case background =>
    rw [dispatchers, world.dispatchers.get_modify_field Dispatcher.background
      (fun dispatcher => { dispatcher with handlers := .const [] }) fun _ => rfl]
    exact background

end World

end Microboard
