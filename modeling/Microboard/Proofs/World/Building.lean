import Microboard.Proofs.World.Step

/-!
# Building boards

Building adds objects and touches no other.  A new board is wired, its hardware
is at power-on and nobody is subscribed to it.
-/

namespace Microboard.World

variable {scope : Scope} {world : World}

theorem buildHardware_steps (world : World) (pins width height : Value) :
    Steps scope world (world.buildHardware pins width height).1 := by
  unfold buildHardware
  cases pins.members with
  | error cause => exact steps_refl world
  | ok names =>
      cases width.index with
      | error cause => exact steps_refl world
      | ok width =>
          cases height.index with
          | error cause => exact steps_refl world
          | ok height =>
              by_cases empty : names.isEmpty = true
              · simp only [empty, if_true]
                exact steps_refl world
              · simp only [empty]
                exact Steps.one (.newHardware world (Hardware.shaped_initial _ _ _))

theorem buildScheduler_steps (world : World) (clock : Clock) (interval : Value) :
    Steps scope world (world.buildScheduler clock interval).1 := by
  unfold buildScheduler
  cases checkInterval interval with
  | error cause => exact steps_refl world
  | ok interval => exact Steps.one (.newScheduler world clock interval)

theorem plain_textTuple (names : List String) :
    ∃ members, (textTuple names).members = .ok members ∧ members.map Value.plain = names := by
  refine ⟨names.map .str, rfl, ?_⟩
  rw [List.map_map]
  exact List.map_id _

theorem buildHardware_ok {config : BoardConfig} {next : World} {target : Ref .hardware}
    (built : world.buildHardware (textTuple config.pins.pinIds) (.int config.display.width)
      (.int config.display.height) = (next, .ok target)) :
    next = (world.newHardware
        (.initial config.pins.pinIds config.display.width config.display.height)).1 ∧
      target = world.hardwares.fresh ∧ config.pins.pinIds ≠ [] := by
  obtain ⟨members, given, names⟩ := plain_textTuple config.pins.pinIds
  unfold buildHardware at built
  simp only [given, Value.index] at built
  by_cases empty : members.isEmpty = true
  · simp [empty] at built
  · simp only [empty, names] at built
    simp only [newHardware, Bool.false_eq_true, if_false, Prod.mk.injEq, Except.ok.injEq] at built
    refine ⟨built.1.symm, built.2.symm, ?_⟩
    rw [← names]
    simpa using empty

/-- A delay is accepted as it stands when it is a number that does not compare below zero. -/
theorem checkInterval_eq_ok_iff {interval checked : Value} :
    checkInterval interval = .ok checked ↔
      checked = interval ∧
        ∃ number, interval.number? = some number ∧ number.isNegative = false := by
  unfold checkInterval
  cases interval.number? with
  | none => simp
  | some number =>
      cases sign : number.isNegative with
      | true => simp [sign]
      | false => simp [sign, eq_comm (a := interval)]

theorem buildScheduler_ok {clock : Clock} {interval : Value} {next : World}
    {target : Ref .scheduler}
    (built : world.buildScheduler clock interval = (next, .ok target)) :
    next = (world.newScheduler clock interval).1 ∧ target = world.schedulers.fresh ∧
      checkInterval interval = .ok interval := by
  unfold buildScheduler at built
  cases checked : checkInterval interval with
  | error cause => simp [checked] at built
  | ok given =>
      obtain ⟨rfl, -⟩ := checkInterval_eq_ok_iff.mp checked
      simp only [checked, newScheduler, Prod.mk.injEq, Except.ok.injEq] at built
      exact ⟨built.1.symm, built.2.symm, rfl⟩

/-- The board that a configuration asks for, with the references that its parts get
in a world. -/
def plannedBoard (world : World) (clock : Clock) (config : BoardConfig) (identity : Nat) :
    Board :=
  { config, identity, clock
    hardware := world.hardwares.fresh
    bus := world.buses.fresh
    scheduler := world.schedulers.fresh
    dispatcher := world.dispatchers.fresh
    bridge := world.bridges.fresh }

/-- A world in which the parts of a board stand. -/
def withParts (world : World) (clock : Clock) (config : BoardConfig) : World :=
  let board := world.plannedBoard clock config 0
  let world := (world.newHardware
    (.initial config.pins.pinIds config.display.width config.display.height)).1
  let world := world.newBus.1
  let world := (world.newScheduler clock config.timing.forever.value).1
  let world := (world.newDispatcher board.hardware board.bus).1
  (world.newBridge board.hardware board.bus clock board.scheduler board.dispatcher
    config.timing.scroll.value).1

theorem withParts_steps (world : World) (clock : Clock) (config : BoardConfig) :
    Steps scope world (world.withParts clock config) := by
  have hardware : Steps scope world _ :=
    Steps.one (.newHardware world (Hardware.shaped_initial config.pins.pinIds
      config.display.width config.display.height))
  have bus := hardware.tail (.newBus _)
  have scheduler := bus.tail (.newScheduler _ clock config.timing.forever.value)
  have dispatcher := scheduler.tail
    (.newDispatcher _ world.hardwares.fresh world.buses.fresh)
  exact dispatcher.tail
    (.newBridge _ world.hardwares.fresh world.buses.fresh clock world.schedulers.fresh
      world.dispatchers.fresh config.timing.scroll.value)

theorem withParts_bridge (world : World) (clock : Clock) (config : BoardConfig) :
    (world.withParts clock config).bridges.get world.bridges.fresh =
      ⟨world.hardwares.fresh, world.buses.fresh, clock, world.schedulers.fresh,
        world.dispatchers.fresh, config.timing.scroll.value, world.scrollers.fresh⟩ :=
  Arena.get_push_fresh _ _

theorem withParts_scheduler (world : World) (clock : Clock) (config : BoardConfig) :
    (world.withParts clock config).schedulers.get world.schedulers.fresh =
      ⟨clock, config.timing.forever.value, world.tables.fresh, []⟩ :=
  Arena.get_push_fresh _ _

theorem withParts_dispatcher (world : World) (clock : Clock) (config : BoardConfig) :
    (world.withParts clock config).dispatchers.get world.dispatchers.fresh =
      ⟨world.hardwares.fresh, world.buses.fresh, (world.tables.push .initial).fresh,
        .const [], []⟩ :=
  Arena.get_push_fresh _ _

theorem withParts_scroller (world : World) (clock : Clock) (config : BoardConfig) :
    (world.withParts clock config).scrollers.get world.scrollers.fresh =
      ⟨.matrix world.bridges.fresh, clock, config.display.width, config.display.height,
        Glyph.font⟩ := by
  have size := Arena.get_push_fresh world.hardwares
    (.initial config.pins.pinIds config.display.width config.display.height)
  apply (Arena.get_push_fresh world.scrollers _).trans
  refine (congrArg (fun hardware : Hardware => (⟨.matrix world.bridges.fresh, clock,
    hardware.width, hardware.height, Glyph.font⟩ : Scroller)) size).trans ?_
  rfl

theorem withParts_wired (world : World) (clock : Clock) {config : BoardConfig}
    (identity : Nat) (buildable : config.Buildable) :
    (world.withParts clock config).Wired (world.plannedBoard clock config identity) where
  buildable := buildable
  hasHardware := Arena.has_push_fresh _ _
  hasBus := Arena.has_push_fresh _ _
  hasScheduler := Arena.has_push_fresh _ _
  hasDispatcher := Arena.has_push_fresh _ _
  hasBridge := Arena.has_push_fresh _ _
  hasScroller := by
    rw [show (world.plannedBoard clock config identity).bridge = world.bridges.fresh from rfl,
      withParts_bridge]
    exact Arena.has_push_fresh _ _
  hasLoops := by
    rw [show (world.plannedBoard clock config identity).scheduler = world.schedulers.fresh
      from rfl, withParts_scheduler]
    exact Arena.has_push (Arena.has_push_fresh world.tables .initial)
  hasHandlers := by
    rw [show (world.plannedBoard clock config identity).dispatcher = world.dispatchers.fresh
      from rfl, withParts_dispatcher]
    exact Arena.has_push_fresh (world.tables.push .initial) .initial
  pinIds := congrArg Hardware.pinIds (Arena.get_push_fresh _ _)
  width := congrArg Hardware.width (Arena.get_push_fresh _ _)
  height := congrArg Hardware.height (Arena.get_push_fresh _ _)
  interval := congrArg Scheduler.interval (Arena.get_push_fresh _ _)
  dispatcher :=
    ⟨congrArg Dispatcher.hardware (Arena.get_push_fresh _ _),
      congrArg Dispatcher.bus (Arena.get_push_fresh _ _)⟩
  bridge := by
    rw [show (world.plannedBoard clock config identity).bridge = world.bridges.fresh from rfl,
      withParts_bridge]
    rfl
  scroller := by
    rw [show (world.plannedBoard clock config identity).bridge = world.bridges.fresh from rfl,
      withParts_bridge]
    exact withParts_scroller world clock config

/-- A board that has been built is the planned one, and its parts stand. -/
theorem buildBoard_ok {clock : Clock} {config : BoardConfig} {identity : Nat} {next : World}
    {target : Ref .board}
    (built : world.buildBoard clock config identity = (next, .ok target)) :
    target = world.boards.fresh ∧
      next = { world.withParts clock config with
        boards := world.boards.push (world.plannedBoard clock config identity) } ∧
      config.Buildable := by
  unfold buildBoard at built
  cases hardwareBuilt : world.buildHardware (textTuple config.pins.pinIds)
      (.int config.display.width) (.int config.display.height) with
  | mk withHardware result =>
      cases result with
      | error fault => simp [hardwareBuilt] at built
      | ok hardware =>
          obtain ⟨rfl, rfl, pins⟩ := buildHardware_ok hardwareBuilt
          simp only [hardwareBuilt] at built
          generalize busBuilt : World.newBus _ = withBus at built
          cases schedulerBuilt : withBus.1.buildScheduler clock config.timing.forever.value with
          | mk withScheduler result =>
              cases result with
              | error fault => simp [schedulerBuilt] at built
              | ok scheduler =>
                  obtain ⟨rfl, rfl, interval⟩ := buildScheduler_ok schedulerBuilt
                  simp only [schedulerBuilt] at built
                  subst busBuilt
                  cases built
                  exact ⟨rfl, rfl, pins, interval⟩

/-- A board can be built from a buildable configuration in every world. -/
theorem buildBoard_of_buildable {config : BoardConfig} (buildable : config.Buildable)
    (world : World) (clock : Clock) (identity : Nat) :
    ∃ next target, world.buildBoard clock config identity = (next, .ok target) := by
  obtain ⟨members, given, names⟩ := plain_textTuple config.pins.pinIds
  have filled : members.isEmpty = false := by
    have pins := buildable.pins
    rw [← names] at pins
    simpa using pins
  simp only [buildBoard, buildHardware, given, Value.index, filled, Bool.false_eq_true, if_false,
    buildScheduler, buildable.interval]
  exact ⟨_, _, rfl⟩

theorem buildBoard_error {clock : Clock} {config : BoardConfig} {identity : Nat}
    {next : World} {fault : Fault}
    (failed : world.buildBoard clock config identity = (next, .error fault)) :
    Steps scope world next := by
  unfold buildBoard at failed
  have hardwareBuilt : Steps scope world _ :=
    buildHardware_steps world (textTuple config.pins.pinIds) (.int config.display.width)
      (.int config.display.height)
  split at failed
  next withHardware fault result =>
    rw [result] at hardwareBuilt
    cases failed
    exact hardwareBuilt
  next withHardware hardware result =>
    rw [result] at hardwareBuilt
    simp only at failed
    have schedulerBuilt : Steps scope withHardware.newBus.1 _ :=
      buildScheduler_steps withHardware.newBus.1 clock config.timing.forever.value
    split at failed
    next withScheduler fault result =>
      rw [result] at schedulerBuilt
      cases failed
      exact (hardwareBuilt.tail (.newBus _)).trans schedulerBuilt
    next => cases failed

theorem buildBoard_steps (world : World) (clock : Clock) (config : BoardConfig)
    (identity : Nat) : Steps scope world (world.buildBoard clock config identity).1 := by
  cases built : world.buildBoard clock config identity with
  | mk next result =>
      cases result with
      | error fault => exact buildBoard_error built
      | ok target =>
          obtain ⟨-, rfl, buildable⟩ := buildBoard_ok built
          exact (withParts_steps world clock config).tail
            (.newBoard (withParts_wired world clock identity buildable))

theorem built_steps {component : Component} {record : Ref component → Value}
    {result : World × Except Fault (Ref component)} (steps : Steps scope world result.1) :
    Steps scope world (built record result).1 := by
  obtain ⟨next, reply⟩ := result
  cases reply <;> exact steps

theorem constructBoard_steps (arguments : Arguments) :
    Steps scope world (world.constructBoard arguments).1 := by
  unfold constructBoard
  cases arguments.get 1 "config" with
  | boardConfig config identity => exact built_steps (buildBoard_steps world _ config identity)
  | none =>
      cases loadConfig Yaml.read? (.str "microbit") (arguments.get 2 "config_path") with
      | error problem =>
          simp only
          exact steps_refl world
      | ok config =>
          simp only
          exact built_steps
            ((steps_counted world).trans (buildBoard_steps _ _ config world.identities))
  | _ => exact steps_refl world

theorem construct_steps (className : ClassName) (arguments : Arguments) :
    Steps scope world (world.construct className arguments).1 := by
  cases className with
  | hardware => exact built_steps (buildHardware_steps world _ _ _)
  | bus => exact Steps.one (.newBus world)
  | table => exact Steps.one (.newTable world)
  | scheduler => exact built_steps (buildScheduler_steps world _ _)
  | dispatcher =>
      unfold construct
      simp only
      split
      · exact Steps.one (.newDispatcher world _ _)
      · exact steps_refl world
  | bridge =>
      unfold construct
      simp only
      split
      · exact Steps.one (.newBridge world _ _ _ _ _ _)
      · exact steps_refl world
  | scroller => exact Steps.one (.newScroller world _)
  | board => exact constructBoard_steps arguments
  | registry => exact Steps.one (.newRegistry world)
  | pinLevels => exact steps_counted world
  | pinChange | ledChange | buttonPress | reset =>
      unfold construct
      simp only
      split
      · exact steps_refl world
      · exact steps_counted world
  | boardConfig =>
      unfold construct
      simp only
      split
      · exact steps_counted world
      · exact steps_refl world
  | button =>
      unfold construct
      simp only
      split <;> exact steps_refl world
  | fault kind =>
      unfold construct
      simp only
      split
      · exact steps_refl world
      · exact steps_counted world
  | keeper name => exact Steps.one (.newKeeper world name _)
  | wallClock | pinsConfig | displayConfig | timingConfig => exact steps_refl world

theorem registerBoard_steps (target : Ref .registry) (name className : Value) :
    Steps scope world (world.registerBoard target name className).1 := by
  unfold registerBoard
  cases (world.registries.get target).register name.plain className with
  | error cause => exact steps_refl world
  | ok entry =>
      exact (Steps.one (.setRegistry world target fun _ => entry.1)).trans
        (steps_log _ _ _ _)

theorem withConfig_steps (result : ConfigResult BoardConfig) :
    Steps scope world (world.withConfig result).1 := by
  cases result with
  | error problem => exact steps_refl world
  | ok config => exact steps_withFresh world (.boardConfig config)

theorem getConfig_steps (name : Value) : Steps scope world (world.getConfig name).1 := by
  unfold getConfig getConfigFrom
  cases world.configs.lookup name.plain with
  | some entry => exact steps_refl world
  | none =>
      cases loaded : loadConfig Yaml.read? name .none with
      | error problem =>
          simp only [loaded]
          exact steps_refl world
      | ok config =>
          simp only [loaded]
          exact Steps.one (.history world _ _ _ world.now world.trace)

theorem buildNamed_steps (className : ClassName) (name : Value) (named : List (String × Value)) :
    Steps scope world (world.buildNamed className name named).1 :=
  (steps_log world _ _ _).trans (construct_steps className _)

theorem createBoard_steps (target : Ref .registry) (name : Value)
    (named : List (String × Value)) :
    Steps scope world (world.createBoard target name named).1 := by
  unfold createBoard createBoardFrom
  cases (world.registries.get target).boardClass name.plain with
  | error cause => exact steps_refl world
  | ok className =>
      by_cases missing : (isOpen named "config" && isOpen named "config_path") = true
      · have loaded : Steps scope world (world.getConfig name).1 := getConfig_steps name
        simp only [missing, if_true]
        change Steps scope world (buildWith className name named (world.getConfig name)).1
        generalize world.getConfig name = found at loaded ⊢
        obtain ⟨next, reply⟩ := found
        cases reply with
        | error fault => exact loaded
        | ok config => exact loaded.trans (buildNamed_steps className name _)
      · simp only [missing]
        exact buildNamed_steps className name named

theorem callFunction_steps (function : Function) (arguments : Arguments) :
    Steps scope world (world.callFunction function arguments).1 := by
  cases function with
  | coerce | glyphWidth | glyph | verifyBoards | length | list =>
      unfold callFunction
      simp only
      split <;> exact steps_refl world
  | parseConfig | loadConfig => exact withConfig_steps _
  | getConfig => exact getConfig_steps _
  | clearConfigCache =>
      exact Steps.one (.history world [] world.identities _ world.now world.trace)
  | registerBoard => exact registerBoard_steps _ _ _
  | createBoard => exact createBoard_steps _ _ _
  | _ => exact steps_refl world

end Microboard.World
