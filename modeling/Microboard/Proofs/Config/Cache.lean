import Microboard.Proofs.World.Cached

/-!
# The cache of configurations

A configuration is loaded once and then handed out again, until the cache is cleared.  What
a load comes to is left open here, time and again; the loader writes down what it is asked
for, and what the cache answers is said in terms of the loads that were made for it.
-/

namespace Microboard.Cache

/-- What is asked of the configurations: the cached one with a name, an empty cache, one that
is loaded past the cache, or a board with a name. -/
inductive Query where
  | get (name : String)
  | clear
  | load
  | create (registry : Ref .registry) (name : String) (named : List (String × Value))

/-- A query, and what a load comes to if it is made on its account. -/
structure Turn where
  query : Query
  loaded : ConfigResult BoardConfig

/-- What comes of a query: the world, the answer, and the configurations that were loaded
for the cache. -/
structure Outcome where
  world : World
  reply : Reply
  asked : List Value

/-- A loader that comes to a known result and writes down what it is asked for. -/
def noting (loaded : ConfigResult BoardConfig) (name : Value) :
    StateM (List Value) (ConfigResult BoardConfig) := do
  modify fun asked => asked ++ [name]
  return loaded

def Turn.served (turn : Turn) (world : World) : StateM (List Value) (World × Reply) :=
  match turn.query with
  | .get name => world.getConfigFrom (noting turn.loaded) (.str name)
  | .clear => pure (world.clearConfigs, .nothing)
  | .load => pure (world.withConfig turn.loaded)
  | .create registry name named =>
    world.createBoardFrom (noting turn.loaded) registry (.str name) named

def Turn.serve (turn : Turn) (world : World) : Outcome :=
  let ((world, reply), asked) := Id.run ((turn.served world).run [])
  ⟨world, reply, asked⟩

/-- What a query puts into the cache, when so many identities have been used up before.  Every
configuration that is loaded is an object of its own. -/
def Turn.loads (turn : Turn) (identity : Nat) (asked : List Value) :
    List (String × BoardConfig × Nat) :=
  match turn.loaded with
  | .error _ => []
  | .ok config => asked.map fun name => (name.plain, config, identity)

/-- A run up to one moment: the world, and what has been loaded for the cache since it was
cleared last, the oldest first. -/
structure History where
  world : World
  loads : List (String × BoardConfig × Nat)

namespace History

def next (history : History) (turn : Turn) : History :=
  let outcome := turn.serve history.world
  { world := outcome.world
    loads := match turn.query with
      | .clear => []
      | _ => history.loads ++ turn.loads history.world.identities outcome.asked }

def after (history : History) (turns : List Turn) : History :=
  turns.foldl next history

/-- The first configuration with a name that has been loaded since the cache was cleared. -/
def first? (history : History) (name : String) : Option (BoardConfig × Nat) :=
  history.loads.lookup name

end History

variable {world : World} {name : String} {loaded : ConfigResult BoardConfig}

theorem serve_get_of_some {config : BoardConfig} {identity : Nat}
    (kept : world.configs.lookup name = some (config, identity)) :
    (Turn.mk (.get name) loaded).serve world =
      ⟨world, .ok (.boardConfig config identity), []⟩ := by
  simp only [Turn.serve, Turn.served, World.getConfigFrom, Value.plain_str, kept]
  rfl

theorem serve_get_of_none (missing : world.configs.lookup name = none) :
    (Turn.mk (.get name) loaded).serve world =
      ⟨(world.keepConfig (.str name) loaded).1, (world.keepConfig (.str name) loaded).2,
        [.str name]⟩ := by
  simp only [Turn.serve, Turn.served, World.getConfigFrom, Value.plain_str, missing]
  rfl

section Creation

variable {registry : Ref .registry} {named : List (String × Value)} {className : ClassName}

theorem serve_create_of_unknown {cause : Complaint}
    (unknown : (world.registries.get registry).boardClass name = .error cause) :
    (Turn.mk (.create registry name named) loaded).serve world =
      ⟨world, .complain cause, []⟩ := by
  simp only [Turn.serve, Turn.served, World.createBoardFrom, Value.plain_str, unknown]
  rfl

theorem serve_create_of_given
    (known : (world.registries.get registry).boardClass name = .ok className)
    (given : (World.isOpen named "config" && World.isOpen named "config_path") = false) :
    (Turn.mk (.create registry name named) loaded).serve world =
      ⟨(world.buildNamed className (.str name) named).1,
        (world.buildNamed className (.str name) named).2, []⟩ := by
  simp only [Turn.serve, Turn.served, World.createBoardFrom, Value.plain_str, known, given]
  rfl

/-- A board without a configuration of its own is built with what the cache hands out. -/
theorem serve_create_of_open
    (known : (world.registries.get registry).boardClass name = .ok className)
    (missing : (World.isOpen named "config" && World.isOpen named "config_path") = true) :
    (Turn.mk (.create registry name named) loaded).serve world =
      let got := (Turn.mk (.get name) loaded).serve world
      let built := World.buildWith className (.str name) named (got.world, got.reply)
      ⟨built.1, built.2, got.asked⟩ := by
  simp only [Turn.serve, Turn.served, World.createBoardFrom, Value.plain_str, known, missing,
    if_true]
  rfl

end Creation

theorem Turn.loads_nil (turn : Turn) (identity : Nat) : turn.loads identity [] = [] := by
  unfold loads
  split <;> rfl

theorem serve_get_caches :
    World.Caches world ((Turn.mk (.get name) loaded).loads world.identities
        ((Turn.mk (.get name) loaded).serve world).asked)
      ((Turn.mk (.get name) loaded).serve world).world := by
  cases kept : world.configs.lookup name with
  | some entry =>
      rw [serve_get_of_some kept, Turn.loads_nil]
      exact .refl world
  | none =>
      rw [serve_get_of_none kept]
      cases loaded with
      | error problem => exact .refl world
      | ok config => exact ⟨rfl, Nat.le_succ _⟩

/-- What is loaded on account of a query is cached, unless the query empties the cache. -/
theorem serve_caches {turn : Turn} (keeps : turn.query ≠ .clear) (world : World) :
    World.Caches world (turn.loads world.identities (turn.serve world).asked)
      (turn.serve world).world := by
  obtain ⟨query, loaded⟩ := turn
  cases query with
  | get name => exact serve_get_caches
  | clear => exact absurd rfl keeps
  | load =>
      cases loaded with
      | error problem => exact .refl world
      | ok config => exact ⟨(List.append_nil _).symm, Nat.le_succ _⟩
  | create registry name named =>
      cases known : (world.registries.get registry).boardClass name with
      | error cause =>
          rw [serve_create_of_unknown known, Turn.loads_nil]
          exact .refl world
      | ok className =>
          cases missing : World.isOpen named "config" && World.isOpen named "config_path" with
          | false =>
              rw [serve_create_of_given known missing, Turn.loads_nil]
              exact World.buildNamed_caches world className _ named
          | true =>
              rw [serve_create_of_open known missing]
              exact serve_get_caches.trans_nil (World.buildWith_caches className _ named _)

/-- A query that passes the cache by. -/
def Query.PassesBy (world : World) : Query → Prop
  | .get _ | .clear => False
  | .load => True
  | .create registry name named =>
    (∃ cause, (world.registries.get registry).boardClass name = .error cause) ∨
      World.isOpen named "config" = false ∨ World.isOpen named "config_path" = false

theorem Query.PassesBy.serve {turn : Turn} (passes : turn.query.PassesBy world) :
    (turn.serve world).asked = [] ∧ ∀ configs, turn.serve (world.withCache configs) =
      { turn.serve world with world := (turn.serve world).world.withCache configs } := by
  obtain ⟨query, loaded⟩ := turn
  cases query with
  | get name | clear => exact passes.elim
  | load => exact ⟨rfl, fun configs => by cases loaded <;> rfl⟩
  | create registry name named =>
      cases known : (world.registries.get registry).boardClass name with
      | error cause =>
          rw [serve_create_of_unknown known]
          exact ⟨rfl, fun configs => serve_create_of_unknown known⟩
      | ok className =>
          have given :
              (World.isOpen named "config" && World.isOpen named "config_path") = false := by
            rcases passes with ⟨cause, unknown⟩ | config | path
            · simp [known] at unknown
            · simp [config]
            · simp [path]
          rw [serve_create_of_given known given]
          refine ⟨rfl, fun configs => ?_⟩
          have served : (Turn.mk (.create registry name named) loaded).serve
              (world.withCache configs) = _ := serve_create_of_given known given
          rw [served, World.buildNamed_withCache]
          rfl

/-- What one more query comes to after a run.  Identities only advance, so a configuration that
is loaded is told apart from all that there have been. -/
structure Coherent (history : History) (turn : Turn) : Prop where
  advances : history.world.identities ≤ (turn.serve history.world).world.identities
  handed : ∀ name config identity, turn.query = .get name →
    history.first? name = some (config, identity) →
    turn.serve history.world = ⟨history.world, .ok (.boardConfig config identity), []⟩
  failed : ∀ name problem, turn.query = .get name → history.first? name = none →
    turn.loaded = .error problem →
    turn.serve history.world = ⟨history.world, .error problem.fault, [.str name]⟩ ∧
      history.next turn = history
  loaded : ∀ name config, turn.query = .get name → history.first? name = none →
    turn.loaded = .ok config →
    (turn.serve history.world).reply = .ok (.boardConfig config history.world.identities) ∧
      (turn.serve history.world).asked = [.str name] ∧
      (turn.serve history.world).world.identities = history.world.identities + 1 ∧
      ∀ other, (history.next turn).first? other =
        if other = name then some (config, history.world.identities) else history.first? other
  cleared : turn.query = .clear →
    (turn.serve history.world).reply = .nothing ∧ (turn.serve history.world).asked = [] ∧
      ∀ name, (history.next turn).first? name = none
  refused : ∀ registry name named cause, turn.query = .create registry name named →
    (history.world.registries.get registry).boardClass name = .error cause →
    turn.serve history.world = ⟨history.world, .complain cause, []⟩
  created : ∀ registry name named className, turn.query = .create registry name named →
    (history.world.registries.get registry).boardClass name = .ok className →
    World.isOpen named "config" = true → World.isOpen named "config_path" = true →
    let got := (Turn.mk (.get name) turn.loaded).serve history.world
    let built := World.buildWith className (.str name) named (got.world, got.reply)
    turn.serve history.world = ⟨built.1, built.2, got.asked⟩ ∧
      (history.next turn).loads = (history.next ⟨.get name, turn.loaded⟩).loads ∧
      ∀ config key, (World.withConfigArgument named config).lookup key =
        if key = "config" then some config else named.lookup key
  passedBy : turn.query.PassesBy history.world →
    (turn.serve history.world).asked = [] ∧ (history.next turn).loads = history.loads ∧
      ∀ configs, turn.serve (history.world.withCache configs) =
        { turn.serve history.world with
          world := (turn.serve history.world).world.withCache configs }

/-- What the cache of a world holds has been loaded for it, and all that has been is there. -/
def History.Kept (history : History) : Prop :=
  history.world.configs = history.loads

variable {history : History}

theorem History.next_loads {turn : Turn} (keeps : turn.query ≠ .clear) (history : History) :
    (history.next turn).loads = history.loads ++
      turn.loads history.world.identities (turn.serve history.world).asked := by
  obtain ⟨query, loaded⟩ := turn
  cases query with
  | clear => exact absurd rfl keeps
  | get | load | create => rfl

theorem History.next_of_clear {turn : Turn} (clears : turn.query = .clear) (history : History) :
    history.next turn = ⟨history.world.clearConfigs, []⟩ := by
  obtain ⟨query, loaded⟩ := turn
  obtain rfl : query = .clear := clears
  rfl

theorem History.Kept.next (kept : history.Kept) (turn : Turn) : (history.next turn).Kept := by
  by_cases clears : turn.query = .clear
  · rw [History.next_of_clear clears]
    rfl
  · have cached := (serve_caches clears history.world).configs
    rw [kept] at cached
    exact cached.trans (History.next_loads clears history).symm

theorem History.Kept.after (kept : history.Kept) (turns : List Turn) :
    (history.after turns).Kept := by
  induction turns generalizing history with
  | nil => exact kept
  | cons turn rest induction => exact induction (kept.next turn)

theorem History.lookup_append (object : BoardConfig × Nat) (other : String)
    (missing : history.first? name = none) :
    (history.loads ++ [(name, object)]).lookup other =
      if other = name then some object else history.first? other := by
  rw [List.lookup_append]
  change (history.first? other).or _ = _
  by_cases same : other = name
  · rw [same, missing, if_pos rfl]
    exact List.lookup_cons_self
  · have differs : (other == name) = false := beq_false_of_ne same
    simp [List.lookup_cons, differs, same]

theorem History.Kept.coherent (kept : history.Kept) (turn : Turn) : Coherent history turn := by
  have cached (name : String) : history.world.configs.lookup name = history.first? name :=
    congrArg (List.lookup name) kept
  obtain ⟨query, loaded⟩ := turn
  constructor
  case advances =>
    by_cases clears : query = .clear
    · rw [clears]
      exact Nat.le_refl _
    · exact (serve_caches clears history.world).identities
  case handed =>
    rintro name config identity rfl first
    exact serve_get_of_some ((cached name).trans first)
  case failed =>
    rintro name problem rfl first rfl
    have served : (Turn.mk (.get name) (.error problem)).serve history.world = _ :=
      serve_get_of_none ((cached name).trans first)
    refine ⟨served, ?_⟩
    simp only [History.next, served, Turn.loads, List.append_nil]
    rfl
  case loaded =>
    rintro name config rfl first rfl
    have served : (Turn.mk (.get name) (.ok config)).serve history.world = _ :=
      serve_get_of_none ((cached name).trans first)
    rw [History.next, served]
    refine ⟨rfl, rfl, rfl, fun other => ?_⟩
    exact History.lookup_append (config, history.world.identities) other first
  case cleared =>
    rintro rfl
    exact ⟨rfl, rfl, fun _ => rfl⟩
  case refused =>
    rintro registry name named cause rfl unknown
    exact serve_create_of_unknown unknown
  case created =>
    rintro registry name named className rfl known config path
    have missing : (World.isOpen named "config" && World.isOpen named "config_path") = true := by
      simp [config, path]
    have served : (Turn.mk (.create registry name named) loaded).serve history.world = _ :=
      serve_create_of_open known missing
    refine ⟨served, ?_, World.lookup_withConfigArgument named⟩
    simp only [History.next, served]
    rfl
  case passedBy =>
    intro passes
    obtain ⟨asked, same⟩ := passes.serve
    refine ⟨asked, ?_, same⟩
    have keeps : query ≠ .clear := by
      rintro rfl
      exact passes
    rw [History.next_loads keeps, asked, Turn.loads_nil, List.append_nil]

theorem getConfig_eq_serve (world : World) (name : String) :
    world.getConfig (.str name) =
      let outcome := (Turn.mk (.get name) (loadConfig Yaml.read? (.str name) .none)).serve world
      (outcome.world, outcome.reply) := by
  unfold World.getConfig World.getConfigFrom
  cases kept : world.configs.lookup name with
  | some entry =>
      rw [serve_get_of_some kept]
      simp only [Value.plain_str, kept]
      rfl
  | none =>
      rw [serve_get_of_none kept]
      simp only [Value.plain_str, kept]
      rfl

theorem createBoard_eq_serve (world : World) (registry : Ref .registry) (name : String)
    (named : List (String × Value)) :
    world.createBoard registry (.str name) named =
      let outcome :=
        (Turn.mk (.create registry name named)
          (loadConfig Yaml.read? (.str name) .none)).serve world
      (outcome.world, outcome.reply) := by
  unfold World.createBoard World.createBoardFrom
  cases known : (world.registries.get registry).boardClass name with
  | error cause =>
      rw [serve_create_of_unknown known]
      simp only [Value.plain_str, known]
      rfl
  | ok className =>
      cases missing : World.isOpen named "config" && World.isOpen named "config_path" with
      | false =>
          rw [serve_create_of_given known missing]
          simp only [Value.plain_str, known]
          rfl
      | true =>
          rw [serve_create_of_open known missing]
          simp only [Value.plain_str, known, if_true]
          exact congrArg (World.buildWith className (.str name) named)
            (getConfig_eq_serve world name)

def twentyPins : BoardConfig :=
  ⟨"microbit", ⟨"P", 20⟩, ⟨5, 5⟩, ["A", "B"], .standard⟩

end Microboard.Cache
