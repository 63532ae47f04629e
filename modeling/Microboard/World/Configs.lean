import Microboard.Config.Reading
import Microboard.World
import Microboard.Yaml.Document

/-!
# Configurations of a world

Loading configurations from documents, and the cache of those that are bundled with
the boards. Only a successful load is kept. Who loads brings the reader of documents;
the world has one of its own for the documents of its scripts.
-/

namespace Microboard

/-- The document that is bundled with the board. -/
def bundledDocument : String :=
  "board_name: microbit\n\n" ++
  "pins:\n  prefix: P\n  count: 21\n\n" ++
  "display:\n  width: 5\n  height: 5\n\n" ++
  "buttons: [A, B]\n\n" ++
  "timing:\n  forever_interval_ms: 20\n  scroll_interval_ms: 150\n"

/-- The directories of the library and what stands beside them, each with the steps that
lead there. -/
def directories : List (List String) :=
  [[], ["examples"], ["tests"], ["tests", "core"], ["tests", "microbit"], ["tests", "utils"],
    ["microbit_sim"], ["microbit_sim", "core"], ["microbit_sim", "interfaces"],
    ["microbit_sim", "microbit"], ["microbit_sim", "utils"]]

/-- The directory that a step leads to from another one. -/
def enter? (place : List String) (step : String) : Option (List String) :=
  if step = "" || step = "." then some place
  else if step = ".." then if place.isEmpty then none else some place.dropLast
  else if directories.contains (place ++ [step]) then some (place ++ [step]) else none

/-- The document in the directory that a name leads to from that of the library. Nothing
is known of files that lie elsewhere. -/
def bundled? (name : String) : Option String :=
  if name.startsWith "/" then none
  else
    match (name.splitOn "/").foldlM enter? ["microbit_sim"] with
    | some ["microbit_sim", "microbit"] => some bundledDocument
    | _ => none

/-- Only texts are paths; that of a file is one. -/
def Value.isPath : Value → Bool
  | file _ => true
  | other => other.word?.isSome

/-- The file at a path, or the bundled one under a name. -/
def configFile (name path : Value) : ConfigResult FileContent :=
  match path with
  | .file content => .ok content
  | .none =>
    match name.word?.bind bundled? with
    | some document => .ok (.text document)
    | none =>
      if name.isPath then .error .unreadable
      else .error (.misplaced (.noDivision name.typeName))
  | other =>
    if other.isPath then .error .unreadable
    else .error (.misplaced (.notAPath other.typeName))

def FileContent.config (read : String → Option Value) : FileContent → ConfigResult BoardConfig
  | .undecodable => .error .unreadable
  | .text content =>
    match read content with
    | none => .error .unreadable
    | some (.dict entries) => BoardConfig.ofValue (.dict entries)
    | some _ => .error .notAMapping

/-- Loads the configuration with a name, or that of a file when one is given, with a
reader that finds the value of a document, if there is one. -/
def loadConfig (read : String → Option Value) (name path : Value) :
    ConfigResult BoardConfig := do
  let file ← configFile name path
  file.config read

namespace World

def withConfig (world : World) : ConfigResult BoardConfig → World × Reply
  | .error problem => (world, .error problem.fault)
  | .ok config =>
    let (world, record) := world.withFresh (.boardConfig config)
    (world, .ok record)

/-- Keeps a configuration that has been loaded under a name; a failure is not kept. -/
def keepConfig (world : World) (name : Value) : ConfigResult BoardConfig → World × Reply
  | .error problem => (world, .error problem.fault)
  | .ok config =>
    let identity := world.identities
    ({ world with
        identities := identity + 1
        configs := world.configs ++ [(name.plain, config, identity)] },
      .ok (.boardConfig config identity))

/-- The cached configuration with a name. The loader is asked for it when there is none. -/
def getConfigFrom {m : Type → Type} [Monad m] (load : Value → m (ConfigResult BoardConfig))
    (world : World) (name : Value) : m (World × Reply) :=
  match world.configs.lookup name.plain with
  | some (config, identity) => pure (world, .ok (.boardConfig config identity))
  | none => do
    let loaded ← load name
    return world.keepConfig name loaded

def getConfig (world : World) (name : Value) : World × Reply :=
  Id.run (world.getConfigFrom (fun name => pure (loadConfig Yaml.read? name .none)) name)

def clearConfigs (world : World) : World :=
  { world with configs := [] }

end World

end Microboard
