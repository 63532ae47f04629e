/-!
# Quality gates

The checks that a change has to pass. A gate is one invocation of a tool; some tools
can also repair what they find.
-/

namespace Microboard.Checks

/-- A gate: a key to select it by, a title, the command that checks, the command that
repairs, and whether the output is held back. -/
structure Gate where
  key : String
  title : String
  command : List String
  fixCommand : Option (List String)
  capture : Bool
deriving DecidableEq, Repr

def interpreter : String := "<python>"

def package : String := "microbit_sim"

def testFolder : String := "tests"

def sources : List String :=
  [package, testFolder, "examples", "run_quality_checks.py"]

def tool (name : String) (args : List String) : List String :=
  [interpreter, "-m", name] ++ args

/-- Arguments of the test tool; a fast run leaves slow tests out. -/
def testArguments (fast : Bool) : List String :=
  ["--asyncio-mode=strict", "--cov=" ++ package, "--cov-report=term-missing"] ++
    (if fast then ["-m", "not slow"] else []) ++ [testFolder]

def gates (fast : Bool) : List Gate :=
  [⟨"formatting", "black", tool "black" (["--check", "--diff"] ++ sources),
      some (tool "black" sources), true⟩,
   ⟨"imports", "isort", tool "isort" (["--check-only", "--diff"] ++ sources),
      some (tool "isort" sources), true⟩,
   ⟨"lint", "pylint", tool "pylint" [package], none, true⟩,
   ⟨"type", "mypy", tool "mypy" [package], none, true⟩,
   ⟨"deadcode", "vulture", tool "vulture" [package, "--min-confidence", "80"], none, true⟩,
   ⟨"complexity", "radon", tool "radon" ["cc", package, "-a", "-nc"], none, false⟩,
   ⟨"tests", "pytest + coverage", tool "pytest" (testArguments fast), none, false⟩,
   ⟨"example", "example script smoke run",
      [interpreter, "examples/run_led_blink.py", "--seconds", "0.3", "--period", "20"],
      none, true⟩]

def keys : List String :=
  (gates false).map (·.key)

/-- The command that repairs, when that is asked for and possible. -/
def Gate.repair? (gate : Gate) (fix : Bool) : Option (List String) :=
  match gate.fixCommand with
  | some command => if fix && !command.isEmpty then some command else none
  | none => none

def Gate.chosen (gate : Gate) (fix : Bool) : List String :=
  (gate.repair? fix).getD gate.command

def Gate.label (gate : Gate) (fix : Bool) : String :=
  if (gate.repair? fix).isSome then gate.title ++ " (fix)" else gate.title

end Microboard.Checks
