import Microboard.Checks.Gate
import Microboard.Options

/-!
# Running gates

One gate after the other is run, and the report says which of them passed, failed or
were left out. How the process of a gate ended is given from outside.
-/

namespace Microboard.Checks

/-- How a process ended, if it could be started. -/
inductive Outcome where
  | missing (reason : String)
  | ended (code : Int) (out err : String)
deriving DecidableEq, Repr

structure Call where
  command : List String
  captured : Bool
deriving DecidableEq, Repr

structure GateRun where
  passed : Bool
  stdout : String
  stderr : String
  call : Call
deriving DecidableEq, Repr

def Outcome.passes : Outcome → Bool
  | missing _ => false
  | ended code _ _ => code == 0

def isWithin (part : List Char) : List Char → Bool
  | [] => part.isEmpty
  | char :: rest => part.isPrefixOf (char :: rest) || isWithin part rest

def hint : String := "       tool missing? install with: pip install -e .[dev]\n"

def verdict (passed : Bool) : String :=
  if passed then "[PASS] " else "[FAIL] "

def Gate.heading (gate : Gate) (fix verbose : Bool) : String :=
  "\n== " ++ gate.label fix ++ " ==\n" ++
    (if verbose then "$ " ++ " ".intercalate (gate.chosen fix) ++ "\n" else "")

def Gate.run (gate : Gate) (fix verbose : Bool) (outcome : Outcome) : GateRun :=
  let captured := gate.capture && !verbose
  let heading := gate.heading fix verbose
  let call : Call := ⟨gate.chosen fix, captured⟩
  match outcome with
  | .missing reason =>
    ⟨false, heading ++ verdict false ++ gate.label fix ++ ": " ++ reason ++ "\n", "", call⟩
  | .ended code out err =>
    let shown := captured && code ≠ 0
    let needsHint :=
      code == 127 || (captured && isWithin "No module named".toList err.toList)
    ⟨code == 0,
      heading ++ (if shown then out else "") ++ verdict (code == 0) ++ gate.label fix ++ "\n" ++
        (if needsHint then hint else ""),
      if shown then err else "", call⟩

structure Settings where
  fix : Bool
  verbose : Bool
  fast : Bool
  skip : List String
  only : List String
deriving DecidableEq, Repr

def Settings.selects (settings : Settings) (gate : Gate) : Bool :=
  (settings.only.isEmpty || settings.only.contains gate.key) &&
    !settings.skip.contains gate.key

structure Report where
  passed : List String
  failed : List String
  skipped : List String
deriving DecidableEq, Repr

/-- Deals with one gate, of which `run` says whether it passes. -/
def Settings.visit {m : Type → Type} [Monad m] (settings : Settings) (run : Gate → m Bool)
    (report : Report) (gate : Gate) : m Report :=
  if settings.selects gate then do
    if ← run gate then return { report with passed := report.passed ++ [gate.key] }
    else return { report with failed := report.failed ++ [gate.key] }
  else return { report with skipped := report.skipped ++ [gate.key] }

def reportFrom {m : Type → Type} [Monad m] (settings : Settings) (run : Gate → m Bool)
    (gates : List Gate) : m Report :=
  gates.foldlM (settings.visit run) ⟨[], [], []⟩

def report (settings : Settings) (passes : Gate → Bool) (gates : List Gate) : Report :=
  Id.run (reportFrom settings (fun gate => pure (passes gate)) gates)

def reportLine (status : String) (keys : List String) : String :=
  if keys.isEmpty then "" else "[" ++ status ++ "] " ++ ", ".intercalate keys ++ "\n"

def Report.text (report : Report) : String :=
  "\n== summary ==\n" ++ reportLine "PASS" report.passed ++ reportLine "FAIL" report.failed ++
    reportLine "SKIP" report.skipped ++
    (if report.failed.isEmpty then "all selected gates passed\n" else "")

def Report.status (report : Report) : Nat :=
  if report.failed.isEmpty then 0 else 1

/-- A finished check: its report and the processes that have been started for it. -/
structure Check where
  report : Report
  runs : List GateRun
deriving DecidableEq, Repr

/-- Runs a gate in a process of its own. Processes are counted from the first one of the
check, and `outcomes` says how each of them ends. -/
def Gate.start (settings : Settings) (outcomes : Nat → Outcome) (gate : Gate) :
    StateM (List GateRun) Bool := do
  let runs ← get
  let run := gate.run settings.fix settings.verbose (outcomes runs.length)
  set (runs ++ [run])
  return run.passed

def runGates (settings : Settings) (outcomes : Nat → Outcome) (gates : List Gate) : Check :=
  let (report, runs) := (reportFrom settings (Gate.start settings outcomes) gates).run []
  ⟨report, runs⟩

def Check.stdout (check : Check) : String :=
  String.join (check.runs.map (·.stdout)) ++ check.report.text

def Check.stderr (check : Check) : String :=
  String.join (check.runs.map (·.stderr))

def Check.status (check : Check) : Nat :=
  check.report.status

inductive Key where
  | help
  | fix
  | verbose
  | fast
  | skip
  | only
deriving DecidableEq, Repr

def specs : List (Options.Spec Key) :=
  [⟨.help, ["-h", "--help"], .help, fun _ => true⟩,
   ⟨.fix, ["--fix", "--apply"], .flag, fun _ => true⟩,
   ⟨.verbose, ["--verbose", "-v"], .flag, fun _ => true⟩,
   ⟨.fast, ["--fast"], .flag, fun _ => true⟩,
   ⟨.skip, ["--skip"], .many, keys.contains⟩,
   ⟨.only, ["--only"], .many, keys.contains⟩]

def Settings.read (words : List String) : Except Options.Exit Settings :=
  (Options.read specs words).map fun found =>
    { fix := Options.isGiven .fix found
      verbose := Options.isGiven .verbose found
      fast := Options.isGiven .fast found
      skip := (Options.valuesOf .skip found).getD []
      only := (Options.valuesOf .only found).getD [] }

def main (words : List String) (outcomes : Nat → Outcome) : Except Options.Exit Check :=
  (Settings.read words).map fun settings =>
    runGates settings outcomes (gates settings.fast)

def Settings.runs (settings : Settings) : List (Gate × Bool × Bool) :=
  ((gates settings.fast).filter settings.selects).map fun gate =>
    (gate, settings.fix, settings.verbose)

end Microboard.Checks
