import Microboard.Blink
import Microboard.Checks.Run

/-!
# Command line

`blink` runs the demonstration and prints every event of the board; `checks` prints
the commands that a run of the quality gates consists of. What is printed is decided
by plain functions, and only the last step prints it.
-/

namespace Microboard.CommandLine

/-- What a program prints and the status it ends with. -/
structure Printout where
  lines : List String
  status : Nat
deriving DecidableEq, Repr

def usage : List String :=
  ["usage: microboard blink [--seconds SECONDS] [--period MS] [--text TEXT]",
   "       microboard checks [--fix] [--verbose] [--fast] [--skip GATE ...] [--only GATE ...]"]

/-- The usage, when a command line ends a program before it has begun. -/
def refuse (exit : Options.Exit) : Printout :=
  ⟨usage, exit.status⟩

def blink (words : List String) : Printout :=
  match Blink.Settings.read words with
  | .ok settings => ⟨(Blink.run settings).printed, 0⟩
  | .error exit => refuse exit

/-- The commands of the selected gates, each under the title of its gate. -/
def checks (words : List String) : Printout :=
  match Checks.Settings.read words with
  | .ok settings =>
    ⟨settings.runs.flatMap fun (gate, fix, _) =>
      ["== " ++ gate.label fix ++ " ==", "$ " ++ " ".intercalate (gate.chosen fix)], 0⟩
  | .error exit => refuse exit

def run : List String → Printout
  | "blink" :: words => blink words
  | "checks" :: words => checks words
  | _ => refuse .usage

end Microboard.CommandLine

def main (args : List String) : IO UInt32 := do
  let printout := Microboard.CommandLine.run args
  for line in printout.lines do
    IO.println line
  return printout.status.toUInt32
