import Microboard.Proofs.Machine.Subscribers
import Microboard.Proofs.Scroll.Drawing

/-!
# The score of a text

What a call that shows a text is seen to do: for each frame the matrix is swept and the
lit cells are told, between frames it sleeps, and at the end the matrix is swept again.
-/

namespace Microboard.Machine

open Scroll World

variable {machine : Machine} {owner : Option TaskId} {bus : Ref .bus} {interval : Value}

/-- What a call that draws is seen to do. -/
inductive Drawn where
  | tells (bus : Ref .bus) (event : Option Event)
  | sleeps (interval : Value)

def Drawn.isSleep : Drawn → Bool
  | .tells .. => false
  | .sleeps _ => true

/-- What a state shows of a call that draws. -/
def drawn? (owner : Option TaskId) (depth : Nat) (machine : Machine) : Option Drawn :=
  match machine.acts owner depth with
  | some (.publish bus (.event event _)) => some (.tells bus (some event))
  | some (.publish bus _) => some (.tells bus none)
  | some (.sleep interval) => some (.sleeps interval)
  | _ => none

def seen (bus : Ref .bus) (interval : Value) : Mark → Drawn
  | .paint x y lit => .tells bus (some (cellEvent x y lit))
  | .pause => .sleeps interval

theorem drawn?_of_within {thread : Thread} {frame : Frame} {focus : Focus} {depth : Nat}
    (busy : machine.control = .busy thread (.within frame focus)) :
    machine.drawn? owner depth = none := by
  unfold drawn? acts
  rw [busy]
  by_cases own : thread.owner = owner ∧ unserved depth thread.stack = true <;> simp [own]

theorem drawn?_of_none {depth : Nat} (idle : machine.acts owner depth = none) :
    machine.drawn? owner depth = none := by
  simp [drawn?, idle]

def sweepScore (bus : Ref .bus) : List Drawn :=
  (cells Glyph.height Glyph.height).map fun place =>
    .tells bus (some (cellEvent place.1 place.2 false))

def frameScore (bus : Ref .bus) (frame : Scroll.Frame) : List Drawn :=
  sweepScore bus ++ (litCells frame).map fun place =>
    .tells bus (some (cellEvent place.1 place.2 true))

/-- All that is done to show frames. -/
def score (bus : Ref .bus) (interval : Value) : List Scroll.Frame → List Drawn
  | [] => sweepScore bus
  | [frame] => frameScore bus frame ++ sweepScore bus
  | frame :: next :: rest =>
    frameScore bus frame ++ .sleeps interval :: score bus interval (next :: rest)

theorem seen_clear : (marks [.clear]).map (seen bus interval) = sweepScore bus := by
  simp [marks, Stroke.marks, darken, sweepScore, seen, Function.comp_def]

theorem seen_frameStrokes (frame : Scroll.Frame) :
    (marks (frameStrokes frame)).map (seen bus interval) = frameScore bus frame := by
  have split : marks (frameStrokes frame) = marks [.clear] ++ marks (plots frame) := rfl
  rw [split, List.map_append, seen_clear, marks_plots, List.map_map]
  rfl

theorem seen_strokes (frames : List Scroll.Frame) :
    (marks (strokes frames)).map (seen bus interval) = score bus interval frames := by
  induction frames with
  | nil => exact seen_clear
  | cons frame rest induction =>
      cases rest with
      | nil =>
          rw [strokes, marks, List.flatMap_append, List.map_append]
          exact congrArg₂ _ (seen_frameStrokes frame) seen_clear
      | cons next rest =>
          rw [strokes, marks, List.flatMap_append, List.map_append]
          exact congrArg₂ _ (seen_frameStrokes frame) (congrArg (_ :: ·) induction)

/-- Between any two frames there is one sleep. -/
theorem sleeps_score (frames : List Scroll.Frame) :
    (score bus interval frames).countP Drawn.isSleep = frames.length - 1 := by
  have sweeps : (sweepScore bus).countP Drawn.isSleep = 0 := by
    simp [sweepScore, List.countP_eq_zero, Drawn.isSleep]
  have draws (frame : Scroll.Frame) : (frameScore bus frame).countP Drawn.isSleep = 0 := by
    rw [frameScore, List.countP_append, sweeps]
    simp [List.countP_eq_zero, Drawn.isSleep]
  induction frames with
  | nil => exact sweeps
  | cons frame rest induction =>
      cases rest with
      | nil => rw [score, List.countP_append, draws, sweeps]; rfl
      | cons next rest =>
          rw [score, List.countP_append, draws, List.countP_cons, induction]
          simp [Drawn.isSleep]

end Microboard.Machine
