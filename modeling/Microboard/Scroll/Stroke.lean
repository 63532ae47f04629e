import Microboard.Scroll.Frame

/-!
# Strokes

What a scrolling text does to the display, as a list: each frame clears the
display and lights its cells, a pause stands between frames, and the display is
cleared at the end.
-/

namespace Microboard.Scroll

/-- One thing that is done to a display. -/
inductive Stroke where
  | clear
  | plot (x y : Nat)
  | pause
deriving DecidableEq, Repr

def rowStrokes (y : Nat) (cells : List Bool) : List Stroke :=
  (cells.zipIdx.filter (·.1)).map fun cell => .plot cell.2 y

def plots (frame : Frame) : List Stroke :=
  frame.zipIdx.flatMap fun row => rowStrokes row.2 row.1

def frameStrokes (frame : Frame) : List Stroke :=
  .clear :: plots frame

/-- Draws the frames with pauses between them and clears the display. -/
def strokes : List Frame → List Stroke
  | [] => [.clear]
  | [frame] => frameStrokes frame ++ [.clear]
  | frame :: next :: rest => frameStrokes frame ++ .pause :: strokes (next :: rest)

end Microboard.Scroll
