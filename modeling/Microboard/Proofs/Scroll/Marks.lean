import Microboard.Proofs.Hardware.Shape
import Microboard.Proofs.Scroll.Frames

/-!
# Marks

Strokes taken apart into single cells.  Whatever a display shows at first, and whatever
it is made to show while the text pauses, the marks of a text show its frames at the
pauses and leave the display dark.
-/

namespace Microboard.Scroll

/-- One thing that is done to a single cell, or a pause. -/
inductive Mark where
  | paint (x y : Nat) (lit : Bool)
  | pause
deriving DecidableEq

def cells (width height : Nat) : List (Nat × Nat) :=
  (List.range width).flatMap fun x => (List.range height).map fun y => (x, y)

def darken (places : List (Nat × Nat)) : List Mark :=
  places.map fun place => .paint place.1 place.2 false

/-- The marks of one stroke on a display of five by five cells. -/
def Stroke.marks : Stroke → List Mark
  | .clear => darken (cells Glyph.height Glyph.height)
  | .plot x y => [.paint x y true]
  | .pause => [.pause]

def marks (strokes : List Stroke) : List Mark :=
  strokes.flatMap Stroke.marks

abbrev Picture := Nat → Nat → Bool

namespace Picture

def paint (picture : Picture) (x y : Nat) (lit : Bool) : Picture :=
  fun column row => if column = x ∧ row = y then lit else picture column row

def Shows (picture : Picture) (frame : Frame) : Prop :=
  ∀ x y, x < Glyph.height → y < Glyph.height →
    (frame[y]?).bind (·[x]?) = some (picture x y)

def Dark (picture : Picture) : Prop :=
  ∀ x y, x < Glyph.height → y < Glyph.height → picture x y = false

def paintAll (picture : Picture) (places : List (Nat × Nat)) (lit : Bool) : Picture :=
  places.foldl (fun picture place => picture.paint place.1 place.2 lit) picture

theorem paintAll_apply (picture : Picture) (places : List (Nat × Nat)) (lit : Bool)
    (column row : Nat) :
    picture.paintAll places lit column row =
      if (column, row) ∈ places then lit else picture column row := by
  induction places generalizing picture with
  | nil => simp [paintAll]
  | cons place rest induction =>
      have first : picture.paintAll (place :: rest) lit =
          (picture.paint place.1 place.2 lit).paintAll rest lit := rfl
      rw [first, induction]
      by_cases later : (column, row) ∈ rest
      · simp [later]
      · obtain ⟨x, y⟩ := place
        by_cases same : column = x ∧ row = y
        · simp [paint, same]
        · simp [later, paint, same]

end Picture

/-- From what a display shows, marks show frames at their pauses, whatever happens
during a pause, and leave the display dark. -/
def Aims : List Mark → Picture → List Frame → Prop
  | [], picture, frames => frames = [] ∧ picture.Dark
  | .paint x y lit :: rest, picture, frames => Aims rest (picture.paint x y lit) frames
  | .pause :: rest, picture, frames =>
    ∃ frame later, frames = frame :: later ∧ picture.Shows frame ∧
      ∀ other, Aims rest other later

variable {picture : Picture} {rest : List Mark} {frames : List Frame}

theorem mem_cells {width height x y : Nat} :
    (x, y) ∈ cells width height ↔ x < width ∧ y < height := by
  simp [cells]

def litCells (frame : Frame) : List (Nat × Nat) :=
  frame.zipIdx.flatMap fun row =>
    (row.1.zipIdx.filter (·.1)).map fun cell => (cell.2, row.2)

theorem mem_litCells {frame : Frame} {x y : Nat} :
    (x, y) ∈ litCells frame ↔ (frame[y]?).bind (·[x]?) = some true := by
  simp only [litCells, List.mem_flatMap, List.mem_map, List.mem_filter, Prod.mk.injEq,
    Prod.exists, List.mem_zipIdx_iff_getElem?]
  constructor
  · rintro ⟨row, _, found, lit, _, ⟨cell, rfl⟩, rfl, rfl⟩
    simp [found, cell]
  · intro lit
    obtain ⟨row, found, cell⟩ := Option.bind_eq_some_iff.mp lit
    exact ⟨row, y, found, true, x, ⟨cell, rfl⟩, rfl, rfl⟩

theorem plots_eq (frame : Frame) :
    plots frame = (litCells frame).map fun place => .plot place.1 place.2 := by
  simp [plots, litCells, rowStrokes, List.map_flatMap, Function.comp_def]

theorem marks_plots (frame : Frame) :
    marks (plots frame) = (litCells frame).map fun place => .paint place.1 place.2 true := by
  rw [plots_eq, marks, List.flatMap_map, List.map_eq_flatMap]
  rfl

theorem aims_paintAll (places : List (Nat × Nat)) (lit : Bool) :
    Aims (places.map (fun place => .paint place.1 place.2 lit) ++ rest) picture frames ↔
      Aims rest (picture.paintAll places lit) frames := by
  induction places generalizing picture with
  | nil => rfl
  | cons place others induction => exact induction

theorem aims_clear :
    Aims (marks [.clear] ++ rest) picture frames ↔
      Aims rest (picture.paintAll (cells Glyph.height Glyph.height) false) frames := by
  rw [marks, List.flatMap_singleton]
  exact aims_paintAll _ false

theorem dark_cleared (picture : Picture) :
    (picture.paintAll (cells Glyph.height Glyph.height) false).Dark := by
  intro x y column row
  rw [Picture.paintAll_apply, if_pos (mem_cells.mpr ⟨column, row⟩)]

/-- Drawing a frame on a dark display shows it. -/
theorem shows_drawn {frame : Frame} (fills : Rectangle frame Glyph.height Glyph.height)
    (dark : picture.Dark) : (picture.paintAll (litCells frame) true).Shows frame := by
  intro x y column row
  obtain ⟨lit, found⟩ := fills.cell row column
  rw [found, Picture.paintAll_apply]
  cases lit with
  | true => rw [if_pos (mem_litCells.mpr found)]
  | false =>
      rw [if_neg fun member => ?_, dark x y column row]
      rw [mem_litCells.mp member] at found
      cases found

/-- What a display shows after the strokes of one frame. -/
def drawn (picture : Picture) (frame : Frame) : Picture :=
  (picture.paintAll (cells Glyph.height Glyph.height) false).paintAll (litCells frame) true

theorem aims_frameStrokes (frame : Frame) :
    Aims (marks (frameStrokes frame) ++ rest) picture frames ↔
      Aims rest (drawn picture frame) frames := by
  have split : marks (frameStrokes frame) = marks [.clear] ++ marks (plots frame) := rfl
  rw [split, List.append_assoc, aims_clear, marks_plots]
  exact aims_paintAll _ true

/-- The strokes of a text show all frames but the last at its pauses, and leave the
display dark. -/
theorem aims_strokes {frames : List Frame}
    (fill : ∀ frame ∈ frames, Rectangle frame Glyph.height Glyph.height) (picture : Picture) :
    Aims (marks (strokes frames)) picture frames.dropLast := by
  induction frames generalizing picture with
  | nil =>
      rw [← List.append_nil (marks _)]
      exact aims_clear.mpr ⟨rfl, dark_cleared picture⟩
  | cons frame rest induction =>
      cases rest with
      | nil =>
          have split : marks (strokes [frame]) =
              marks (frameStrokes frame) ++ (marks [.clear] ++ []) := by
            simp [marks, strokes]
          rw [split, aims_frameStrokes, aims_clear]
          exact ⟨rfl, dark_cleared _⟩
      | cons next rest =>
          have split : marks (strokes (frame :: next :: rest)) =
              marks (frameStrokes frame) ++ .pause :: marks (strokes (next :: rest)) := by
            simp [marks, strokes, Stroke.marks]
          rw [split, aims_frameStrokes]
          refine ⟨frame, (next :: rest).dropLast, rfl, ?_, ?_⟩
          · exact shows_drawn (fill frame List.mem_cons_self) (dark_cleared picture)
          · intro other
            exact induction (fun other member => fill other (List.mem_cons_of_mem _ member)) other

def Bounded (todo : List Mark) : Prop :=
  ∀ x y lit, .paint x y lit ∈ todo → x < Glyph.height ∧ y < Glyph.height

theorem Bounded.append {first second : List Mark} (left : Bounded first)
    (right : Bounded second) : Bounded (first ++ second) := by
  intro x y lit member
  exact (List.mem_append.mp member).elim (left x y lit) (right x y lit)

theorem bounded_paints {places : List (Nat × Nat)} (lit : Bool)
    (inside : ∀ place ∈ places, place.1 < Glyph.height ∧ place.2 < Glyph.height) :
    Bounded (places.map fun place => .paint place.1 place.2 lit) := by
  intro x y _ member
  obtain ⟨place, given, same⟩ := List.mem_map.mp member
  cases same
  exact inside place given

theorem bounded_clear : Bounded (marks [.clear]) := by
  rw [marks, List.flatMap_singleton]
  exact bounded_paints false fun _ member => mem_cells.mp member

theorem bounded_frameStrokes {frame : Frame} (fills : Rectangle frame Glyph.height Glyph.height) :
    Bounded (marks (frameStrokes frame)) := by
  refine bounded_clear.append (show Bounded (marks (plots frame)) from ?_)
  rw [marks_plots]
  apply bounded_paints true
  intro place member
  obtain ⟨row, found, cell⟩ := Option.bind_eq_some_iff.mp (mem_litCells.mp member)
  have below := (List.getElem?_eq_some_iff.mp found).1
  have inside := (List.getElem?_eq_some_iff.mp cell).1
  rw [fills.height] at below
  rw [fills.width row (List.mem_of_getElem? found)] at inside
  exact ⟨inside, below⟩

theorem bounded_strokes {frames : List Frame}
    (fill : ∀ frame ∈ frames, Rectangle frame Glyph.height Glyph.height) :
    Bounded (marks (strokes frames)) := by
  induction frames with
  | nil => exact bounded_clear
  | cons frame rest induction =>
      have first := bounded_frameStrokes (fill frame List.mem_cons_self)
      cases rest with
      | nil =>
          rw [strokes, marks, List.flatMap_append]
          exact first.append bounded_clear
      | cons next rest =>
          have others := induction fun other member => fill other (List.mem_cons_of_mem _ member)
          rw [strokes, marks, List.flatMap_append]
          apply first.append
          intro x y lit member
          rcases List.mem_cons.mp member with pause | later
          · cases pause
          · exact others x y lit later

end Microboard.Scroll
