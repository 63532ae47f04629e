import Microboard.Proofs.Scroll.Frames
import Microboard.World.Board

/-!
# The sliding window

The frames of a text show its pattern through a window that moves on by one column from
frame to frame.  Nothing of the pattern is lost: it can be read back from the columns at
the left edge.
-/

namespace Microboard.Scroll

/-- One column of rows of cells; dark where a row is too short. -/
def column (rows : List (List Bool)) (index : Nat) : List Bool :=
  rows.map (·.getD index false)

/-- A frame moved to the left by one column, with a new column at the right edge. -/
def shifted (frame : Frame) (entering : List Bool) : Frame :=
  List.zipWith (fun cells lit => cells.tail ++ [lit]) frame entering

/-- The rows whose columns are the left edges of the frames. -/
def readBack (height : Nat) (frames : List Frame) : Pattern :=
  if frames = [] then []
  else (List.range height).map fun row => frames.map fun frame => (column frame 0).getD row false

def dark (width height : Nat) : Frame :=
  List.replicate height (List.replicate width false)

/-- How frames follow a pattern: there is one for each of its columns, the column stands at
the left edge, the next frame is the same picture moved on by one column, and the last
frames are dark. -/
structure Slides (pattern : Pattern) (width height : Nat) (frames : List Frame) : Prop where
  count : frames.length = columns pattern
  even : ∀ cells ∈ pattern, cells.length = columns pattern
  none : pattern = [] → frames = []
  fills : ∀ frame ∈ frames, Rectangle frame height width
  edge : ∀ (offset : Nat) (frame : Frame), frames[offset]? = some frame →
    column frame 0 = column (pattern.take height) offset
  readBack : readBack height frames = pattern.take height
  shifts : ∀ (offset : Nat) (frame next : Frame), frames[offset]? = some frame →
    frames[offset + 1]? = some next →
    next = shifted frame (column (pattern.take height) (offset + 1 + (width - 1)))
  enough : frames ≠ [] → trailingColumns ≤ frames.length
  ending : ∀ frame ∈ frames.drop (frames.length - trailingColumns), frame = dark width height

variable {pattern : Pattern} {width height offset : Nat}

theorem column_window (wide : 0 < width) (pattern : Pattern) (height offset : Nat) :
    column (window pattern width height offset) 0 = column (pattern.take height) offset := by
  rw [column, window, List.map_map, column]
  apply List.map_congr_left
  intro cells _
  obtain ⟨further, rfl⟩ := Nat.exists_eq_succ_of_ne_zero (Nat.ne_of_gt wide)
  simp only [Function.comp, List.range_succ_eq_map, List.map_cons, List.getD_cons_zero,
    Nat.add_zero]

theorem window_succ (wide : 0 < width) (pattern : Pattern) (height offset : Nat) :
    window pattern width height (offset + 1) =
      shifted (window pattern width height offset)
        (column (pattern.take height) (offset + 1 + (width - 1))) := by
  rw [shifted, window, window, column, List.zipWith_map, List.zipWith_self]
  apply List.map_congr_left
  intro cells _
  obtain ⟨further, rfl⟩ := Nat.exists_eq_succ_of_ne_zero (Nat.ne_of_gt wide)
  have kept :
      ((List.range (further + 1)).map fun column => cells.getD (offset + column) false).tail =
        (List.range further).map fun column => cells.getD (offset + 1 + column) false := by
    rw [List.range_succ_eq_map, List.map_cons, List.tail_cons, List.map_map]
    apply List.map_congr_left
    intro column _
    simp only [Function.comp, Nat.succ_eq_add_one, Nat.add_assoc, Nat.add_comm 1]
  rw [kept, List.range_succ, List.map_append, List.map_singleton, Nat.succ_eq_add_one,
    Nat.add_sub_cancel]

/-- A window that begins in the trailing columns shows nothing. -/
theorem window_behind {shown : Nat} (low : height ≤ pattern.length)
    (trailing : ∀ cells ∈ pattern, ∀ column, shown ≤ column → cells.getD column false = false)
    (behind : shown ≤ offset) : window pattern width height offset = dark width height := by
  have blank : ∀ cells ∈ pattern.take height,
      ((List.range width).map fun column => cells.getD (offset + column) false) =
        List.replicate width false := by
    intro cells member
    apply List.eq_replicate_iff.mpr
    refine ⟨by rw [List.length_map, List.length_range], ?_⟩
    intro cell among
    obtain ⟨column, -, rfl⟩ := List.mem_map.mp among
    exact trailing cells (List.mem_of_mem_take member) _ (Nat.le_add_right_of_le behind)
  apply List.eq_replicate_iff.mpr
  refine ⟨by rw [window, List.length_map, List.length_take, Nat.min_eq_left low], ?_⟩
  intro row member
  obtain ⟨cells, taken, rfl⟩ := List.mem_map.mp member
  exact blank cells taken

theorem getD_trailing {shown : List Bool} {column : Nat} (behind : shown.length ≤ column) :
    (shown ++ List.replicate trailingColumns false).getD column false = false := by
  rw [List.getD_eq_getElem?_getD, List.getElem?_append_right behind, List.getElem?_replicate]
  split <;> rfl

theorem readBack_windows (wide : 0 < width) (low : height ≤ pattern.length)
    (even : ∀ cells ∈ pattern, cells.length = columns pattern) (some : columns pattern ≠ 0) :
    readBack height ((List.range (columns pattern)).map (window pattern width height)) =
      pattern.take height := by
  have frames : (List.range (columns pattern)).map (window pattern width height) ≠ [] := by
    simpa using some
  have lines : ∀ row ∈ List.range height,
      ((List.range (columns pattern)).map fun offset =>
        (column (pattern.take height) offset).getD row false) = pattern.getD row [] := by
    intro row member
    have below : row < height := List.mem_range.mp member
    have inside : row < pattern.length := Nat.lt_of_lt_of_le below low
    have long := even _ (List.getElem_mem inside)
    have read := map_getD_range (Nat.le_of_eq long.symm) false
    rw [List.take_of_length_le (Nat.le_of_eq long)] at read
    simpa [column, List.getD_eq_getElem?_getD, List.getElem?_take, below,
      List.getElem?_eq_getElem inside] using read
  rw [readBack, if_neg frames, ← map_getD_range low ([] : List Bool)]
  apply List.map_congr_left
  intro row member
  rw [List.map_map, ← lines row member]
  apply List.map_congr_left
  intro offset _
  rw [Function.comp, column_window wide]

theorem getElem?_windows {frame : Frame} {total : Nat}
    (found : ((List.range total).map (window pattern width height))[offset]? = some frame) :
    frame = window pattern width height offset := by
  rw [List.getElem?_map] at found
  obtain ⟨same, counted, rfl⟩ := Option.map_eq_some_iff.mp found
  obtain ⟨inside, place⟩ := List.getElem?_eq_some_iff.mp counted
  rw [← place, List.getElem_range]

theorem slides_nothing (width height : Nat) : Slides [] width height [] where
  count := rfl
  even _ member := absurd member List.not_mem_nil
  none _ := rfl
  fills _ member := absurd member List.not_mem_nil
  edge _ _ found := absurd found (by simp)
  readBack := List.take_nil.symm
  shifts _ _ _ found := absurd found (by simp)
  enough some := absurd rfl some
  ending _ member := absurd member List.not_mem_nil

/-- The windows of what can be scrolled slide over it. -/
theorem Scrollable.slides (scrollable : Scrollable pattern) (wide : 0 < width)
    (low : height ≤ Glyph.height) :
    Slides pattern width height
      ((List.range (columns pattern)).map (window pattern width height)) := by
  have fills : ∀ frame ∈ (List.range (columns pattern)).map (window pattern width height),
      Rectangle frame height width := fun frame => scrollable.fills low
  cases scrollable with
  | nothing => exact slides_nothing width height
  | @rows pattern shown shape trailing =>
      have inside : height ≤ pattern.length := shape.height ▸ low
      have total : columns pattern = shown + trailingColumns := shape.columns_eq (by decide)
      have even : ∀ cells ∈ pattern, cells.length = columns pattern :=
        fun cells member => (shape.width cells member).trans total.symm
      have blank : ∀ cells ∈ pattern, ∀ column, shown ≤ column →
          cells.getD column false = false := by
        intro cells member column behind
        obtain ⟨visible, rfl⟩ := trailing cells member
        have long := shape.width _ member
        rw [List.length_append, List.length_replicate, Nat.add_right_cancel_iff] at long
        exact getD_trailing (long ▸ behind)
      constructor
      case count => rw [List.length_map, List.length_range]
      case even => exact even
      case none =>
        rintro rfl
        cases shape.height
      case fills => exact fills
      case edge =>
        intro offset frame found
        rw [getElem?_windows found, column_window wide]
      case readBack =>
        apply readBack_windows wide inside even
        rw [total]
        exact Nat.ne_of_gt (Nat.lt_add_left shown (by decide))
      case shifts =>
        intro offset frame next found after
        rw [getElem?_windows found, getElem?_windows after, window_succ wide]
      case enough =>
        intro _
        rw [List.length_map, List.length_range, total]
        exact Nat.le_add_left _ _
      case ending =>
        intro frame member
        obtain ⟨index, found⟩ := List.mem_iff_getElem?.mp member
        rw [List.getElem?_drop, List.length_map, List.length_range, total] at found
        rw [getElem?_windows found]
        exact window_behind inside blank (by omega)

/-- On well-shaped pictures every text has frames, and they slide over its pattern. -/
theorem framesOf_slides (world : World) (target : Ref .scroller) (text : String)
    (shaped : ∀ char glyph, (world.scrollers.get target).glyphs.find? char = some glyph →
      glyph.WellShaped)
    (wide : 1 ≤ (world.scrollers.get target).width)
    (low : (world.scrollers.get target).height ≤ Glyph.height) :
    ∃ pattern frames,
      pattern? (world.scrollers.get target).glyphs text.toList = some pattern ∧
        world.framesOf target text = .ok frames ∧
        Slides pattern (world.scrollers.get target).width.toNat
          (world.scrollers.get target).height.toNat frames := by
  obtain ⟨pattern, laid, scrollable⟩ := pattern?_scrollable shaped text.toList
  have across : 0 < (world.scrollers.get target).width.toNat := by omega
  have down : (world.scrollers.get target).height.toNat ≤ Glyph.height := by omega
  refine ⟨pattern, _, laid, ?_, scrollable.slides across down⟩
  rw [World.framesOf, frames?, laid, Option.bind_some, scrollable.windows?_eq down]

/-- A world with one scroller on the font, whose window is wider than the text. -/
def panorama : World :=
  ((World.initial false .empty).newScroller
    ⟨.panel "wide", .simulated, 7, 3, Glyph.font⟩).1

theorem framesOf_slides_panorama :
    (∀ char glyph, (panorama.scrollers.get ⟨0⟩).glyphs.find? char = some glyph →
      glyph.WellShaped) ∧
    1 ≤ (panorama.scrollers.get ⟨0⟩).width ∧
    (panorama.scrollers.get ⟨0⟩).height ≤ Glyph.height ∧
    ∃ pattern frames,
      pattern? (panorama.scrollers.get ⟨0⟩).glyphs "!".toList = some pattern ∧
        panorama.framesOf ⟨0⟩ "!" = .ok frames ∧
        Slides pattern (panorama.scrollers.get ⟨0⟩).width.toNat
          (panorama.scrollers.get ⟨0⟩).height.toNat frames ∧
        frames.length = 6 := by
  have shaped : ∀ char glyph, (panorama.scrollers.get ⟨0⟩).glyphs.find? char = some glyph →
      glyph.WellShaped := fun _ _ => Glyph.wellShaped_of_find?
  refine ⟨shaped, by decide, by decide, ?_⟩
  obtain ⟨pattern, frames, laid, shown, slides⟩ :=
    framesOf_slides panorama ⟨0⟩ "!" shaped (by decide) (by decide)
  refine ⟨pattern, frames, laid, shown, slides, ?_⟩
  cases laid
  exact slides.count

end Microboard.Scroll
