import Microboard.Proofs.Scroll.Layout
import Microboard.Scroll.Stroke

/-!
# The frames of a text

The pattern of a text is empty, or it is a rectangle that ends in dark columns.  No window
reaches outside of it, so the frames are its windows, one for each column; on the font
each of them fills the display.
-/

namespace Microboard.Scroll

/-- What can be scrolled: nothing at all, or rows of one length that end in dark columns. -/
inductive Scrollable : Pattern → Prop where
  | nothing : Scrollable []
  | rows {pattern : Pattern} {width : Nat}
      (shape : Rectangle pattern Glyph.height (width + trailingColumns))
      (trailing : ∀ cells ∈ pattern, ∃ shown,
        cells = shown ++ List.replicate trailingColumns false) :
      Scrollable pattern

/-- What a display shows of a pattern from a column on; behind the last it is dark. -/
def window (pattern : Pattern) (width height offset : Nat) : Frame :=
  (pattern.take height).map fun cells =>
    (List.range width).map fun column => cells.getD (offset + column) false

variable {pattern : Pattern} {width height row : Nat}

theorem mapM_eq_map {α β : Type} {items : List α} {f : α → Option β} {g : α → β}
    (same : ∀ item ∈ items, f item = some (g item)) : items.mapM f = some (items.map g) := by
  induction items with
  | nil => rfl
  | cons item rest induction =>
      have others := induction fun other member => same other (List.mem_cons_of_mem _ member)
      simp [List.mapM_cons, same item List.mem_cons_self, others]

theorem map_getD_range {α : Type} {items : List α} {count : Nat} (inside : count ≤ items.length)
    (default : α) : (List.range count).map (items.getD · default) = items.take count := by
  apply List.ext_getElem
  · rw [List.length_map, List.length_range, List.length_take, Nat.min_eq_left inside]
  · intro index left right
    have below : index < items.length := by
      rw [List.length_take] at right
      omega
    rw [List.getElem_map, List.getElem_range, List.getElem_take, List.getD_eq_getElem?_getD,
      List.getElem?_eq_getElem below, Option.getD_some]

theorem Rectangle.columns_eq (rectangle : Rectangle pattern height width) (some : 0 < height) :
    columns pattern = width := by
  cases pattern with
  | nil => exact absurd rectangle.height (Nat.ne_of_lt some)
  | cons first rest => exact rectangle.width first List.mem_cons_self

theorem Rectangle.cell?_eq (rectangle : Rectangle pattern height width) (below : row < height)
    (column : Nat) :
    cell? pattern row column = some ((pattern.getD row []).getD column false) := by
  have inside : row < pattern.length := rectangle.height ▸ below
  have cells : pattern.getD row [] = pattern[row] := by
    rw [List.getD_eq_getElem?_getD, List.getElem?_eq_getElem inside, Option.getD_some]
  have long : pattern[row].length = columns pattern :=
    (rectangle.width _ (List.getElem_mem inside)).trans
      (rectangle.columns_eq (Nat.zero_lt_of_lt below)).symm
  unfold cell?
  rw [cells, List.getElem?_eq_getElem inside, Option.bind_some, List.getD_eq_getElem?_getD]
  split
  next behind =>
    rw [List.getElem?_eq_none (long ▸ behind)]
    rfl
  next visible =>
    rw [List.getElem?_eq_getElem (long ▸ Nat.lt_of_not_le visible), Option.getD_some]

theorem Rectangle.window?_eq {tall : Nat} (rectangle : Rectangle pattern tall width)
    (low : height ≤ tall) (across offset : Nat) :
    window? pattern across height offset = some (window pattern across height offset) := by
  have rows : ∀ row ∈ List.range height,
      (List.range across).mapM (fun column => cell? pattern row (offset + column)) =
        some ((List.range across).map fun column =>
          (pattern.getD row []).getD (offset + column) false) := by
    intro row member
    apply mapM_eq_map
    intro column _
    exact rectangle.cell?_eq (Nat.lt_of_lt_of_le (List.mem_range.mp member) low) _
  have taken := map_getD_range (rectangle.height ▸ low) ([] : List Bool)
  rw [window?, mapM_eq_map rows, window, ← taken, List.map_map]
  rfl

/-- The frames of what can be scrolled are its windows. -/
theorem Scrollable.windows?_eq (scrollable : Scrollable pattern) (low : height ≤ Glyph.height)
    (width : Nat) :
    windows? pattern width height =
      some ((List.range (columns pattern)).map (window pattern width height)) := by
  cases scrollable with
  | nothing => rfl
  | rows shape trailing =>
      apply mapM_eq_map
      intro offset _
      exact shape.window?_eq low width offset

/-- The pattern of every text can be scrolled, if the pictures are well-shaped. -/
theorem pattern?_scrollable {map : GlyphMap}
    (shaped : ∀ char glyph, map.find? char = some glyph → glyph.WellShaped)
    (text : List Char) : ∃ pattern, pattern? map text = some pattern ∧ Scrollable pattern := by
  have rectangles : ∀ glyph ∈ pictures map text, Rectangle glyph Glyph.height glyph.width :=
    fun _ => rectangle_of_mem_pictures shaped
  refine ⟨_, pattern?_eq rectangles, ?_⟩
  split
  · exact .nothing
  · apply Scrollable.rows (lines_sideBySide rectangles).shape
    intro cells member
    obtain ⟨row, -, rfl⟩ := List.mem_map.mp member
    exact ⟨_, rfl⟩

theorem Scrollable.fills (scrollable : Scrollable pattern) (low : height ≤ Glyph.height)
    {frame : Frame}
    (shown : frame ∈ (List.range (columns pattern)).map (window pattern width height)) :
    Rectangle frame height width := by
  obtain ⟨offset, -, rfl⟩ := List.mem_map.mp shown
  cases scrollable with
  | nothing => cases shown
  | rows shape trailing =>
      constructor
      · rw [window, List.length_map, List.length_take, shape.height, Nat.min_eq_left low]
      · intro cells member
        obtain ⟨row, -, rfl⟩ := List.mem_map.mp member
        rw [List.length_map, List.length_range]

theorem mapM_eq_none {α β : Type} {items : List α} {item : α} {f : α → Option β}
    (member : item ∈ items) (missing : f item = none) : items.mapM f = none := by
  induction items with
  | nil => cases member
  | cons first rest induction =>
      rcases List.mem_cons.mp member with rfl | behind
      · simp [List.mapM_cons, missing]
      · simp [List.mapM_cons, induction behind]

/-- A window that is taller than the pattern has a cell that the pattern does not have. -/
theorem windows?_too_tall (wide : 0 < width) (tall : pattern.length < height)
    (some : 0 < columns pattern) : windows? pattern width height = none := by
  have missing : cell? pattern pattern.length (0 + 0) = none := by
    rw [cell?, if_neg (Nat.not_le_of_gt some), List.getElem?_eq_none (Nat.le_refl _)]
    rfl
  have line : (List.range width).mapM (fun column => cell? pattern pattern.length (0 + column)) =
      none := mapM_eq_none (List.mem_range.mpr wide) missing
  have first : window? pattern width height 0 = none :=
    mapM_eq_none (List.mem_range.mpr tall) line
  exact mapM_eq_none (List.mem_range.mpr some) first

theorem windows?_narrow (pattern : Pattern) (height : Nat) :
    ∃ frames, windows? pattern 0 height = some frames := by
  refine ⟨_, mapM_eq_map (g := fun _ => (List.range height).map fun _ => []) ?_⟩
  intro offset _
  apply mapM_eq_map
  intro row _
  rfl

/-- On well-shaped pictures no cell is missing but where the window itself is too tall. -/
theorem frames?_some_iff {map : GlyphMap}
    (shaped : ∀ char glyph, map.find? char = some glyph → glyph.WellShaped) (width height : Nat)
    (text : List Char) :
    (∃ frames, frames? map width height text = some frames) ↔
      height ≤ Glyph.height ∨ width = 0 ∨ pictures map text = [] := by
  have rectangles : ∀ glyph ∈ pictures map text, Rectangle glyph Glyph.height glyph.width :=
    fun _ => rectangle_of_mem_pictures shaped
  obtain ⟨pattern, laid, scrollable⟩ := pattern?_scrollable shaped text
  have windows : frames? map width height text = windows? pattern width height := by
    rw [frames?, laid, Option.bind_some]
  have drawn := (pattern?_eq rectangles).symm.trans laid
  rw [windows]
  constructor
  · rintro ⟨frames, found⟩
    by_cases none : pictures map text = []
    · exact .inr (.inr none)
    · rw [if_neg none, Option.some.injEq] at drawn
      have shape := (lines_sideBySide rectangles).shape
      rw [drawn] at shape
      have some : 0 < columns pattern := by
        rw [shape.columns_eq (by decide)]
        exact Nat.add_pos_right _ (by decide)
      by_cases tall : pattern.length < height
      · rcases Nat.eq_zero_or_pos width with narrow | wide
        · exact .inr (.inl narrow)
        · rw [windows?_too_tall wide tall some] at found
          cases found
      · exact .inl (shape.height ▸ Nat.le_of_not_lt tall)
  · rintro (low | rfl | none)
    · exact ⟨_, scrollable.windows?_eq low width⟩
    · exact windows?_narrow pattern height
    · rw [if_pos none, Option.some.injEq] at drawn
      exact ⟨[], drawn ▸ rfl⟩

/-- Every text has frames on the font, and each of them fills the display. -/
theorem frames?_font (text : List Char) :
    ∃ frames, frames? Glyph.font Glyph.height Glyph.height text = some frames ∧
      ∀ frame ∈ frames, Rectangle frame Glyph.height Glyph.height := by
  obtain ⟨pattern, found, scrollable⟩ :=
    pattern?_scrollable (fun _ _ => Glyph.wellShaped_of_find?) text
  have low := Nat.le_refl Glyph.height
  refine ⟨_, ?_, fun frame => scrollable.fills low⟩
  rw [frames?, found, Option.bind_some, scrollable.windows?_eq low]

end Microboard.Scroll
