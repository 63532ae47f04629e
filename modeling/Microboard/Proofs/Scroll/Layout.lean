import Microboard.Proofs.Glyph.Drawing
import Microboard.Scroll.Pattern

/-!
# The layout of a pattern

Each row of a pattern is one line through the pictures of the text, with a dark cell
between neighbours. The lines give the pattern in closed form, and where a picture
stands follows from the widths of those before it.
-/

namespace Microboard.Scroll

/-- Rows of one length. -/
structure Rectangle (rows : List (List Bool)) (height width : Nat) : Prop where
  height : rows.length = height
  width : ∀ row ∈ rows, row.length = width

theorem Rectangle.cell {rows : Pattern} {height width row column : Nat}
    (rectangle : Rectangle rows height width) (below : row < height)
    (inside : column < width) :
    ∃ lit, (rows[row]?).bind (·[column]?) = some lit := by
  have shorter : row < rows.length := by rw [rectangle.height]; exact below
  have found := List.getElem?_eq_getElem shorter
  have length := rectangle.width _ (List.getElem_mem shorter)
  have within : column < rows[row].length := by rw [length]; exact inside
  refine ⟨rows[row][column], ?_⟩
  rw [found, Option.bind_some, List.getElem?_eq_getElem]

/-- One row of the pictures, side by side with a dark cell between neighbours. -/
def line (row : Nat) : List Glyph → List Bool
  | [] => []
  | [glyph] => glyph.getD row []
  | glyph :: next :: rest => glyph.getD row [] ++ false :: line row (next :: rest)

/-- The pattern of the pictures, line by line. -/
def lines (glyphs : List Glyph) : Pattern :=
  (List.range Glyph.height).map fun row =>
    line row glyphs ++ List.replicate trailingColumns false

/-- Columns of the pictures and of the dark ones between them. -/
def breadth (glyphs : List Glyph) : Nat :=
  glyphs.foldr (fun glyph total => glyph.width + total) 0 + (glyphs.length - 1)

/-- The column at which a picture starts: behind those before it, each of which has
one dark column after it. -/
def start (glyphs : List Glyph) (index : Nat) : Nat :=
  (glyphs.take index).foldr (fun glyph total => glyph.width + 1 + total) 0

/-- Some picture stands in the column. -/
def Covered (glyphs : List Glyph) (column : Nat) : Prop :=
  ∃ index glyph, glyphs[index]? = some glyph ∧
    ∃ within < glyph.width, column = start glyphs index + within

variable {glyphs more : List Glyph} {glyph : Glyph} {row column : Nat}

theorem line_cons (row : Nat) (glyph : Glyph) (others : glyphs ≠ []) :
    line row (glyph :: glyphs) = glyph.getD row [] ++ false :: line row glyphs := by
  cases glyphs with
  | nil => exact absurd rfl others
  | cons next rest => rfl

theorem line_append (row : Nat) (before : glyphs ≠ []) (after : more ≠ []) :
    line row (glyphs ++ more) = line row glyphs ++ false :: line row more := by
  induction glyphs with
  | nil => exact absurd rfl before
  | cons glyph rest induction =>
      cases rest with
      | nil => exact line_cons row glyph after
      | cons next rest =>
          have further := induction (List.cons_ne_nil next rest)
          rw [List.cons_append, line_cons row glyph (by simp), further,
            line_cons row glyph (List.cons_ne_nil next rest), List.append_assoc,
            List.cons_append]

theorem breadth_cons (glyph : Glyph) (others : glyphs ≠ []) :
    breadth (glyph :: glyphs) = glyph.width + 1 + breadth glyphs := by
  have counted := List.length_pos_iff.mpr others
  simp only [breadth, List.foldr_cons, List.length_cons]
  omega

theorem start_succ (glyph : Glyph) (glyphs : List Glyph) (index : Nat) :
    start (glyph :: glyphs) (index + 1) = glyph.width + 1 + start glyphs index := by
  simp only [start, List.take_succ_cons, List.foldr_cons]

theorem appendGlyph?_eq {rows : Pattern} (same : glyph.length = rows.length) :
    appendGlyph? rows glyph =
      some (rows.mapIdx fun row cells => cells ++ glyph.getD row []) := by
  induction rows generalizing glyph with
  | nil =>
      rw [List.eq_nil_of_length_eq_zero same]
      rfl
  | cons row rows induction =>
      cases glyph with
      | nil => cases same
      | cons cells rest =>
          simp only [appendGlyph?, induction (Nat.succ.inj same), Option.map_some,
            List.mapIdx_cons, List.getD_cons_zero, List.getD_cons_succ]

theorem getD_spaced (inside : row < glyph.length) :
    (spaced glyph).getD row [] = glyph.getD row [] ++ [false] := by
  simp only [spaced, List.getD_eq_getElem?_getD, List.getElem?_map,
    List.getElem?_eq_getElem inside, Option.map_some, Option.getD_some]

theorem appendAll?_eq {rows : Pattern} (tall : ∀ glyph ∈ glyphs, glyph.length = rows.length) :
    appendAll? rows glyphs =
      some (rows.mapIdx fun row cells => cells ++ line row glyphs) := by
  induction glyphs generalizing rows with
  | nil =>
      have unchanged : (rows.mapIdx fun _ cells => cells ++ []) = rows := by
        apply List.ext_getElem
        · exact List.length_mapIdx
        · intro row left right
          rw [List.getElem_mapIdx, List.append_nil]
      exact congrArg some unchanged.symm
  | cons glyph rest induction =>
      have same := tall glyph List.mem_cons_self
      cases rest with
      | nil => exact appendGlyph?_eq same
      | cons next rest =>
          have shifted : (spaced glyph).length = rows.length := by
            rw [spaced, List.length_map, same]
          simp only [appendAll?, appendGlyph?_eq shifted, Option.bind_some]
          rw [induction fun other member => ?_]
          · rw [List.mapIdx_mapIdx]
            congr 1
            apply List.ext_getElem
            · rw [List.length_mapIdx, List.length_mapIdx]
            · intro row left right
              have inside : row < glyph.length := by
                rw [same]
                simpa using left
              simp only [List.getElem_mapIdx, Function.comp, getD_spaced inside,
                line_cons row glyph (List.cons_ne_nil next rest), List.append_assoc,
                List.singleton_append]
          · rw [List.length_mapIdx]
            exact tall other (List.mem_cons_of_mem _ member)

/-- The pattern of a text whose pictures are rectangles, in closed form. -/
theorem pattern?_eq {map : GlyphMap} {text : List Char}
    (shaped : ∀ glyph ∈ pictures map text, Rectangle glyph Glyph.height glyph.width) :
    pattern? map text =
      some (if pictures map text = [] then [] else lines (pictures map text)) := by
  unfold pattern?
  cases drawn : pictures map text with
  | nil => rfl
  | cons glyph rest =>
      have rows : ∀ other ∈ glyph :: rest, other.length = blankRows.length := by
        intro other member
        rw [(shaped other (drawn ▸ member)).height]
        rfl
      rw [if_neg (List.cons_ne_nil glyph rest)]
      simp only [appendAll?_eq rows, Option.map_some]
      rfl

theorem Rectangle.getD (shape : Rectangle glyph Glyph.height glyph.width)
    (below : row < Glyph.height) : (glyph.getD row []).length = glyph.width := by
  have inside : row < glyph.length := by rw [shape.height]; exact below
  rw [List.getD_eq_getElem?_getD, List.getElem?_eq_getElem inside, Option.getD_some]
  exact shape.width _ (List.getElem_mem inside)

theorem line_head (wide : (glyph.getD row []).length = glyph.width)
    (inside : column < glyph.width) :
    (line row (glyph :: glyphs))[column]? = (glyph.getD row [])[column]? := by
  cases glyphs with
  | nil => rfl
  | cons next rest =>
      rw [line_cons row glyph (List.cons_ne_nil next rest)]
      exact List.getElem?_append_left (wide ▸ inside)

theorem line_gap (wide : (glyph.getD row []).length = glyph.width) (others : glyphs ≠ []) :
    (line row (glyph :: glyphs))[glyph.width]? = some false := by
  rw [line_cons row glyph others, List.getElem?_append_right (Nat.le_of_eq wide), wide,
    Nat.sub_self, List.getElem?_cons_zero]

theorem line_tail (wide : (glyph.getD row []).length = glyph.width) (others : glyphs ≠ [])
    (column : Nat) :
    (line row (glyph :: glyphs))[glyph.width + 1 + column]? = (line row glyphs)[column]? := by
  have behind : glyph.width + 1 + column - glyph.width = column + 1 := by omega
  rw [line_cons row glyph others, List.getElem?_append_right (by omega), wide, behind,
    List.getElem?_cons_succ]

section Placed

variable (shaped : ∀ glyph ∈ glyphs, Rectangle glyph Glyph.height glyph.width)
variable (below : row < Glyph.height)

include shaped below

theorem length_line : (line row glyphs).length = breadth glyphs := by
  induction glyphs with
  | nil => rfl
  | cons glyph rest induction =>
      have wide := (shaped glyph List.mem_cons_self).getD below
      cases rest with
      | nil => simpa [line, breadth] using wide
      | cons next rest =>
          have others := induction fun other member =>
            shaped other (List.mem_cons_of_mem _ member)
          rw [line_cons row glyph (List.cons_ne_nil next rest),
            breadth_cons glyph (List.cons_ne_nil next rest), List.length_append, wide,
            List.length_cons, others]
          omega

/-- Every picture stands in the line behind those before it. -/
theorem line_shown {index : Nat} (found : glyphs[index]? = some glyph)
    (inside : column < glyph.width) :
    (line row glyphs)[start glyphs index + column]? = (glyph.getD row [])[column]? := by
  induction glyphs generalizing index with
  | nil => cases found
  | cons first rest induction =>
      have wide := (shaped first List.mem_cons_self).getD below
      cases index with
      | zero =>
          cases found
          simpa [start] using line_head wide inside
      | succ index =>
          have others : rest ≠ [] := by
            rintro rfl
            cases found
          rw [start_succ, Nat.add_assoc, line_tail wide others]
          exact induction (fun other member => shaped other (List.mem_cons_of_mem _ member))
            found

/-- What no picture covers is dark. -/
theorem line_dark (inside : column < breadth glyphs)
    (outside : ¬ Covered glyphs column) :
    (line row glyphs)[column]? = some false := by
  induction glyphs generalizing column with
  | nil => cases inside
  | cons first rest induction =>
      have wide := (shaped first List.mem_cons_self).getD below
      have past : first.width ≤ column := by
        apply Nat.le_of_not_lt
        intro before
        exact outside ⟨0, first, rfl, column, before, by simp [start]⟩
      have others : rest ≠ [] := by
        rintro rfl
        simp only [breadth, List.foldr_cons, List.foldr_nil, List.length_singleton] at inside
        omega
      rcases Nat.eq_or_lt_of_le past with rfl | further
      · exact line_gap wide others
      · obtain ⟨column, rfl⟩ := Nat.exists_eq_add_of_le further
        rw [breadth_cons first others] at inside
        rw [line_tail wide others]
        refine induction (fun other member => shaped other (List.mem_cons_of_mem _ member))
          (by omega) fun ⟨index, glyph, found, within, covered, same⟩ => ?_
        refine outside ⟨index + 1, glyph, found, within, covered, ?_⟩
        rw [start_succ, same]
        omega

end Placed

/-- The pictures stand in the pattern side by side, one dark column apart, and the
trailing columns stand behind the last. -/
structure SideBySide (glyphs : List Glyph) (pattern : Pattern) : Prop where
  shape : Rectangle pattern Glyph.height (breadth glyphs + trailingColumns)
  shown : ∀ (index : Nat) (glyph : Glyph), glyphs[index]? = some glyph →
    ∀ row < Glyph.height, ∀ column < glyph.width,
      (pattern[row]?).bind (·[start glyphs index + column]?) =
        (glyph[row]?).bind (·[column]?)
  dark : ∀ row < Glyph.height, ∀ column < breadth glyphs + trailingColumns,
    ¬ Covered glyphs column → (pattern[row]?).bind (·[column]?) = some false

/-- One pattern without its trailing columns, a dark column, and the other pattern. -/
def joined (pattern behind : Pattern) : Pattern :=
  List.zipWith (fun cells more => cells.take (cells.length - trailingColumns) ++ false :: more)
    pattern behind

theorem cell_lines (below : row < Glyph.height) (glyphs : List Glyph) (column : Nat) :
    ((lines glyphs)[row]?).bind (·[column]?) =
      (line row glyphs ++ List.replicate trailingColumns false)[column]? := by
  have counted : row < (List.range Glyph.height).length := by
    rw [List.length_range]
    exact below
  simp only [lines, List.getElem?_map, List.getElem?_eq_getElem counted,
    List.getElem_range, Option.map_some, Option.bind_some]

theorem cell_eq_getD (inside : row < glyph.length) (column : Nat) :
    (glyph[row]?).bind (·[column]?) = (glyph.getD row [])[column]? := by
  simp only [List.getD_eq_getElem?_getD, List.getElem?_eq_getElem inside,
    Option.bind_some, Option.getD_some]

theorem lines_sideBySide
    (shaped : ∀ glyph ∈ glyphs, Rectangle glyph Glyph.height glyph.width) :
    SideBySide glyphs (lines glyphs) := by
  constructor
  case shape =>
    refine ⟨by simp only [lines, List.length_map, List.length_range], ?_⟩
    intro cells member
    obtain ⟨row, counted, rfl⟩ := List.mem_map.mp member
    rw [List.length_append, length_line shaped (List.mem_range.mp counted),
      List.length_replicate]
  case shown =>
    intro index glyph found row below column inside
    have shape := shaped glyph (List.mem_of_getElem? found)
    have same := cell_eq_getD (by rw [shape.height]; exact below) column
    obtain ⟨lit, cell⟩ := shape.cell below inside
    have written : (line row glyphs)[start glyphs index + column]? = some lit :=
      (line_shown shaped below found inside).trans (same.symm.trans cell)
    have within := (List.getElem?_eq_some_iff.mp written).1
    rw [cell_lines below, List.getElem?_append_left within, written, cell]
  case dark =>
    intro row below column inside outside
    rw [cell_lines below]
    by_cases within : column < breadth glyphs
    · rw [List.getElem?_append_left (by rw [length_line shaped below]; exact within)]
      exact line_dark shaped below within outside
    · rw [List.getElem?_append_right (by rw [length_line shaped below]; omega),
        List.getElem?_replicate, if_pos (by rw [length_line shaped below]; omega)]

theorem lines_append (before : glyphs ≠ []) (after : more ≠ []) :
    lines (glyphs ++ more) = joined (lines glyphs) (lines more) := by
  simp only [lines, joined, List.zipWith_map, List.zipWith_self]
  apply List.map_congr_left
  intro row _
  rw [List.length_append, List.length_replicate, Nat.add_sub_cancel, List.take_left' rfl,
    line_append row before after, List.append_assoc, List.cons_append]

end Microboard.Scroll

namespace Microboard.Glyph

theorem WellShaped.rectangle {glyph : Glyph} (shaped : glyph.WellShaped) :
    Scroll.Rectangle glyph height glyph.width := by
  obtain ⟨tall, width, positive, same⟩ := shaped
  refine ⟨tall, ?_⟩
  intro row member
  cases glyph with
  | nil => cases member
  | cons first rest =>
      exact (same row member).trans (same first List.mem_cons_self).symm

end Microboard.Glyph

namespace Microboard.Scroll

theorem rectangle_of_mem_pictures {map : GlyphMap} {text : List Char}
    (shaped : ∀ char glyph, map.find? char = some glyph → glyph.WellShaped)
    (member : glyph ∈ pictures map text) : Rectangle glyph Glyph.height glyph.width := by
  obtain ⟨char, -, found⟩ := List.mem_filterMap.mp member
  exact (shaped char glyph found).rectangle

theorem pictures_filter (map : GlyphMap) (text : List Char) :
    pictures map (text.filter fun char => (map.find? char).isSome) = pictures map text := by
  have same : (fun char => if (map.find? char).isSome then map.find? char else none) =
      map.find? := by
    funext char
    cases map.find? char with
    | none => rfl
    | some glyph => rfl
  rw [pictures, List.filterMap_filter, same]
  rfl

/-- How a pattern comes out of a text: empty when no character has a picture, else the
pictures side by side. Characters without a picture leave no mark, and a text behind
the text goes on after one dark column. -/
structure LaysOut (map : GlyphMap) (text : List Char) (pattern : Pattern) : Prop where
  drawn : pattern? map text = some pattern
  empty : pictures map text = [] → pattern = []
  sideBySide : pictures map text ≠ [] → SideBySide (pictures map text) pattern
  ignores : ∀ other : List Char,
    other.filter (fun char => (map.find? char).isSome) =
      text.filter (fun char => (map.find? char).isSome) →
    pattern? map other = some pattern
  goesOn : ∀ more : List Char, pictures map text ≠ [] → pictures map more ≠ [] →
    ∃ behind, pattern? map more = some behind ∧
      pattern? map (text ++ more) = some (joined pattern behind)

/-- Every text is laid out on a map of well-shaped pictures. -/
theorem pattern?_laysOut {map : GlyphMap}
    (shaped : ∀ char glyph, map.find? char = some glyph → glyph.WellShaped)
    (text : List Char) : ∃ pattern, LaysOut map text pattern := by
  have drawn : ∀ text : List Char, pattern? map text =
      some (if pictures map text = [] then [] else lines (pictures map text)) :=
    fun text => pattern?_eq fun _ => rectangle_of_mem_pictures shaped
  refine ⟨_, drawn text, fun none => if_pos none, ?_, ?_, ?_⟩
  · intro some
    rw [if_neg some]
    exact lines_sideBySide fun _ => rectangle_of_mem_pictures shaped
  · intro other same
    rw [drawn other, ← pictures_filter map other, same, pictures_filter]
  · intro more before after
    have both : pictures map (text ++ more) = pictures map text ++ pictures map more :=
      List.filterMap_append
    have some : pictures map (text ++ more) ≠ [] := by
      rw [both]
      exact List.append_ne_nil_of_left_ne_nil before _
    refine ⟨_, drawn more, ?_⟩
    rw [drawn (text ++ more), if_neg some, if_neg before, if_neg after, both,
      lines_append before after]

theorem pattern?_laysOut_font :
    (∀ char glyph, GlyphMap.find? Glyph.font char = some glyph → glyph.WellShaped) ∧
      (∃ pattern, LaysOut Glyph.font "I!".toList pattern) ∧
      pattern? Glyph.font "I!".toList =
        some [[true, true, true, false, true, false, false, false, false, false],
          [false, true, false, false, true, false, false, false, false, false],
          [false, true, false, false, true, false, false, false, false, false],
          [false, true, false, false, false, false, false, false, false, false],
          [true, true, true, false, true, false, false, false, false, false]] :=
  ⟨fun _ _ => Glyph.wellShaped_of_find?,
    pattern?_laysOut (fun _ _ => Glyph.wellShaped_of_find?) "I!".toList, by decide⟩

end Microboard.Scroll
