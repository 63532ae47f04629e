import Microboard.Glyph.Font

/-!
# Drawings

A drawing has five rows of text of one positive width, one sign for each cell.  Its picture
has the cells of the drawing, lit where the sign is a hash, and a drawing of hashes and dots
can be read back from it.  All drawings of the font are of this form.
-/

namespace Microboard.Glyph

/-- Rows of text, one sign for each cell. -/
abbrev Art := List String

/-- Five rows of one positive width. -/
structure Drawable (art : Art) : Prop where
  tall : art.length = height
  even : ∃ width, 0 < width ∧ ∀ row ∈ art, row.length = width

/-- No signs occur but those of lit and of dark cells. -/
def Plain (art : Art) : Prop :=
  ∀ row ∈ art, ∀ sign ∈ row.toList, sign = '#' ∨ sign = '.'

/-- What is wrong with a drawing that is not parsed. -/
def flaw (art : Art) : GlyphError :=
  if art.length = height then .unevenRows else .rowCount art.length

def ofRows (art : Art) : Glyph :=
  art.map fun row => parseRow row.toList

/-- A picture of a drawing: row by row as wide, lit where the drawing has a hash, and drawn
again like the drawing. -/
structure Depicts (art : Art) (glyph : Glyph) : Prop where
  widths : glyph.map List.length = art.map String.length
  lit : ∀ row column : Nat, (glyph[row]?).bind (·[column]?) = some true ↔
    (art[row]?).bind (·.toList[column]?) = some '#'
  redrawn : Plain art → draw glyph = art.map String.toList

variable {art other : Art} {char : String} {width : Nat}

theorem Drawable.first_positive {first : String} {rest : Art}
    (drawable : Drawable (first :: rest)) : first.length ≠ 0 := by
  obtain ⟨width, positive, same⟩ := drawable.even
  rw [same first List.mem_cons_self]
  exact Nat.ne_of_gt positive

theorem Drawable.as_wide_as_first {first : String} {rest : Art}
    (drawable : Drawable (first :: rest)) :
    ∀ row ∈ first :: rest, row.length = first.length := by
  obtain ⟨width, -, same⟩ := drawable.even
  intro row member
  exact (same row member).trans (same first List.mem_cons_self).symm

theorem draw_ofRows (plain : Plain art) : draw (ofRows art) = art.map String.toList := by
  rw [draw, ofRows, List.map_map]
  apply List.map_congr_left
  intro row member
  have kept : ∀ sign ∈ row.toList, (if (sign == '#') = true then '#' else '.') = sign := by
    intro sign within
    rcases plain row member sign within with rfl | rfl
    · rfl
    · rfl
  rw [Function.comp, parseRow, List.map_map]
  exact (List.map_congr_left kept).trans (List.map_id' _)

theorem cell_ofRows (art : Art) (row column : Nat) :
    ((ofRows art)[row]?).bind (·[column]?) =
      ((art[row]?).bind (·.toList[column]?)).map (· == '#') := by
  rw [ofRows, List.getElem?_map]
  cases art[row]? with
  | none => rfl
  | some cells => exact List.getElem?_map

theorem depicts_ofRows (art : Art) : Depicts art (ofRows art) where
  widths := by
    rw [ofRows, List.map_map]
    apply List.map_congr_left
    intro row _
    rw [Function.comp, parseRow, List.length_map, String.length_toList]
  lit row column := by
    rw [cell_ofRows]
    cases (art[row]?).bind (·.toList[column]?) with
    | none => simp
    | some sign => simp
  redrawn := draw_ofRows

theorem Drawable.wellShaped (drawable : Drawable art) : (ofRows art).WellShaped := by
  obtain ⟨width, positive, same⟩ := drawable.even
  refine ⟨by rw [ofRows, List.length_map, drawable.tall], width, positive, ?_⟩
  intro cells member
  obtain ⟨row, among, rfl⟩ := List.mem_map.mp member
  rw [parseRow, List.length_map, String.length_toList, same row among]

/-- A drawing without other signs can be read back from its picture. -/
theorem ofRows_injective (plain : Plain art) (others : Plain other)
    (same : ofRows other = ofRows art) : other = art := by
  have redrawn : other.map String.toList = art.map String.toList := by
    rw [← draw_ofRows others, same, draw_ofRows plain]
  exact (List.map_inj_right fun _ _ => String.toList_inj.mp).mp redrawn

theorem parse_even {rows : List (List Char)} (tall : rows.length = height) (positive : 0 < width)
    (same : ∀ row ∈ rows, row.length = width) : parse rows = .ok (rows.map parseRow) := by
  cases rows with
  | nil => cases tall
  | cons first rest =>
      have wide : first.length = width := same first List.mem_cons_self
      rw [parse, if_neg (not_not_intro tall)]
      apply if_neg
      rw [Bool.or_eq_true, List.any_eq_true, decide_eq_true_eq]
      rintro (empty | ⟨row, member, different⟩)
      · exact Nat.ne_of_gt positive (wide.symm.trans empty)
      · exact of_decide_eq_true different ((same row member).trans wide.symm)

/-- A drawing is parsed in whatever signs its rows are written, one for each cell. -/
theorem parse_map (drawable : Drawable art) {signs : String → List Char}
    (long : ∀ row, (signs row).length = row.length) :
    parse (art.map signs) = .ok (art.map fun row => parseRow (signs row)) := by
  obtain ⟨width, positive, same⟩ := drawable.even
  have even : ∀ row ∈ art.map signs, row.length = width := by
    intro cells member
    obtain ⟨row, among, rfl⟩ := List.mem_map.mp member
    exact (long row).trans (same row among)
  rw [parse_even (by rw [List.length_map, drawable.tall]) positive even, List.map_map]
  rfl

theorem ofArt_drawable (drawable : Drawable art) : ofArt art = ofRows art := by
  rw [ofArt, parse_map drawable fun _ => String.length_toList]
  rfl

def drawableEntry (entry : Char × Art) : Bool :=
  entry.2.length = height ∧ 0 < (entry.2.headD "").length ∧
    entry.2.all fun row => row.length = (entry.2.headD "").length

theorem fontArt_drawableEntry : fontArt.all drawableEntry = true := by
  decide

theorem fontArt_drawable (entry : Char × Art) (member : entry ∈ fontArt) : Drawable entry.2 := by
  have shape := List.all_eq_true.mp fontArt_drawableEntry entry member
  simp only [drawableEntry, List.all_eq_true, decide_eq_true_eq] at shape
  obtain ⟨tall, positive, same⟩ := shape
  exact ⟨tall, _, positive, same⟩

theorem font_eq : font = fontArt.map fun entry => (String.singleton entry.1, ofRows entry.2) := by
  apply List.map_congr_left
  intro entry member
  rw [ofArt_drawable (fontArt_drawable entry member)]

theorem find?_wellShaped {map : GlyphMap} (shaped : ∀ entry ∈ map, entry.2.WellShaped)
    (char : Char) (glyph : Glyph) (found : map.find? char = some glyph) : glyph.WellShaped := by
  obtain ⟨before, after, split, -⟩ := List.lookup_eq_some_iff.mp found
  exact shaped (String.singleton char, glyph) (by simp [split])

/-- A picture that the font has for a character is well-shaped. -/
theorem wellShaped_of_find? {char : Char} {glyph : Glyph}
    (found : GlyphMap.find? font char = some glyph) : glyph.WellShaped := by
  apply find?_wellShaped _ char glyph found
  intro entry member
  rw [font_eq] at member
  obtain ⟨letter, among, rfl⟩ := List.mem_map.mp member
  exact (fontArt_drawable letter among).wellShaped

end Microboard.Glyph
