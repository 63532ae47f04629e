import Microboard.Glyph.Font

/-!
# Scroll patterns

A text laid out as rows of cells: its glyphs side by side with one dark column
between neighbours, and five dark columns at the end so that the text can leave
the display.
-/

namespace Microboard.Scroll

abbrev Pattern := List (List Bool)

def trailingColumns : Nat := 5

def pictures (glyphs : GlyphMap) (text : List Char) : List Glyph :=
  text.filterMap glyphs.find?

/-- Writes a glyph behind the rows; nothing when it has more rows than there are. -/
def appendGlyph? : Pattern → Glyph → Option Pattern
  | rows, [] => some rows
  | [], _ :: _ => none
  | row :: rows, cells :: rest =>
    (appendGlyph? rows rest).map fun more => (row ++ cells) :: more

def spaced (glyph : Glyph) : Glyph :=
  glyph.map (· ++ [false])

/-- Writes glyphs behind the rows, separated by dark columns. -/
def appendAll? (rows : Pattern) : List Glyph → Option Pattern
  | [] => some rows
  | [glyph] => appendGlyph? rows glyph
  | glyph :: next :: rest =>
    (appendGlyph? rows (spaced glyph)).bind fun more => appendAll? more (next :: rest)

def blankRows : Pattern :=
  List.replicate Glyph.height []

def trailed (rows : Pattern) : Pattern :=
  rows.map (· ++ List.replicate trailingColumns false)

/-- The pattern of a text; characters without a picture are dropped, and without
any picture there are no rows. Nothing when a picture has too many rows. -/
def pattern? (glyphs : GlyphMap) (text : List Char) : Option Pattern :=
  match pictures glyphs text with
  | [] => some []
  | glyphs => (appendAll? blankRows glyphs).map trailed

end Microboard.Scroll
