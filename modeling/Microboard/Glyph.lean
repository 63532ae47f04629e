/-!
# Glyphs

A glyph is a small picture of five rows. It is drawn as text, with `#` for a lit
cell, and parsed into rows of truth values.
-/

namespace Microboard

/-- Rows of cells, true for a lit one. -/
abbrev Glyph := List (List Bool)

abbrev GlyphMap := List (String × Glyph)

inductive GlyphError where
  | rowCount (found : Nat)
  | unevenRows
deriving DecidableEq, Repr

namespace Glyph

def height : Nat := 5

def parseRow (row : List Char) : List Bool :=
  row.map (· == '#')

/-- Parses a drawing, which has to have five rows of one positive width. -/
def parse (art : List (List Char)) : Except GlyphError Glyph :=
  if art.length ≠ height then .error (.rowCount art.length)
  else
    let width := (art.head?.getD []).length
    if width = 0 || art.any (fun row => row.length ≠ width) then .error .unevenRows
    else .ok (art.map parseRow)

def draw (glyph : Glyph) : List (List Char) :=
  glyph.map fun row => row.map fun lit => if lit then '#' else '.'

def WellShaped (glyph : Glyph) : Prop :=
  glyph.length = height ∧
    ∃ width, 0 < width ∧ ∀ row ∈ glyph, row.length = width

def width (glyph : Glyph) : Nat :=
  (glyph.head?.getD []).length

end Glyph

def GlyphMap.find? (glyphs : GlyphMap) (char : Char) : Option Glyph :=
  glyphs.lookup (String.singleton char)

end Microboard
