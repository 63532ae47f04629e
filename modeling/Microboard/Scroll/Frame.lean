import Microboard.Scroll.Pattern

/-!
# Frames

The windows that a scrolling text shows one after the other, one for each column
of its pattern.
-/

namespace Microboard.Scroll

/-- One picture of the display, as rows of cells. -/
abbrev Frame := List (List Bool)

/-- Number of columns of a pattern, counted on its first row. -/
def columns (pattern : Pattern) : Nat :=
  (pattern.head?.getD []).length

/-- The cell at a row and a column; dark behind the last column, and nothing where
the pattern has no such row or its row is too short. -/
def cell? (pattern : Pattern) (row column : Nat) : Option Bool :=
  if columns pattern ≤ column then some false
  else (pattern[row]?).bind fun cells => cells[column]?

def window? (pattern : Pattern) (width height offset : Nat) : Option Frame :=
  (List.range height).mapM fun row =>
    (List.range width).mapM fun column => cell? pattern row (offset + column)

def windows? (pattern : Pattern) (width height : Nat) : Option (List Frame) :=
  (List.range (columns pattern)).mapM (window? pattern width height)

/-- The frames of a text; nothing when a picture does not fit the rows. -/
def frames? (glyphs : GlyphMap) (width height : Nat) (text : List Char) :
    Option (List Frame) :=
  (pattern? glyphs text).bind fun pattern => windows? pattern width height

end Microboard.Scroll
