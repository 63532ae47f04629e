import Microboard.Glyph

/-!
# The font

Pictures of letters, digits and punctuation. Spacing between characters is added
where text is laid out, not stored here.
-/

namespace Microboard.Glyph

def fontArt : List (Char × List String) :=
  [('A', [".##.", "#..#", "####", "#..#", "#..#"]),
   ('B', ["###.", "#..#", "###.", "#..#", "###."]),
   ('C', [".###", "#...", "#...", "#...", ".###"]),
   ('D', ["###.", "#..#", "#..#", "#..#", "###."]),
   ('E', ["####", "#...", "###.", "#...", "####"]),
   ('F', ["####", "#...", "###.", "#...", "#..."]),
   ('G', [".###", "#...", "#.##", "#..#", ".##."]),
   ('H', ["#..#", "#..#", "####", "#..#", "#..#"]),
   ('I', ["###", ".#.", ".#.", ".#.", "###"]),
   ('J', ["####", "...#", "...#", "#..#", ".##."]),
   ('K', ["#..#", "#.#.", "##..", "#.#.", "#..#"]),
   ('L', ["#...", "#...", "#...", "#...", "####"]),
   ('M', ["#...#", "##.##", "#.#.#", "#...#", "#...#"]),
   ('N', ["#...#", "##..#", "#.#.#", "#..##", "#...#"]),
   ('O', [".##.", "#..#", "#..#", "#..#", ".##."]),
   ('P', ["###.", "#..#", "###.", "#...", "#..."]),
   ('Q', [".##.", "#..#", "#..#", "#.##", ".###"]),
   ('R', ["###.", "#..#", "###.", "#.#.", "#..#"]),
   ('S', [".###", "#...", ".##.", "...#", "###."]),
   ('T', ["#####", "..#..", "..#..", "..#..", "..#.."]),
   ('U', ["#..#", "#..#", "#..#", "#..#", ".##."]),
   ('V', ["#...#", "#...#", "#...#", ".#.#.", "..#.."]),
   ('W', ["#...#", "#...#", "#.#.#", "##.##", "#...#"]),
   ('X', ["#...#", ".#.#.", "..#..", ".#.#.", "#...#"]),
   ('Y', ["#...#", ".#.#.", "..#..", "..#..", "..#.."]),
   ('Z', ["####", "...#", ".##.", "#...", "####"]),
   ('a', ["....", ".###", "#..#", "#..#", ".###"]),
   ('b', ["#...", "###.", "#..#", "#..#", "###."]),
   ('c', ["...", ".##", "#..", "#..", ".##"]),
   ('d', ["...#", ".###", "#..#", "#..#", ".###"]),
   ('e', ["....", ".##.", "####", "#...", ".###"]),
   ('f', ["..##", ".#..", "####", ".#..", ".#.."]),
   ('g', [".###", "#..#", ".###", "...#", ".##."]),
   ('h', ["#...", "#...", "###.", "#..#", "#..#"]),
   ('i', ["#", ".", "#", "#", "#"]),
   ('j', ["..#", "...", "..#", "#.#", ".#."]),
   ('k', ["#...", "#.#.", "##..", "#.#.", "#..#"]),
   ('l', ["#.", "#.", "#.", "#.", ".#"]),
   ('m', [".....", "##.#.", "#.#.#", "#.#.#", "#...#"]),
   ('n', ["....", "###.", "#..#", "#..#", "#..#"]),
   ('o', ["....", ".##.", "#..#", "#..#", ".##."]),
   ('p', ["###.", "#..#", "###.", "#...", "#..."]),
   ('q', [".###", "#..#", ".###", "...#", "...#"]),
   ('r', ["...", "#.#", "##.", "#..", "#.."]),
   ('s', [".##", "#..", ".#.", "..#", "##."]),
   ('t', [".#.", "###", ".#.", ".#.", "..#"]),
   ('u', ["....", "#..#", "#..#", "#..#", ".###"]),
   ('v', [".....", "#...#", "#...#", ".#.#.", "..#.."]),
   ('w', [".....", "#...#", "#.#.#", "#.#.#", ".#.#."]),
   ('x', ["....", "#..#", ".##.", ".##.", "#..#"]),
   ('y', ["#..#", "#..#", ".###", "...#", ".##."]),
   ('z', ["....", "####", "..#.", ".#..", "####"]),
   ('0', [".#.", "#.#", "#.#", "#.#", ".#."]),
   ('1', [".#.", "##.", ".#.", ".#.", "###"]),
   ('2', ["###.", "...#", ".##.", "#...", "####"]),
   ('3', ["###.", "...#", ".##.", "...#", "###."]),
   ('4', ["#..#", "#..#", "####", "...#", "...#"]),
   ('5', ["####", "#...", "###.", "...#", "###."]),
   ('6', [".##.", "#...", "###.", "#..#", ".##."]),
   ('7', ["####", "...#", "..#.", ".#..", ".#.."]),
   ('8', [".##.", "#..#", ".##.", "#..#", ".##."]),
   ('9', [".##.", "#..#", ".###", "...#", ".##."]),
   (' ', ["...", "...", "...", "...", "..."]),
   ('!', ["#", "#", "#", ".", "#"]),
   ('?', [".##.", "#..#", "..#.", "....", "..#."]),
   ('.', [".", ".", ".", ".", "#"]),
   (',', ["..", "..", "..", ".#", "#."]),
   (':', [".", "#", ".", "#", "."]),
   ('\x27', ["#", "#", ".", ".", "."]),
   ('-', ["...", "...", "###", "...", "..."]),
   ('+', ["...", ".#.", "###", ".#.", "..."]),
   ('=', ["...", "###", "...", "###", "..."]),
   ('(', [".#", "#.", "#.", "#.", ".#"]),
   (')', ["#.", ".#", ".#", ".#", "#."]),
   ('/', ["..#", "..#", ".#.", "#..", "#.."])]

/-- The picture of a drawing, empty when the drawing is malformed. -/
def ofArt (rows : List String) : Glyph :=
  (parse (rows.map String.toList)).toOption.getD []

def font : GlyphMap :=
  fontArt.map fun entry => (String.singleton entry.1, ofArt entry.2)

end Microboard.Glyph
