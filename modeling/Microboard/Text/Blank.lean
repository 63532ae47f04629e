/-!
# Blank characters

The white space that may surround a written number, and its removal from both
ends of a text.
-/

namespace Microboard.Text

/-- Inclusive ranges of the code points with the white-space property. -/
def blankRanges : List (Nat × Nat) :=
  [(0x09, 0x0d), (0x20, 0x20), (0x85, 0x85), (0xa0, 0xa0), (0x1680, 0x1680),
   (0x2000, 0x200a), (0x2028, 0x2029), (0x202f, 0x202f), (0x205f, 0x205f),
   (0x3000, 0x3000)]

def inRanges (ranges : List (Nat × Nat)) (code : Nat) : Bool :=
  ranges.any fun range => range.1 ≤ code && code ≤ range.2

def isBlank (char : Char) : Bool :=
  inRanges blankRanges char.toNat

def trimEnd : List Char → List Char
  | [] => []
  | char :: rest =>
    if isBlank char && (trimEnd rest).isEmpty then [] else char :: trimEnd rest

def trim (chars : List Char) : List Char :=
  trimEnd (chars.dropWhile isBlank)

end Microboard.Text
