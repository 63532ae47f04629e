import Microboard.Text.Blank

/-!
# Quoted text

How a text is written inside a message: between quotes, with escapes for the
quote, for the backslash and for every character that does not print.
-/

namespace Microboard.Text

/-- Inclusive ranges of the characters that do not print: controls, separators
other than the space, format characters, private use and noncharacters. -/
def unprintableRanges : List (Nat × Nat) :=
  [(0x00, 0x1f), (0x7f, 0xa0), (0xad, 0xad), (0x600, 0x605), (0x61c, 0x61c),
   (0x6dd, 0x6dd), (0x70f, 0x70f), (0x890, 0x891), (0x8e2, 0x8e2), (0x1680, 0x1680),
   (0x180e, 0x180e), (0x2000, 0x200f), (0x2028, 0x202f), (0x205f, 0x206f),
   (0x3000, 0x3000), (0xe000, 0xf8ff), (0xfdd0, 0xfdef), (0xfeff, 0xfeff),
   (0xfff0, 0xfffb), (0xfffe, 0xffff), (0x110bd, 0x110bd), (0x110cd, 0x110cd),
   (0x13430, 0x13438), (0x1bca0, 0x1bca3), (0x1d173, 0x1d17a), (0x1fffe, 0x1ffff),
   (0xe0000, 0xe00ff), (0xe01f0, 0x10ffff)]

def isPrintable (char : Char) : Bool :=
  !inRanges unprintableRanges char.toNat

/-- A number in lower-case hexadecimal digits, filled with zeros up to a width. -/
def hexadecimal (width number : Nat) : List Char :=
  let digits := Nat.toDigits 16 number
  List.replicate (width - digits.length) '0' ++ digits

/-- The quote that surrounds a text: the single one, unless the text holds single
quotes and no double one. -/
def quoteFor (chars : List Char) : Char :=
  if chars.contains '\x27' && !chars.contains '\x22' then '\x22' else '\x27'

def escape (quote char : Char) : List Char :=
  if char = quote || char = '\x5c' then ['\x5c', char]
  else if char = '\n' then ['\x5c', 'n']
  else if char = '\r' then ['\x5c', 'r']
  else if char = '\t' then ['\x5c', 't']
  else if isPrintable char then [char]
  else if char.toNat < 0x100 then '\x5c' :: 'x' :: hexadecimal 2 char.toNat
  else if char.toNat < 0x10000 then '\x5c' :: 'u' :: hexadecimal 4 char.toNat
  else '\x5c' :: 'U' :: hexadecimal 8 char.toNat

def quoted (text : String) : String :=
  let chars := text.toList
  let quote := quoteFor chars
  String.ofList (quote :: chars.flatMap (escape quote) ++ [quote])

end Microboard.Text
