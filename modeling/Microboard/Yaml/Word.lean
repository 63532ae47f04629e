import Microboard.Yaml.Cursor

/-!
# Words and quoted texts

The scalars of a document as characters. A scalar may go on over several lines: one
line end inside it counts as a blank, and of several line ends all but the first are
kept.
-/

namespace Microboard.Yaml

/-- Blanks and line ends inside a scalar: the blanks before the first line end, the
number of line ends, and the position behind them. -/
structure Gap where
  blanks : List Char
  breaks : Nat
  cursor : Cursor

namespace Gap

/-- Reads blanks and line ends; it stops at a marker of a document. -/
def readFrom (tabs : Bool) : List Char → (line column : Nat) → (fresh : Bool) →
    (breaks : Nat) → (blanks : List Char) → Gap
  | [], line, column, fresh, breaks, blanks =>
    ⟨blanks.reverse, breaks, ⟨[], line, column, fresh⟩⟩
  | char :: rest, line, column, fresh, breaks, blanks =>
    let here : Cursor := ⟨char :: rest, line, column, fresh⟩
    if 0 < breaks && here.atMarker then ⟨blanks.reverse, breaks, here⟩
    else if char == '\n' then readFrom tabs rest (line + 1) 0 true (breaks + 1) blanks
    else if char == ' ' || (tabs && char == '\t') then
      let kept := if breaks = 0 then char :: blanks else blanks
      readFrom tabs rest line (column + 1) fresh breaks kept
    else ⟨blanks.reverse, breaks, here⟩

def read (tabs : Bool) (cursor : Cursor) : Gap :=
  readFrom tabs cursor.rest cursor.line cursor.column cursor.fresh 0 []

def isEmpty (gap : Gap) : Bool :=
  gap.blanks.isEmpty && gap.breaks = 0

def text (gap : Gap) : List Char :=
  match gap.breaks with
  | 0 => gap.blanks
  | 1 => [' ']
  | more + 1 => List.replicate more '\n'

end Gap

/-- A colon at this place ends a word: a space follows, or inside brackets a mark. -/
def colonEnds (flow : Bool) (rest : List Char) : Bool :=
  atSpace rest || (flow && rest.head?.any fun char => char ∈ [',', '[', ']', '\x7b', '\x7d'])

def flowMarks : List Char := [',', '?', '[', ']', '\x7b', '\x7d']

def takeWord (flow : Bool) : List Char → List Char × List Char
  | [] => ([], [])
  | char :: rest =>
    if isSpace char || (char == ':' && colonEnds flow rest) || (flow && char ∈ flowMarks) then
      ([], char :: rest)
    else
      let (word, left) := takeWord flow rest
      (char :: word, left)

def reserved : List Char :=
  ['-', '?', ':', ',', '[', ']', '\x7b', '\x7d', '#', '&', '*', '!', '|', '>', '\x27',
   '\x22', '%', '@', '\x60']

def startsPlain (flow : Bool) : List Char → Bool
  | [] => false
  | char :: rest =>
    (!isSpace char && char ∉ reserved) ||
      (!atSpace rest && (char == '-' || (!flow && (char == '?' || char == ':'))))

/-- Reads further words of a plain scalar; in a block, lines that go on stand at least
at the given column. -/
def morePlain (fuel : Nat) (flow : Bool) (minimum : Nat) (sofar : List Char)
    (cursor : Cursor) : List Char × Cursor :=
  match fuel with
  | 0 => (sofar, cursor)
  | fuel + 1 =>
    let gap := Gap.read false cursor
    let next := gap.cursor
    let (word, left) := takeWord flow next.rest
    if gap.isEmpty || word.isEmpty || next.rest.head? == some '#' || next.atMarker ||
        (!flow && next.column < minimum) then
      (sofar, next)
    else
      morePlain fuel flow minimum (sofar ++ gap.text ++ word) (next.moved left word.length)

def readPlain (flow : Bool) (minimum : Nat) (cursor : Cursor) : List Char × Cursor :=
  let (word, left) := takeWord flow cursor.rest
  morePlain cursor.rest.length flow minimum word (cursor.moved left word.length)

def escapes : List (Char × Nat) :=
  [('0', 0), ('a', 7), ('b', 8), ('t', 9), ('\t', 9), ('n', 10), ('v', 11), ('f', 12),
   ('r', 13), ('e', 27), (' ', 32), ('\x22', 34), ('/', 47), ('\x5c', 92), ('N', 0x85),
   ('_', 0xa0), ('L', 0x2028), ('P', 0x2029)]

/-- Numbers of hexadecimal digits behind an escape letter. -/
def escapeLengths : List (Char × Nat) := [('x', 2), ('u', 4), ('U', 8)]

def hexValue? (digits : List Char) : Option Nat :=
  digits.foldl (fun total char => total.bind fun value =>
    if char.isDigit then some (16 * value + (char.toNat - 48))
    else if 'a' ≤ char && char ≤ 'f' then some (16 * value + (char.toNat - 87))
    else if 'A' ≤ char && char ≤ 'F' then some (16 * value + (char.toNat - 55))
    else none) (some 0)

def readEscape? : List Char → Option (Char × List Char)
  | [] => none
  | letter :: rest =>
    match escapes.lookup letter, escapeLengths.lookup letter with
    | some code, _ => some (Char.ofNat code, rest)
    | none, some count =>
      if rest.length < count then none
      else (hexValue? (rest.take count)).bind fun code =>
        if code.isValidChar then some (Char.ofNat code, rest.drop count) else none
    | none, none => none

def readQuoted (fuel : Nat) (double : Bool) (sofar : List Char) (cursor : Cursor) :
    Option (List Char × Cursor) :=
  match fuel, cursor.rest with
  | 0, _ | _, [] => none
  | fuel + 1, char :: rest =>
    if isSpace char then
      let gap := Gap.read true cursor
      if gap.cursor.atMarker then none
      else readQuoted fuel double (sofar ++ gap.text) gap.cursor
    else if double then
      if char == '\x22' then some (sofar, cursor.moved rest 1)
      else if char == '\x5c' then
        match rest with
        | '\n' :: more =>
          let gap := Gap.read true ⟨more, cursor.line + 1, 0, true⟩
          if gap.cursor.atMarker then none
          else readQuoted fuel double (sofar ++ List.replicate gap.breaks '\n') gap.cursor
        | more =>
          (readEscape? more).bind fun (decoded, left) =>
            readQuoted fuel double (sofar ++ [decoded])
              (cursor.moved left (rest.length + 1 - left.length))
      else readQuoted fuel double (sofar ++ [char]) (cursor.moved rest 1)
    else if char == '\x27' then
      match rest with
      | '\x27' :: more => readQuoted fuel double (sofar ++ ['\x27']) (cursor.moved more 2)
      | more => some (sofar, cursor.moved more 1)
    else readQuoted fuel double (sofar ++ [char]) (cursor.moved rest 1)

end Microboard.Yaml
