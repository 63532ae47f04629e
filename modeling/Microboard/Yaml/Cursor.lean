/-!
# Reading positions

A position in a document: the characters to come, the line and the column, and
whether only blanks stand before it on its line. Layout is everything that a reader
may skip between two tokens: blanks, line ends and comments. A tab is not layout.
-/

namespace Microboard.Yaml

structure Cursor where
  rest : List Char
  line : Nat
  column : Nat
  fresh : Bool
deriving DecidableEq, Repr

/-- The character ends a word: a blank, a tab or a line end. -/
def isSpace (char : Char) : Bool :=
  char == ' ' || char == '\t' || char == '\n'

def atSpace : List Char → Bool
  | [] => true
  | char :: _ => isSpace char

namespace Cursor

/-- The start of a document; a byte-order mark is skipped. -/
def start (document : List Char) : Cursor :=
  match document with
  | '\ufeff' :: rest => ⟨rest, 0, 0, true⟩
  | other => ⟨other, 0, 0, true⟩

def moved (cursor : Cursor) (rest : List Char) (count : Nat) : Cursor :=
  { cursor with rest, column := cursor.column + count, fresh := false }

def skipFrom : List Char → (line column : Nat) → (fresh comment : Bool) → Cursor
  | [], line, column, fresh, _ => ⟨[], line, column, fresh⟩
  | char :: rest, line, column, fresh, comment =>
    if char == '\n' then skipFrom rest (line + 1) 0 true false
    else if comment || char == '#' then skipFrom rest line (column + 1) fresh true
    else if char == ' ' then skipFrom rest line (column + 1) fresh false
    else ⟨char :: rest, line, column, fresh⟩

def skip (cursor : Cursor) : Cursor :=
  skipFrom cursor.rest cursor.line cursor.column cursor.fresh false

/-- A line of three dashes or dots begins or ends a document. -/
def atMarker (cursor : Cursor) : Bool :=
  cursor.column == 0 &&
    match cursor.rest with
    | '-' :: '-' :: '-' :: rest => atSpace rest
    | '.' :: '.' :: '.' :: rest => atSpace rest
    | _ => false

end Cursor

end Microboard.Yaml
