import Microboard.Value.Equality
import Microboard.Yaml.Scalar
import Microboard.Yaml.Word

/-!
# Documents

Block and flow collections of scalars, read by recursive descent. A block collection
is known by the column of its keys or dashes; everything that belongs to an entry
stands to the right of it. A document that is not well formed has no value.
-/

namespace Microboard.Yaml

abbrev Read := Option (Value × Cursor)

/-- Only values that contain no others can be keys. -/
def isKey : Value → Bool
  | .list _ | .dict _ => false
  | _ => true

def atDash (cursor : Cursor) : Bool :=
  match cursor.rest with
  | '-' :: rest => atSpace rest
  | _ => false

def readScalar (flow : Bool) (minimum : Nat) (cursor : Cursor) : Read :=
  match cursor.rest with
  | '\x22' :: rest =>
    (readQuoted (rest.length + 1) true [] (cursor.moved rest 1)).map fun (text, left) =>
      (.str (String.ofList text), left)
  | '\x27' :: rest =>
    (readQuoted (rest.length + 1) false [] (cursor.moved rest 1)).map fun (text, left) =>
      (.str (String.ofList text), left)
  | rest =>
    if startsPlain flow rest then
      let (word, left) := readPlain flow minimum cursor
      (plainValue? word).map fun value => (value, left)
    else none

/-- The position behind the colon that makes a scalar of one line a key. -/
def afterColon? (flow : Bool) (start behind : Cursor) : Option Cursor :=
  let next := behind.skip
  match next.rest with
  | ':' :: rest =>
    if next.line = start.line && (flow || atSpace rest) then some (next.moved rest 1)
    else none
  | _ => none

mutual

def readFlow (fuel : Nat) (cursor : Cursor) : Read :=
  match fuel with
  | 0 => none
  | fuel + 1 =>
    match cursor.rest with
    | '[' :: rest => readFlowItems fuel [] (cursor.moved rest 1).skip
    | '\x7b' :: rest => readFlowEntries fuel [] (cursor.moved rest 1).skip
    | _ => readScalar true 0 cursor

def readFlowItems (fuel : Nat) (items : List Value) (cursor : Cursor) : Read :=
  match fuel with
  | 0 => none
  | fuel + 1 =>
    match cursor.rest with
    | ']' :: rest => some (.list items, cursor.moved rest 1)
    | _ =>
      (readFlow fuel cursor).bind fun (first, behind) =>
        let member : Read :=
          match afterColon? true cursor behind with
          | none => some (first, behind)
          | some colon =>
            if isKey first then
              (readFlowValue fuel colon.skip).map fun (value, left) =>
                (.dict [(first, value)], left)
            else none
        member.bind fun (item, left) =>
          let next := left.skip
          match next.rest with
          | ',' :: rest => readFlowItems fuel (items ++ [item]) (next.moved rest 1).skip
          | ']' :: rest => some (.list (items ++ [item]), next.moved rest 1)
          | _ => none

def readFlowEntries (fuel : Nat) (entries : Entries) (cursor : Cursor) : Read :=
  match fuel with
  | 0 => none
  | fuel + 1 =>
    match cursor.rest with
    | '\x7d' :: rest => some (.dict entries, cursor.moved rest 1)
    | _ =>
      (readFlow fuel cursor).bind fun (key, behind) =>
        let value : Read :=
          match afterColon? true cursor behind with
          | none => some (.none, behind)
          | some colon => readFlowValue fuel colon.skip
        value.bind fun (value, left) =>
          let next := left.skip
          if !isKey key then none
          else
            match next.rest with
            | ',' :: rest =>
              readFlowEntries fuel (Value.insertEntry entries key value) (next.moved rest 1).skip
            | '\x7d' :: rest =>
              some (.dict (Value.insertEntry entries key value), next.moved rest 1)
            | _ => none

def readFlowValue (fuel : Nat) (cursor : Cursor) : Read :=
  match fuel with
  | 0 => none
  | fuel + 1 =>
    match cursor.rest with
    | ',' :: _ | ']' :: _ | '\x7d' :: _ => some (.none, cursor)
    | _ => readFlow fuel cursor

end

mutual

/-- A value outside of brackets. Scalars that go on stand at least at column
`minimum`; only where `keys` holds may a block collection begin. -/
def readNode (fuel : Nat) (minimum : Nat) (keys : Bool) (cursor : Cursor) : Read :=
  match fuel with
  | 0 => none
  | fuel + 1 =>
    if atDash cursor then
      if keys then readItems fuel cursor.column [] cursor else none
    else
      match cursor.rest with
      | '[' :: _ | '\x7b' :: _ => readFlow (cursor.rest.length + 1) cursor
      | _ =>
        (readScalar false minimum cursor).bind fun (value, behind) =>
          match afterColon? false cursor behind with
          | none => some (value, behind)
          | some colon =>
            if keys then readEntry fuel cursor.column [] value colon else none

/-- The value of an entry whose key stands before a colon, and the entries behind it. -/
def readEntry (fuel : Nat) (column : Nat) (entries : Entries) (key : Value)
    (colon : Cursor) : Read :=
  match fuel with
  | 0 => none
  | fuel + 1 =>
    let next := colon.skip
    let value : Read :=
      if next.rest.isEmpty || next.atMarker then some (.none, next)
      else if !next.fresh then readNode fuel (column + 1) false next
      else if column < next.column then readNode fuel (column + 1) true next
      else if next.column = column && atDash next then readItems fuel column [] next
      else some (.none, next)
    value.bind fun (value, left) =>
      readEntries fuel column (Value.insertEntry entries key value) left

def readEntries (fuel : Nat) (column : Nat) (entries : Entries) (cursor : Cursor) : Read :=
  match fuel with
  | 0 => none
  | fuel + 1 =>
    let next := cursor.skip
    if next.rest.isEmpty || next.atMarker then some (.dict entries, next)
    else if !next.fresh || column < next.column then none
    else if next.column < column then some (.dict entries, next)
    else if atDash next then none
    else
      (readScalar false (column + 1) next).bind fun (key, behind) =>
        (afterColon? false next behind).bind fun colon =>
          readEntry fuel column entries key colon

def readItems (fuel : Nat) (column : Nat) (items : List Value) (cursor : Cursor) : Read :=
  match fuel with
  | 0 => none
  | fuel + 1 =>
    let next := (cursor.moved (cursor.rest.drop 1) 1).skip
    let item : Read :=
      if next.rest.isEmpty || next.atMarker then some (.none, next)
      else if !next.fresh || column < next.column then readNode fuel (column + 1) true next
      else some (.none, next)
    item.bind fun (item, left) =>
      let after := left.skip
      if after.rest.isEmpty || after.atMarker then some (.list (items ++ [item]), after)
      else if !after.fresh || column < after.column then none
      else if after.column = column && atDash after then
        readItems fuel column (items ++ [item]) after
      else some (.list (items ++ [item]), after)

end

def isPrintable (char : Char) : Bool :=
  let code := char.toNat
  code == 9 || code == 10 || code == 13 || (0x20 ≤ code && code ≤ 0x7e) || code == 0x85 ||
    (0xa0 ≤ code && code ≤ 0xd7ff) || (0xe000 ≤ code && code ≤ 0xfffd) || 0x10000 ≤ code

/-- All line ends written in one way. -/
def unifyLineEnds : List Char → List Char
  | [] => []
  | '\r' :: '\n' :: rest => '\n' :: unifyLineEnds rest
  | '\r' :: rest => '\n' :: unifyLineEnds rest
  | '\x85' :: rest => '\n' :: unifyLineEnds rest
  | char :: rest => char :: unifyLineEnds rest

/-- Nothing but layout follows, perhaps behind markers that end a document. -/
def atEnd (fuel : Nat) (cursor : Cursor) : Bool :=
  match fuel with
  | 0 => false
  | fuel + 1 =>
    let next := cursor.skip
    next.rest.isEmpty ||
      (next.atMarker && next.rest.head? == some '.' &&
        atEnd fuel (next.moved (next.rest.drop 3) 3))

def read? (text : String) : Option Value :=
  if !text.toList.all isPrintable then none
  else
    let document := unifyLineEnds text.toList
    let fuel := 4 * document.length + 8
    let first := (Cursor.start document).skip
    let explicit := first.atMarker && first.rest.head? == some '-'
    let body := if explicit then (first.moved (first.rest.drop 3) 3).skip else first
    if body.rest.isEmpty then some .none
    else if body.atMarker then if explicit && atEnd fuel body then some .none else none
    else
      (readNode fuel 0 body.fresh body).bind fun (value, left) =>
        if atEnd fuel left then some value else none

end Microboard.Yaml
