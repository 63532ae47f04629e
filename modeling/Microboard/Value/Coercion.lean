import Microboard.Decimal.Numeral
import Microboard.Value.Equality
import Microboard.Value.Writing

/-!
# Coercions

How a value is taken as an index, a truth value, an integer, a float, a text or a
sequence, and what is objected to when it cannot be.
-/

namespace Microboard.Value

/-- The text of a value without looking at objects behind references. -/
def plain (value : Value) : String :=
  value.text bareText

theorem plain_str (text : String) : (str text).plain = text :=
  rfl

def exact (value : Value) : String :=
  value.repr bareText

/-- A value taken as an exact whole number: only integers and truth values are. -/
def index : Value → Except Complaint Int
  | bool value => .ok (if value then 1 else 0)
  | int value => .ok value
  | other => .error (.notAnIndex other.typeName)

/-- A whole number that keeps its spelling. -/
def whole : Value → Except Complaint Whole
  | bool value => .ok (.flag value)
  | int value => .ok (.number value)
  | other => .error (.notAnIndex other.typeName)

/-- Zero, nothing and empty things count as false. -/
def truthy : Value → Bool
  | none => false
  | bool value => value
  | int value => value != 0
  | float value => value != 0.0
  | str value => !value.isEmpty
  | list items => !items.isEmpty
  | tuple items => !items.isEmpty
  | dict entries => !entries.isEmpty
  | _ => true

/-- As much of a quoted text as a message about an integer shows. -/
def excerpt (quoted : String) : String :=
  String.ofList (quoted.toList.take 200)

/-- A value converted to an integer; digits behind the point are cut off. -/
def toInteger : Value → Except Complaint Int
  | bool value => .ok (if value then 1 else 0)
  | int value => .ok value
  | float value =>
    match Decimal.reading value with
    | .notANumber => .error .notANumberAsInteger
    | .infinite _ => .error .infinityAsInteger
    | .finite binary => .ok binary.truncate
  | other =>
    match other.word? with
    | some text =>
      match Decimal.readInt? text, Decimal.tooLong? text with
      | some value, _ => .ok value
      | Option.none, some count => .error (.tooManyDigitsRead count)
      | Option.none, Option.none => .error (.notAnInteger (excerpt (Text.quoted text)))
    | Option.none => .error (.notConvertible "int" other.typeName)

def toReal : Value → Except Complaint Float
  | float value => .ok value
  | other =>
    match other.number?, other.word? with
    | some (.whole value), _ =>
      match Decimal.ofInt? value with
      | some result => .ok result
      | Option.none => .error .tooLargeForFloat
    | _, some text =>
      match Decimal.readFloat? text with
      | some value => .ok value
      | Option.none => .error (.notAFloat (Text.quoted text))
    | _, _ => .error (.notConvertible "float" other.typeName)

def characters (text : String) : List Value :=
  text.toList.map fun char => str (String.singleton char)

def members : Value → Except Complaint (List Value)
  | list items => .ok items
  | tuple items => .ok items
  | dict entries => .ok (entries.map (·.1))
  | other =>
    match other.word? with
    | some text => .ok (characters text)
    | Option.none => .error (.notIterable other.typeName)

def size : Value → Except Complaint Nat
  | list items => .ok items.length
  | tuple items => .ok items.length
  | dict entries => .ok entries.length
  | other =>
    match other.word? with
    | some text => .ok text.length
    | Option.none => .error (.noLength other.typeName)

end Microboard.Value
