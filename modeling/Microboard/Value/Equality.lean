import Microboard.Decimal.Binary
import Microboard.Value

/-!
# Equality of values

Two values are equal when they mean the same: numbers of different kinds compare by
their amount, a button or a pin kind equals its name, dictionaries ignore the order
of their entries, records compare field by field, and objects only equal themselves.
Identity is finer: it tells two records with equal fields apart.
-/

namespace Microboard

def Number.equals : Number → Number → Bool
  | .whole left, .whole right => left == right
  | .whole left, .real right => Decimal.agrees right left
  | .real left, .whole right => Decimal.agrees left right
  | .real left, .real right => left == right

def Number.isNegative : Number → Bool
  | .whole value => decide (value < 0)
  | .real value => value < 0.0

def Event.equals : Event → Event → Bool
  | .ledChange x y value, .ledChange x' y' value' =>
    x.toInt == x'.toInt && y.toInt == y'.toInt && value == value'
  | left, right => left == right

/-- Snapshots with the same pins, LEDs and latches, in whatever order the pins stand. -/
def Snapshot.equals (left right : Snapshot) : Bool :=
  left.pins.length == right.pins.length &&
    left.pins.all (fun entry => right.pins.lookup entry.1 == some entry.2) &&
    left.leds == right.leds && left.buttons == right.buttons

def TimingConfig.equals (left right : TimingConfig) : Bool :=
  left.forever.equals right.forever && left.scroll.equals right.scroll

def BoardConfig.equals (left right : BoardConfig) : Bool :=
  left.boardName == right.boardName && left.pins == right.pins &&
    left.display == right.display && left.buttons == right.buttons &&
    left.timing.equals right.timing

namespace Value

/-- The number that a value stands for; a truth value counts as zero or one. -/
def number? : Value → Option Number
  | bool value => some (.whole (if value then 1 else 0))
  | int value => some (.whole value)
  | float value => some (.real value)
  | _ => Option.none

/-- The text that a value is; a button or a pin kind is its name. -/
def word? : Value → Option String
  | str value => some value
  | button value => some value.name
  | pinKind value => some value.name
  | _ => Option.none

/-- Equality of everything but numbers, texts and containers. -/
def sameRecord : Value → Value → Bool
  | none, none => true
  | lifecycle left, lifecycle right => left == right
  | event left _, event right _ => left.equals right
  | levels left _, levels right _ => left == right
  | snapshot left _, snapshot right _ => left.equals right
  | boardConfig left leftId, boardConfig right rightId =>
    leftId == rightId || left.equals right
  | pinsConfig left, pinsConfig right => left == right
  | displayConfig left, displayConfig right => left == right
  | timingConfig left, timingConfig right => left.equals right
  | fault _ left, fault _ right => left == right
  | callback left, callback right => left == right
  | type left, type right => left == right
  | method left, method right => left == right
  | space left group, space right group' => left == right && group == group'
  | clock left, clock right => left == right
  | hardware left, hardware right => left == right
  | bus left, bus right => left == right
  | token owner left, token other right => owner == other && left == right
  | table left, table right => left == right
  | handle left, handle right => left == right
  | scheduler left, scheduler right => left == right
  | dispatcher left, dispatcher right => left == right
  | bridge left, bridge right => left == right
  | scroller left, scroller right => left == right
  | board left, board right => left == right
  | registry left, registry right => left == right
  | keeper left, keeper right => left == right
  | _, _ => false

def sameAtom (left right : Value) : Bool :=
  match left.number?, right.number? with
  | some left, some right => left.equals right
  | _, _ =>
    match left.word?, right.word? with
    | some left, some right => left == right
    | _, _ => sameRecord left right

mutual

def equals : Value → Value → Bool
  | list left, list right => equalItems left right
  | tuple left, tuple right => equalItems left right
  | dict left, dict right => left.length == right.length && entriesWithin left right
  | left, right => sameAtom left right

def equalItems : List Value → List Value → Bool
  | [], [] => true
  | left :: lefts, right :: rights => equals left right && equalItems lefts rights
  | _, _ => false

def entriesWithin : List (Value × Value) → List (Value × Value) → Bool
  | [], _ => true
  | (key, value) :: rest, others =>
    others.any (fun other => equals key other.1 && equals value other.2) &&
      entriesWithin rest others

end

def isObject : Value → Bool
  | clock _ | hardware _ | bus _ | token .. | table _ | handle _ | scheduler _
  | dispatcher _ | bridge _ | scroller _ | board _ | registry _ | keeper _ => true
  | _ => false

/-- The same object: records are told apart by their identity. -/
def same : Value → Value → Bool
  | none, none => true
  | bool left, bool right => left == right
  | int left, int right => left == right
  | str left, str right => left == right
  | button left, button right => left == right
  | pinKind left, pinKind right => left == right
  | event _ left, event _ right => left == right
  | levels _ left, levels _ right => left == right
  | snapshot _ left, snapshot _ right => left == right
  | boardConfig _ left, boardConfig _ right => left == right
  | fault _ left, fault _ right => left == right
  | lifecycle left, lifecycle right => left == right
  | callback left, callback right => left == right
  | type left, type right => left == right
  | left, right => left.typeName == right.typeName && isObject left && sameRecord left right

def lookup? (entries : Entries) (key : Value) : Option Value :=
  (entries.find? fun entry => entry.1.equals key).map (·.2)

/-- Adds an entry; a repeated key keeps its place and takes the new value. -/
def insertEntry (entries : Entries) (key value : Value) : Entries :=
  if entries.any fun entry => entry.1.equals key then
    entries.map fun entry => if entry.1.equals key then (entry.1, value) else entry
  else entries ++ [(key, value)]

end Value

end Microboard
