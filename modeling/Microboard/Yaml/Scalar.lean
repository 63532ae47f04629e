import Microboard.Decimal.Numeral
import Microboard.Value

/-!
# Plain scalars

What a word without quotes stands for: nothing, a truth value, an integer in one of
five notations, a float, or itself.
-/

namespace Microboard.Yaml

def allOf (test : Char → Bool) (chars : List Char) : Bool :=
  !chars.isEmpty && chars.all test

def digitBelow (base : Nat) (char : Char) : Bool :=
  char == '_' || ('0' ≤ char && char.toNat < 48 + base)

def hexDigit (char : Char) : Bool :=
  digitBelow 10 char || ('a' ≤ char && char ≤ 'f') || ('A' ≤ char && char ≤ 'F')

def digitValue (char : Char) : Nat :=
  if 'a' ≤ char then char.toNat - 87
  else if 'A' ≤ char then char.toNat - 55
  else char.toNat - 48

def valueIn (base : Nat) (chars : List Char) : Nat :=
  (chars.filter (· ≠ '_')).foldl (fun total char => base * total + digitValue char) 0

def decimalRun : List Char → Bool
  | [] => false
  | first :: rest => first.isDigit && rest.all (digitBelow 10)

/-- A part below sixty behind a colon. -/
def sixtieth : List Char → Bool
  | [one] => one.isDigit
  | [ten, one] => '0' ≤ ten && ten ≤ '5' && one.isDigit
  | _ => false

def colonParts : List Char → List (List Char)
  | [] => [[]]
  | ':' :: rest => [] :: colonParts rest
  | char :: rest =>
    match colonParts rest with
    | [] => [[char]]
    | part :: parts => (char :: part) :: parts

/-- A decimal number; nothing when it has more digits than are read. -/
def decimal? (chars : List Char) : Option Nat :=
  if Decimal.mostDigits < (chars.filter (· ≠ '_')).length then none else some (valueIn 10 chars)

/-- An unsigned integer; nothing inside when its digits are missing or too many. -/
def natural? : List Char → Option (Option Nat)
  | '0' :: 'b' :: digits =>
    if allOf (digitBelow 2) digits then
      some (if digits.all (· == '_') then none else some (valueIn 2 digits))
    else none
  | '0' :: 'x' :: digits =>
    if allOf hexDigit digits then
      some (if digits.all (· == '_') then none else some (valueIn 16 digits))
    else none
  | ['0'] => some (some 0)
  | '0' :: digits => if digits.all (digitBelow 8) then some (some (valueIn 8 digits)) else none
  | digits =>
    if decimalRun digits then some (decimal? digits)
    else
      match colonParts digits with
      | first :: second :: rest =>
        if decimalRun first && (second :: rest).all sixtieth then
          some ((decimal? first).map fun value =>
            (second :: rest).foldl (fun total part => 60 * total + valueIn 10 part) value)
        else none
      | _ => none

/-- An integer, given by whether it is negative and its magnitude. -/
def integer? (word : List Char) : Option (Option Int) :=
  let (negative, body) := Decimal.splitSign word
  (natural? body).map fun magnitude =>
    magnitude.map fun value => if negative then -(value : Int) else value

/-- The part of a float behind its point: digits, and an exponent with a sign. -/
def fractionTail (chars : List Char) : Bool :=
  match chars.dropWhile (digitBelow 10) with
  | [] => true
  | mark :: sign :: digits =>
    (mark == 'e' || mark == 'E') && (sign == '+' || sign == '-') &&
      allOf Char.isDigit digits
  | _ => false

def realValue (chars : List Char) : Option Float :=
  Decimal.readFloat? (String.ofList (chars.filter (· ≠ '_')))

def sexagesimal? (body : List Char) : Option Float :=
  let whole := body.takeWhile (· ≠ '.')
  let fraction := (body.dropWhile (· ≠ '.')).drop 1
  match colonParts whole, body.contains '.' with
  | first :: second :: rest, true =>
    if decimalRun first && (second :: rest).all sixtieth && fraction.all (digitBelow 10) then
      (realValue ((second :: rest).getLastD [] ++ '.' :: fraction)).bind fun last =>
        let heads := first :: (second :: rest).dropLast
        let step (total : Option (Float × Float)) (part : List Char) :=
          total.bind fun (sum, base) =>
            (realValue part).map fun value => (sum + value * base, base * 60.0)
        (heads.reverse.foldl step (some (0.0 + last * 1.0, 60.0))).map (·.1)
    else none
  | _, _ => none

/-- A float; a point and, in front of an exponent, a sign are required. -/
def float? (word : List Char) : Option Float :=
  let (negative, body) := Decimal.splitSign word
  let signed := word != body
  let text := String.ofList body
  let whole := body.takeWhile (· ≠ '.')
  let tail := (body.dropWhile (· ≠ '.')).drop 1
  let magnitude : Option Float :=
    if text = ".inf" || text = ".Inf" || text = ".INF" then some (1.0 / 0.0)
    else if !signed && (text = ".nan" || text = ".NaN" || text = ".NAN") then
      some (0.0 / 0.0)
    else if !body.contains '.' then none
    else if decimalRun whole && fractionTail tail then realValue body
    else if !signed && whole.isEmpty && (tail.head?.any Char.isDigit) && fractionTail tail then
      realValue body
    else sexagesimal? body
  magnitude.map fun value => if negative then -value else value

def truth? (word : String) : Option Bool :=
  if word ∈ ["yes", "Yes", "YES", "true", "True", "TRUE", "on", "On", "ON"] then some true
  else if word ∈ ["no", "No", "NO", "false", "False", "FALSE", "off", "Off", "OFF"] then
    some false
  else none

def isNull (word : String) : Bool :=
  word ∈ ["", "~", "null", "Null", "NULL"]

/-- The value of a plain scalar; nothing for a word that no value is made from. -/
def plainValue? (word : List Char) : Option Value :=
  let text := String.ofList word
  if isNull text then some .none
  else
    match truth? text, float? word, integer? word with
    | some value, _, _ => some (.bool value)
    | _, some value, _ => some (.float value)
    | _, _, some value => value.map .int
    | _, _, _ => if text = "=" then none else some (.str text)

end Microboard.Yaml
