import Microboard.Decimal.Binary
import Microboard.Text.Blank
import Microboard.Text.Digit

/-!
# Written numbers

Reading integers and floats from text: blanks around the number, a sign, digits
of any script with single underscores between them.
-/

namespace Microboard.Decimal

def splitSign : List Char → Bool × List Char
  | '+' :: rest => (false, rest)
  | '-' :: rest => (true, rest)
  | rest => (false, rest)

/-- The digits that continue a number, where a single underscore may stand before
each of them, and what follows. -/
def moreDigits : List Char → List Nat × List Char
  | [] => ([], [])
  | '_' :: [] => ([], ['_'])
  | '_' :: char :: rest =>
    match Text.digit? char with
    | none => ([], '_' :: char :: rest)
    | some value =>
      let (digits, left) := moreDigits rest
      (value :: digits, left)
  | char :: rest =>
    match Text.digit? char with
    | none => ([], char :: rest)
    | some value =>
      let (digits, left) := moreDigits rest
      (value :: digits, left)

def takeDigits : List Char → List Nat × List Char
  | [] => ([], [])
  | char :: rest =>
    if char = '_' then ([], char :: rest) else moreDigits (char :: rest)

/-- An integer of more decimal digits is neither read nor written out. -/
def mostDigits : Nat := 4300

/-- The number of digits of an integer that is not read because it has too many of them;
what follows them is not looked at, unless it is an underscore in the wrong place. -/
def tooLong? (text : String) : Option Nat :=
  let (digits, left) := takeDigits (splitSign (Text.trim text.toList)).2
  if mostDigits < digits.length && left.head? != some '_' then some digits.length else none

def readInt? (text : String) : Option Int :=
  let (negative, body) := splitSign (Text.trim text.toList)
  match takeDigits body with
  | ([], _) => none
  | (digits, []) =>
    let value : Int := Text.digitsValue digits
    if mostDigits < digits.length then none else some (if negative then -value else value)
  | _ => none

/-- The float nearest to `significand * 10^exponent`. Beyond the range of floats
the answer is zero or infinity, whatever the exponent's size. -/
def scaled (significand : Nat) (exponent : Int) : Float :=
  let size : Int := (Nat.toDigits 10 significand).length + exponent
  if significand = 0 then 0.0
  else if 400 < size then 1.0 / 0.0
  else if size < -400 then 0.0
  else Float.ofScientific significand (exponent < 0) exponent.natAbs

/-- The exponent part of a float, when one is written; nothing for a bad one. -/
def readExponent? : List Char → Option Int
  | [] => some 0
  | char :: rest =>
    if char = 'e' || char = 'E' then
      let (negative, body) := splitSign rest
      match takeDigits body with
      | ([], _) => none
      | (digits, []) =>
        let value : Int := Text.digitsValue digits
        some (if negative then -value else value)
      | _ => none
    else none

def readMagnitude? (body : List Char) : Option Float :=
  let (whole, afterWhole) := takeDigits body
  let (fraction, left) :=
    match afterWhole with
    | '.' :: more => takeDigits more
    | other => ([], other)
  if whole.isEmpty && fraction.isEmpty then none
  else (readExponent? left).map fun exponent =>
    scaled (Text.digitsValue (whole ++ fraction)) (exponent - fraction.length)

def namedFloat? (body : List Char) : Option Float :=
  let name := String.ofList (body.map Char.toLower)
  if name = "inf" || name = "infinity" then some (1.0 / 0.0)
  else if name = "nan" then some (0.0 / 0.0)
  else none

/-- Reads a float in decimal notation, or one of the names of infinity and of the
value that is not a number. -/
def readFloat? (text : String) : Option Float :=
  let (negative, body) := splitSign (Text.trim text.toList)
  let magnitude := namedFloat? body <|> readMagnitude? body
  magnitude.map fun x => if negative then -x else x

end Microboard.Decimal
