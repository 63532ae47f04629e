import Microboard.Decimal.Shortest

/-!
# Written floats

Where the point stands and when an exponent is written.
-/

namespace Microboard.Decimal

/-- The decisions of a float format: decimal exponents from `first` up to but not
including `bound` are written positionally, and an exponent has at least `width`
digits. -/
structure Layout where
  first : Int
  bound : Int
  width : Nat

/-- Positional between 0.0001 and 10^16, and two exponent digits otherwise. -/
def Layout.plain : Layout := ⟨-4, 16, 2⟩

def digitChar (digit : Nat) : Char :=
  Char.ofNat (48 + digit)

/-- A positive decimal with the point at its place and at least one digit after it. -/
def positional (number : Digits) : List Char :=
  let chars := number.digits.map digitChar
  if number.point ≤ 0 then
    '0' :: '.' :: List.replicate (-number.point).toNat '0' ++ chars
  else
    let whole := number.point.toNat
    let front := chars.take whole
    let back := chars.drop whole
    front ++ List.replicate (whole - chars.length) '0' ++
      '.' :: (if back.isEmpty then ['0'] else back)

def Layout.exponential (layout : Layout) (number : Digits) : List Char :=
  let exponent := number.point - 1
  let power := Nat.toDigits 10 exponent.natAbs
  let fill := List.replicate (layout.width - power.length) '0'
  let sign := if exponent < 0 then '-' else '+'
  let tail := 'e' :: sign :: fill ++ power
  match number.digits.map digitChar with
  | [] => tail
  | [char] => char :: tail
  | char :: rest => char :: '.' :: rest ++ tail

def Layout.digits (layout : Layout) (number : Digits) : List Char :=
  let exponent := number.point - 1
  if layout.first ≤ exponent && exponent < layout.bound then positional number
  else layout.exponential number

def Layout.write (layout : Layout) (x : Float) : String :=
  match reading x with
  | .notANumber => "nan"
  | .infinite negative => if negative then "-inf" else "inf"
  | .finite value =>
    let body :=
      if value.significand = 0 then ['0', '.', '0']
      else layout.digits (shortest value.significand value.exponent)
    String.ofList (if value.negative then '-' :: body else body)

/-- The text of a float: the fewest digits that read back as it. -/
def floatText (x : Float) : String :=
  Layout.plain.write x

end Microboard.Decimal
