/-!
# Binary fractions

The exact value of a floating-point number: its sign, and a natural number times
a power of two. Conversions to and from integers read it off or round into it.
-/

namespace Microboard.Decimal

def twoTo (exponent : Nat) : Nat :=
  Nat.pow 2 exponent

def tenTo (exponent : Nat) : Nat :=
  Nat.pow 10 exponent

/-- A number `(-1)^negative * significand * 2^exponent`. -/
structure Binary where
  negative : Bool
  significand : Nat
  exponent : Int
deriving DecidableEq

inductive Reading where
  | notANumber
  | infinite (negative : Bool)
  | finite (value : Binary)
deriving DecidableEq

def fractionField (x : Float) : Nat :=
  x.toBits.toNat % twoTo 52

def exponentField (x : Float) : Nat :=
  x.toBits.toNat / twoTo 52 % twoTo 11

def signField (x : Float) : Bool :=
  x.toBits.toNat / twoTo 63 = 1

def reading (x : Float) : Reading :=
  let field := exponentField x
  let fraction := fractionField x
  if field = 2047 then
    if fraction = 0 then .infinite (signField x) else .notANumber
  else if field = 0 then .finite ⟨signField x, fraction, -1074⟩
  else .finite ⟨signField x, twoTo 52 + fraction, (field : Int) - 1075⟩

/-- The magnitude of a binary fraction, rounded toward zero. -/
def Binary.floor (value : Binary) : Nat :=
  if 0 ≤ value.exponent then value.significand * twoTo value.exponent.toNat
  else value.significand / twoTo (-value.exponent).toNat

def Binary.truncate (value : Binary) : Int :=
  if value.negative then -(value.floor : Int) else value.floor

def Binary.isIntegral (value : Binary) : Bool :=
  0 ≤ value.exponent || value.significand % twoTo (-value.exponent).toNat = 0

/-- The float nearest to an integer, or nothing when the integer is too large. -/
def ofInt? (n : Int) : Option Float :=
  let magnitude := Float.ofScientific n.natAbs false 0
  if magnitude.isInf then none
  else some (if n < 0 then -magnitude else magnitude)

def agrees (x : Float) (n : Int) : Bool :=
  match reading x with
  | .finite value => value.isIntegral && value.truncate = n
  | _ => false

def below (x : Float) (n : Int) : Bool :=
  match reading x with
  | .notANumber => false
  | .infinite negative => negative
  | .finite value =>
    value.truncate < n || (value.negative && !value.isIntegral && value.truncate = n)

end Microboard.Decimal
