import Microboard.Decimal.Binary

/-!
# Shortest decimals

The fewest decimal digits that read back as a given float. A float stands for an
interval of reals, those that round to it; on the grid of decimals with `n`
digits only the two neighbours of its exact value can lie inside, and the first
grid with a hit gives the digits.
-/

namespace Microboard.Decimal

/-- A positive decimal: `digits` with the point before the first of them, times
`10^point`. -/
structure Digits where
  digits : List Nat
  point : Int
deriving DecidableEq

/-- An interval around a positive value; all three numbers are counted in units of
`numerator / denominator`. -/
structure Interval where
  low : Nat
  value : Nat
  high : Nat
  closed : Bool
  numerator : Nat
  denominator : Nat
deriving DecidableEq

/-- The reals that round to a positive binary fraction. Below a power of two the
next float is half as far as above it. -/
def Interval.around (significand : Nat) (exponent : Int) : Interval :=
  let near := significand = twoTo 52 && -1074 < exponent
  { low := if near then 4 * significand - 1 else 4 * significand - 2
    value := 4 * significand
    high := 4 * significand + 2
    closed := significand % 2 = 0
    numerator := twoTo (exponent - 2).toNat
    denominator := twoTo (2 - exponent).toNat }

def digitCount (n : Nat) : Nat :=
  if n = 0 then 0 else (Nat.toDigits 10 n).length

/-- The exponent `k` with `10^(k-1) ≤ num / den < 10^k`. -/
def magnitude (num den : Nat) : Int :=
  if den ≤ num then (digitCount (num / den) : Int)
  else 1 - (digitCount ((den - 1) / num) : Int)

def Interval.contains (interval : Interval) (count : Nat) (scale : Int) : Bool :=
  let point := count * tenTo scale.toNat * interval.denominator
  let unit := tenTo (-scale).toNat * interval.numerator
  if interval.closed then interval.low * unit ≤ point && point ≤ interval.high * unit
  else interval.low * unit < point && point < interval.high * unit

def significantDigits (n : Nat) : List Nat :=
  ((Nat.toDigits 10 n).reverse.dropWhile (· == '0')).reverse.map fun c => c.toNat - 48

/-- The decimals with `count` digits next to the value: the nearer one inside the
interval, the even one of two equally near. -/
def Interval.attempt (interval : Interval) (top : Int) (count : Nat) : Option Digits :=
  let scale := top - count
  let num := interval.value * interval.numerator * tenTo (-scale).toNat
  let den := interval.denominator * tenTo scale.toNat
  let below := num / den
  let above := below + 1
  let left := num - below * den
  let right := above * den - num
  let lowFirst := left < right || (left = right && below % 2 = 0)
  let order := if lowFirst then [below, above] else [above, below]
  (order.find? fun candidate => 0 < candidate && interval.contains candidate scale).map
    fun candidate => ⟨significantDigits candidate, digitCount candidate + scale⟩

/-- The shortest digits of a positive binary fraction; seventeen always suffice. -/
def shortest (significand : Nat) (exponent : Int) : Digits :=
  let interval := Interval.around significand exponent
  let top := magnitude (interval.value * interval.numerator) interval.denominator
  ((List.range 17).findSome? fun i => interval.attempt top (i + 1)).getD ⟨[], 0⟩

end Microboard.Decimal
