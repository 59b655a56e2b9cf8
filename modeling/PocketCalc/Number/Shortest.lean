import PocketCalc.Number.Binary64
import PocketCalc.Number.Digits

/-!
# The shortest decimal that reads back

A finite number stands for the interval of reals that round to it; both ends belong to it when its
word is even.  Among the decimals with one significant digit, then two, and so on up to
seventeen, the first that lie in the interval are sought, and of two the nearer is taken, the upper
one when they are equally near.
-/

namespace PocketCalc.Shortest

open PocketCalc.Binary64

/-- A positive decimal: `digits` behind the mark, times `10 ^ point`.  The first digit is not zero
and the last one is not zero. -/
structure Decimal where
  digits : List Char
  point : Int
  deriving DecidableEq, Repr

/-- The reals that round to one word, in quarters of the unit. -/
structure Interval where
  low : Nat
  value : Nat
  high : Nat
  closed : Bool

/-- The interval of a positive finite word.  The gap below a power of two is half the gap above it,
unless the gap above is already the least one. -/
def Interval.ofWord (word : Nat) : Interval :=
  let value := 4 * unitsOfWord word
  let gapAbove := unitsOfWord (word + 1) - unitsOfWord word
  let gapBelow := unitsOfWord word - unitsOfWord (word - 1)
  { low := value - 2 * gapBelow
    value := value
    high := value + 2 * gapAbove
    closed := word % 2 == 0 }

/-- Does `numerator / denominator`, in quarters of the unit, lie in the interval? -/
def Interval.contains (interval : Interval) (numerator denominator : Nat) : Bool :=
  if interval.closed then
    interval.low * denominator ≤ numerator && numerator ≤ interval.high * denominator
  else
    interval.low * denominator < numerator && numerator < interval.high * denominator

/-- The decimal `significand * 10 ^ exponent`. -/
def Decimal.ofScientific (significand : Nat) (exponent : Int) : Decimal :=
  let digits := Digits.ofNat significand
  { digits := Digits.trimTrailingZeros digits
    point := digits.length + exponent }

/-- How many digits a positive magnitude has before the mark; less than one counts the zeros that
follow the mark, downwards from zero. -/
def leadingPosition (units : Nat) : Int :=
  if unitsPerOne ≤ units then
    (Digits.ofNat (units / unitsPerOne)).length
  else
    1 - ((Digits.ofNat ((unitsPerOne - 1) / units)).length : Int)

/-- The neighbour of the value on the grid of `10 ^ exponent` that lies in the interval: the nearer
one if both do. -/
def neighbour? (interval : Interval) (exponent : Int) : Option Nat :=
  let up := Nat.pow 10 (-exponent).toNat
  let step := 4 * unitsPerOne * Nat.pow 10 exponent.toNat
  let value := interval.value * up
  let below := value / step
  let above := below + 1
  let belowFits := interval.contains (below * step) up
  let aboveFits := interval.contains (above * step) up
  if belowFits && (!aboveFits || 2 * value < (below + above) * step) then
    some below
  else if aboveFits then
    some above
  else
    none

/-- The shortest decimal of a positive finite word.  Seventeen digits always suffice. -/
def ofWord (word : Nat) : Decimal :=
  let interval := Interval.ofWord word
  let position := leadingPosition (unitsOfWord word)
  let found? := (List.range 17).findSome? fun index =>
    let exponent := position - (index + 1 : Nat)
    (neighbour? interval exponent).map (Decimal.ofScientific · exponent)
  found?.getD ⟨[], 0⟩

end PocketCalc.Shortest
