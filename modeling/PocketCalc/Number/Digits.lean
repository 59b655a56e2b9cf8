import PocketCalc.Number.Binary64

/-!
# Decimal digits

Texts of digits and the natural numbers they stand for.  All digits are the ten ASCII ones.

With a fixed number of places, the magnitude of a finite number is rounded to a whole count of
`10 ^ -places`, exactly and to the nearest, a half going to the even count.  The count splits into a
whole part and the digits after the mark.
-/

namespace PocketCalc.Digits

/-- The digits of a number, without leading zeros; zero has one digit. -/
def ofNat (number : Nat) : List Char :=
  Nat.toDigits 10 number

/-- The last `width` digits of a number, with leading zeros where it is shorter. -/
def ofNatFixed : (width : Nat) → (number : Nat) → List Char
  | 0, _ => []
  | width + 1, number =>
      Nat.digitChar (number / Nat.pow 10 width % 10) :: ofNatFixed width number

def digitValue (digit : Char) : Nat :=
  digit.toNat - '0'.toNat

/-- The number that a text of digits stands for; the empty text stands for zero. -/
def toNat (digits : List Char) : Nat :=
  digits.foldl (fun value digit => 10 * value + digitValue digit) 0

def trimTrailingZeros (digits : List Char) : List Char :=
  (digits.reverse.dropWhile (· == '0')).reverse

@[simp]
theorem length_ofNatFixed (width number : Nat) :
    (ofNatFixed width number).length = width := by
  induction width with
  | zero =>
      rfl
  | succ width inductionHypothesis =>
      simp [ofNatFixed, inductionHypothesis]

end PocketCalc.Digits

namespace PocketCalc.Fixed

open PocketCalc.Number

/-- The magnitude of a finite number, rounded to a whole count of `10 ^ -places`. -/
def count (places : Nat) (value : Float) : Nat :=
  divHalfEven (Binary64.units value * Nat.pow 10 places) Binary64.unitsPerOne

def wholeDigits (places : Nat) (count : Nat) : List Char :=
  Digits.ofNat (count / Nat.pow 10 places)

/-- The digits after the decimal mark, zeros at the end removed. -/
def fractionDigits (places : Nat) (count : Nat) : List Char :=
  Digits.trimTrailingZeros (Digits.ofNatFixed places count)

end PocketCalc.Fixed
