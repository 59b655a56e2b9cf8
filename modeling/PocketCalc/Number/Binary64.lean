/-!
# Binary64 numbers as whole multiples of one unit

Every finite binary64 number is a whole multiple of `2 ^ -1074`, the least positive one.  Reading
and writing numbers is therefore done on natural numbers:

* a *magnitude word* is the 63-bit pattern left when the sign bit is dropped, and words are ordered
  as the magnitudes they stand for;
* `unitsOfWord` is the magnitude of a word, counted in units of `2 ^ -1074`;
* `wordOfRatio` rounds an exact quotient to the nearest word, and to infinity above the last one.

One rule of rounding is used wherever a value is cut to a grid, to words or to decimals: take the
nearest point of the grid, and of two equally near points the even one.  For a quotient and the
whole numbers it is `divHalfEven`.
-/

namespace PocketCalc.Number

/-- The whole number nearest to `numerator / denominator`; a half goes to the even neighbour. -/
def divHalfEven (numerator denominator : Nat) : Nat :=
  let quotient := numerator / denominator
  let twiceRemainder := 2 * (numerator % denominator)
  if twiceRemainder < denominator then
    quotient
  else if denominator < twiceRemainder then
    quotient + 1
  else
    quotient + quotient % 2

/-- A whole number is its own rounding. -/
@[simp]
theorem divHalfEven_mul_self
    (whole : Nat) {denominator : Nat} (positive : 0 < denominator) :
    divHalfEven (whole * denominator) denominator = whole := by
  simp [divHalfEven, positive]

end PocketCalc.Number

namespace PocketCalc.Binary64

open PocketCalc.Number

/-- The number of units in `1`. -/
def unitsPerOne : Nat :=
  Nat.pow 2 1074

/-- The weight of the lowest bit of the exponent field in a word. -/
def fractionSize : Nat :=
  0x10000000000000

/-- The weight of the sign bit, just above the words. -/
def signWeight : Nat :=
  0x8000000000000000

/-- The word of infinity.  Smaller words are finite, larger ones are not numbers. -/
def infinityWord : Nat :=
  2047 * fractionSize

/-! ## The parts of a number -/

/-- A number is negative when its sign bit is set; this includes negative zero. -/
def isNegative (value : Float) : Bool :=
  signWeight ≤ value.toBits.toNat

/-- The bits of a number without its sign. -/
def magnitudeWord (value : Float) : Nat :=
  value.toBits.toNat % signWeight

/-- Neither an infinity nor a NaN. -/
def isFinite (value : Float) : Bool :=
  magnitudeWord value < infinityWord

/-- The number whose sign and magnitude word are given. -/
def ofWord (negative : Bool) (word : Nat) : Float :=
  Float.ofBits (UInt64.ofNat (if negative then signWeight + word else word))

/-! ## Words and magnitudes -/

/-- The magnitude of a finite word in units of `2 ^ -1074`. -/
def unitsOfWord (word : Nat) : Nat :=
  if word < fractionSize then
    word
  else
    (fractionSize + word % fractionSize) * Nat.pow 2 (word / fractionSize - 1)

/-- The magnitude of a finite number in units of `2 ^ -1074`. -/
def units (value : Float) : Nat :=
  unitsOfWord (magnitudeWord value)

/-- The word nearest to `numerator / denominator`, a half going to the even word.  With the
quotient in units, `shift` low bits do not fit beside 53 significant ones; what is left after
rounding them off, added to the exponent steps, is the word, carries included. -/
def wordOfRatio (numerator denominator : Nat) : Nat :=
  let scaled := numerator * unitsPerOne
  let shift := (scaled / denominator).log2 - 52
  min infinityWord (shift * fractionSize + divHalfEven scaled (denominator * Nat.pow 2 shift))

end PocketCalc.Binary64
