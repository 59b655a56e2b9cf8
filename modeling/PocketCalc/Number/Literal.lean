import PocketCalc.Number.Binary64
import PocketCalc.Number.Digits

/-!
# Reading a written number

The grammar of a written number, all letters in either case:

* an optional sign `+` or `-`;
* then `inf`, `infinity` or `nan`, or
* digits with at most one point among, before or after them, at least one digit in all, and an
  optional exponent: `e`, an optional sign, and at least one digit.

The value is the binary64 number nearest to the decimal, a half going to the even word; a decimal
beyond the largest finite number is infinite.
-/

namespace PocketCalc.Literal

/-- The word nearest to the decimal with these digits, times `10 ^ exponent`.  Decimals from
`10 ^ 400` on are above every finite number, and those below `10 ^ -400` are nearest to zero, so
that no larger power is ever computed. -/
def wordOfDecimal (digits : List Char) (exponent : Int) : Nat :=
  let significand := Digits.toNat digits
  if significand = 0 then
    0
  else if 400 ≤ exponent then
    Binary64.infinityWord
  else if exponent + digits.length ≤ -400 then
    0
  else if 0 ≤ exponent then
    Binary64.wordOfRatio (significand * Nat.pow 10 exponent.toNat) 1
  else
    Binary64.wordOfRatio significand (Nat.pow 10 (-exponent).toNat)

/-- A leading sign, `true` for minus, and what follows it. -/
def splitSign : List Char → Bool × List Char
  | '+' :: rest => (false, rest)
  | '-' :: rest => (true, rest)
  | unsigned => (false, unsigned)

/-- The exponent that ends a number; no text at all stands for exponent zero. -/
def exponent? : List Char → Option Int
  | [] => some 0
  | marker :: rest =>
      if marker == 'e' || marker == 'E' then
        let (negative, digits) := splitSign rest
        if digits.isEmpty || !digits.all Char.isDigit then
          none
        else if negative then
          some (-(Digits.toNat digits : Int))
        else
          some (Digits.toNat digits : Int)
      else
        none

/-- The digits after a leading point, if there is one, and what follows them. -/
def splitFraction : List Char → List Char × List Char
  | '.' :: rest => (rest.takeWhile Char.isDigit, rest.dropWhile Char.isDigit)
  | rest => ([], rest)

def decimalWord? (text : List Char) : Option Nat :=
  let whole := text.takeWhile Char.isDigit
  let (fraction, rest) := splitFraction (text.dropWhile Char.isDigit)
  if whole.isEmpty && fraction.isEmpty then
    none
  else
    (exponent? rest).map fun exponent =>
      wordOfDecimal (whole ++ fraction) (exponent - fraction.length)

/-- The word of a named number: an infinity or NaN. -/
def namedWord? (text : List Char) : Option Nat :=
  let lower := text.map Char.toLower
  if lower = "inf".toList ∨ lower = "infinity".toList then
    some Binary64.infinityWord
  else if lower = "nan".toList then
    some (Binary64.infinityWord + Binary64.fractionSize / 2)
  else
    none

/-- The number written by the whole of a text. -/
def read? (text : List Char) : Option Float :=
  let (negative, unsigned) := splitSign text
  ((decimalWord? unsigned).or (namedWord? unsigned)).map (Binary64.ofWord negative)

end PocketCalc.Literal
