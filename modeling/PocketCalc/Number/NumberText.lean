import PocketCalc.Number.Shortest

/-!
# Plain texts of a number

Outside the screen a number is written by its shortest decimal, in one of two ways: `plain` never
uses an exponent and keeps no empty fraction; `tagged` always has a fraction or an exponent, and
takes the exponent below `10 ^ -4` and from `10 ^ 16` on.
-/

namespace PocketCalc.NumberText

open PocketCalc.Shortest

/-- The digits before the mark, `0` if there are none. -/
def wholeDigits (decimal : Decimal) : List Char :=
  if decimal.point ≤ 0 then
    ['0']
  else
    let width := decimal.point.toNat
    decimal.digits.take width ++ List.replicate (width - decimal.digits.length) '0'

def fractionDigits (decimal : Decimal) : List Char :=
  List.replicate (-decimal.point).toNat '0' ++ decimal.digits.drop decimal.point.toNat

/-- A positional decimal without an empty fraction. -/
def positional (decimal : Decimal) : List Char :=
  match fractionDigits decimal with
  | [] => wholeDigits decimal
  | fraction => wholeDigits decimal ++ '.' :: fraction

/-- A positional decimal that has a fraction of at least one digit. -/
def positionalWithFraction (decimal : Decimal) : List Char :=
  match fractionDigits decimal with
  | [] => wholeDigits decimal ++ ['.', '0']
  | fraction => wholeDigits decimal ++ '.' :: fraction

/-- One digit before the mark and a power of ten. -/
def scientific (decimal : Decimal) : List Char :=
  let mantissa :=
    match decimal.digits with
    | [] => []
    | [digit] => [digit]
    | digit :: digits => digit :: '.' :: digits
  mantissa ++ 'e' :: (toString (decimal.point - 1)).toList

/-- Zero has no shortest decimal; it is written with no digits at all. -/
def decimalOfWord (word : Nat) : Decimal :=
  if word = 0 then ⟨[], 0⟩ else Shortest.ofWord word

/-- The text of a number, given how the magnitude of a finite one is written. -/
def render (magnitude : Decimal → List Char) (value : Float) : String :=
  let word := Binary64.magnitudeWord value
  if Binary64.infinityWord < word then
    "NaN"
  else
    let unsigned :=
      if word = Binary64.infinityWord then "inf".toList else magnitude (decimalOfWord word)
    String.ofList (if Binary64.isNegative value then '-' :: unsigned else unsigned)

/-- The number without an exponent and without an empty fraction. -/
def plain (value : Float) : String :=
  render positional value

/-- The number with a fraction or an exponent. -/
def tagged (value : Float) : String :=
  render
    (fun decimal =>
      if decimal.point < -3 ∨ 16 < decimal.point then
        scientific decimal
      else
        positionalWithFraction decimal)
    value

end PocketCalc.NumberText
