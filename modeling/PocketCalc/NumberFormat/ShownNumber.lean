import PocketCalc.Number.Literal
import PocketCalc.NumberFormat.Basic
import PocketCalc.Text.Removal

/-!
# Showing a number and reading it back

A finite number is rounded to the decimals that the format keeps.  Its text is a minus sign for a
negative number that did not round to zero, the whole part in groups of three digits, and, if any
decimals are left when the zeros at the end are dropped, the decimal mark and those decimals.  Any
other number is shown as the format's error token.

To read a text, every copy of the group separator is removed, then the blanks at both ends; the
decimal mark stands for a point, and what is left must be a written number.
-/

namespace PocketCalc.NumberFormat

/-! ## Showing -/

/-- Digits in groups of three, counted from the right, with a separator between the groups: it
follows a digit when a positive multiple of three digits is still to come. -/
def group (separator : List Char) : List Char → List Char
  | [] => []
  | digit :: digits =>
      if digits.length % 3 = 0 ∧ digits ≠ [] then
        digit :: (separator ++ group separator digits)
      else
        digit :: group separator digits

/-- The decimal mark and the decimals, or nothing if there are none. -/
def showFraction (format : NumberFormat) (decimals : List Char) : List Char :=
  if decimals.isEmpty then [] else format.decimalMark :: decimals

/-- The text of a magnitude that was rounded to `count` steps of the last decimal. -/
def showCount (format : NumberFormat) (count : Nat) : List Char :=
  group format.groupSeparator.toList (Fixed.wholeDigits format.places count) ++
    showFraction format (Fixed.fractionDigits format.places count)

def showFinite (format : NumberFormat) (value : Float) : List Char :=
  let count := Fixed.count format.places value
  if Binary64.isNegative value && count != 0 then
    '-' :: showCount format count
  else
    showCount format count

def display (format : NumberFormat) (value : Float) : String :=
  if Binary64.isFinite value then
    String.ofList (showFinite format value)
  else
    format.errorToken

/-! ## Reading -/

/-- Write a point for the decimal mark. -/
def pointForMark (format : NumberFormat) (character : Char) : Char :=
  if character = format.decimalMark then '.' else character

/-- A text without group separators, outer blanks and decimal mark. -/
def plain (format : NumberFormat) (text : List Char) : List Char :=
  (Text.trim (Text.removeCopies format.groupSeparator.toList text)).map format.pointForMark

def read? (format : NumberFormat) (text : String) : Option Float :=
  Literal.read? (format.plain text.toList)

end PocketCalc.NumberFormat
