/-!
# How numbers are shown

A number format holds what the user may choose: how many decimals are kept, what stands between
groups of three digits, the locale that decides the decimal mark, and the text shown in place of
a number that is not finite.
-/

namespace PocketCalc

structure NumberFormat where
  fractionMax : Nat := 6
  groupSeparator : String := " "
  locale : String := "en"
  errorToken : String := "Error"
  deriving DecidableEq, Repr

namespace NumberFormat

/-- Decimals beyond these say nothing about a binary64 number. -/
def fractionLimit : Nat :=
  15

def commaLanguages : List String :=
  ["fr", "de", "es", "it", "pt", "ru", "nl", "pl"]

/-- The language of a locale: what comes before the first `_` or `-`, in lower case. -/
def language (format : NumberFormat) : String :=
  String.ofList
    ((format.locale.toList.takeWhile fun character =>
      character != '_' && character != '-').map Char.toLower)

/-- The decimal mark of the locale: a comma for some languages and a point for all others. -/
def decimalMark (format : NumberFormat) : Char :=
  if format.language ∈ commaLanguages then ',' else '.'

def places (format : NumberFormat) : Nat :=
  min format.fractionMax fractionLimit

theorem decimalMark_eq_comma_or_point (format : NumberFormat) :
    format.decimalMark = ',' ∨ format.decimalMark = '.' := by
  unfold decimalMark
  split <;> simp

end NumberFormat

end PocketCalc
