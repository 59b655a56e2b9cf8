import PocketCalc.Number.Literal
import PocketCalc.Toml.Quoted
import PocketCalc.Toml.Value

/-!
# TOML values without parts

Strings, booleans, numbers, dates and times.  A number may have underscores, each between two
digits; integers have 64 bits; a date must exist in the calendar.
-/

namespace PocketCalc.Toml.Scalar

open Quoted (push)

/-! ## Digits -/

/-- The digits that follow a digit, underscores between them left out. -/
def moreDigits (isDigit : Char → Bool) : Reader (List Char)
  | [] => some ([], [])
  | ['_'] => none
  | '_' :: digit :: rest =>
      if isDigit digit then push digit (moreDigits isDigit rest) else none
  | character :: rest =>
      if isDigit character then
        push character (moreDigits isDigit rest)
      else
        some ([], character :: rest)

def digits? (isDigit : Char → Bool) : Reader (List Char)
  | [] => none
  | digit :: rest => if isDigit digit then push digit (moreDigits isDigit rest) else none

/-- The digits of a decimal whole number, which has no leading zero. -/
def wholeDigits? : Reader (List Char)
  | '0' :: rest => some (['0'], rest)
  | text => digits? Char.isDigit text

/-- The value of digits in a base. -/
def valueInBase (base : Nat) (digits : List Char) : Nat :=
  digits.foldl (fun value digit => base * value + (Quoted.hexDigit? digit).getD 0) 0

/-! ## Numbers -/

/-- An integer, if it fits 64 bits. -/
def integer? (number : Int) : Option Value :=
  if -0x8000000000000000 ≤ number ∧ number < 0x8000000000000000 then
    some (.integer number)
  else
    none

/-- An integer in another base, behind its marker. -/
def basedInteger? (base : Nat) : Reader Value := fun text => do
  let isDigit := fun character =>
    match Quoted.hexDigit? character with
    | some digit => digit < base
    | none => false
  let (digits, rest) ← digits? isDigit text
  let value ← integer? (valueInBase base digits : Int)
  return (value, rest)

/-- The digits behind a point; none without a point. -/
def fraction? : Reader (List Char)
  | '.' :: rest => digits? Char.isDigit rest
  | text => some ([], text)

/-- The exponent behind its marker; zero without one. -/
def exponent? : Reader Int
  | marker :: rest =>
      if marker = 'e' ∨ marker = 'E' then do
        let (negative, unsigned) := Literal.splitSign rest
        let (digits, rest) ← digits? Char.isDigit unsigned
        let size : Int := Digits.toNat digits
        return (if negative then -size else size, rest)
      else
        some (0, marker :: rest)
  | [] => some (0, [])

/-- A decimal number behind its sign.  With a fraction or an exponent it is a float, which must not
exceed the largest finite one; otherwise it is an integer. -/
def decimal? (negative : Bool) : Reader Value := fun text => do
  let (whole, afterWhole) ← wholeDigits? text
  let (fraction, afterFraction) ← fraction? afterWhole
  let (exponent, rest) ← exponent? afterFraction
  if rest.length = afterWhole.length then
    let size : Int := Digits.toNat whole
    let value ← integer? (if negative then -size else size)
    return (value, rest)
  else
    let word := Literal.wordOfDecimal (whole ++ fraction) (exponent - fraction.length)
    if !negative && word = Binary64.infinityWord then
      none
    else
      return (.float (Binary64.ofWord negative word), rest)

/-- A number behind its sign: infinite, not a number, or decimal. -/
def number? (negative : Bool) : Reader Value
  | 'i' :: 'n' :: 'f' :: rest =>
      some (.float (Binary64.ofWord negative Binary64.infinityWord), rest)
  | 'n' :: 'a' :: 'n' :: rest =>
      some (.float (Binary64.ofWord negative (Binary64.infinityWord + 1)), rest)
  | text => decimal? negative text

/-! ## Dates and times -/

/-- Two digits whose value lies in a range. -/
def twoDigits? (least greatest : Nat) : Reader Nat
  | first :: second :: rest =>
      let value := Digits.toNat [first, second]
      if first.isDigit && second.isDigit && least ≤ value && value ≤ greatest then
        some (value, rest)
      else
        none
  | _ => none

def expect? (expected : Char) : List Char → Option (List Char)
  | character :: rest => if character = expected then some rest else none
  | [] => none

/-- The number of days in a month. -/
def daysInMonth (year month : Nat) : Nat :=
  if month = 2 then
    if year % 4 = 0 ∧ (year % 100 ≠ 0 ∨ year % 400 = 0) then 29 else 28
  else if month ∈ [4, 6, 9, 11] then
    30
  else
    31

/-- Does the text start with four digits and a hyphen, as a date does? -/
def startsDate : List Char → Bool
  | first :: second :: third :: fourth :: '-' :: _ =>
      [first, second, third, fourth].all Char.isDigit
  | _ => false

/-- Does the text start with an hour and a colon, as a time does? -/
def startsTime (text : List Char) : Bool :=
  match twoDigits? 0 23 text with
  | some (_, ':' :: _) => true
  | _ => false

/-- What follows a date. -/
def afterDate? (text : List Char) : Option (List Char) := do
  let year := Digits.toNat (text.take 4)
  let (month, rest) ← twoDigits? 1 12 (text.drop 5)
  let rest ← expect? '-' rest
  let (_, rest) ← twoDigits? 1 (daysInMonth year month) rest
  return rest

/-- What follows a time of day, which has seconds and may have a fraction of them. -/
def afterTime? (text : List Char) : Option (List Char) := do
  let (_, rest) ← twoDigits? 0 23 text
  let rest ← expect? ':' rest
  let (_, rest) ← twoDigits? 0 59 rest
  let rest ← expect? ':' rest
  let (_, rest) ← twoDigits? 0 60 rest
  match rest with
  | '.' :: digit :: rest =>
      if digit.isDigit then return rest.dropWhile Char.isDigit else none
  | _ => return rest

/-- What follows an offset from universal time; there may be none. -/
def afterOffset? : List Char → Option (List Char)
  | [] => some []
  | character :: rest =>
      if character = 'Z' ∨ character = 'z' then
        some rest
      else if character = '+' ∨ character = '-' then do
        let (_, rest) ← twoDigits? 0 23 rest
        let rest ← expect? ':' rest
        let (_, rest) ← twoDigits? 0 59 rest
        return rest
      else
        some (character :: rest)

/-- What follows a date that may have a time behind it. -/
def afterDateTime? (text : List Char) : Option (List Char) := do
  let rest ← afterDate? text
  match rest with
  | delimiter :: behind =>
      if delimiter ∈ ['T', 't', ' '] ∧ startsTime behind then do
        let behind ← afterTime? behind
        afterOffset? behind
      else
        return rest
  | [] => return []

/-- A date, a time, or both. -/
def dateTime? (text : List Char) : Option (Value × List Char) := do
  let rest ← if startsDate text then afterDateTime? text else afterTime? text
  return (.dateTime (String.ofList (text.take (text.length - rest.length))), rest)

/-! ## All of them -/

def scalar? : Reader Value
  | 't' :: 'r' :: 'u' :: 'e' :: rest => some (.boolean true, rest)
  | 'f' :: 'a' :: 'l' :: 's' :: 'e' :: rest => some (.boolean false, rest)
  | '0' :: 'x' :: rest => basedInteger? 16 rest
  | '0' :: 'o' :: rest => basedInteger? 8 rest
  | '0' :: 'b' :: rest => basedInteger? 2 rest
  | '+' :: rest => number? false rest
  | '-' :: rest => number? true rest
  | '"' :: rest => (Quoted.string? ('"' :: rest)).map fun (text, rest) => (.string text, rest)
  | '\'' :: rest => (Quoted.string? ('\'' :: rest)).map fun (text, rest) => (.string text, rest)
  | text => if startsDate text || startsTime text then dateTime? text else number? false text

end PocketCalc.Toml.Scalar
