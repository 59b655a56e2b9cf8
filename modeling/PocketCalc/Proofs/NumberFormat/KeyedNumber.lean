import PocketCalc.Proofs.NumberFormat.Reading

/-!
# Numbers as they are keyed in

The digits of a number and the place of its decimal mark are kept as they are written, so that the
same decimal may be written in several ways.  Written with the mark of a format, and with a minus
sign or without, the number is read as the binary64 number nearest to its decimal.
-/

namespace PocketCalc

open NumberFormat Literal

/-- A number as it is keyed in: the digits before the decimal mark and, if the mark is keyed in at
all, those behind it.  There is at least one digit. -/
structure KeyedNumber where
  whole : List (Fin 10)
  fraction? : Option (List (Fin 10))
  nonempty : whole ++ fraction?.getD [] ≠ []

namespace KeyedNumber

def digitCharacter (digit : Fin 10) : Char :=
  Nat.digitChar digit

def digits (number : KeyedNumber) : List (Fin 10) :=
  number.whole ++ number.fraction?.getD []

def places (number : KeyedNumber) : ℕ :=
  (number.fraction?.getD []).length

/-- The whole number that the digits stand for. -/
def numerator (number : KeyedNumber) : ℕ :=
  number.digits.foldl (fun (value : ℕ) (digit : Fin 10) => 10 * value + digit) 0

/-- The decimal that is keyed in. -/
def decimal (number : KeyedNumber) : ℚ :=
  number.numerator / 10 ^ number.places

/-- The number that the entry becomes. -/
def value (number : KeyedNumber) : Float :=
  Binary64.ofWord false (Binary64.wordOfRatio number.numerator (10 ^ number.places))

/-- The characters of the entry. -/
def characters (mark : Char) (number : KeyedNumber) : List Char :=
  number.whole.map digitCharacter ++
    markedFraction mark (number.fraction?.map (List.map digitCharacter))

/-! ## The entry as a number -/

@[simp]
theorem isDigit_digitCharacter (digit : Fin 10) : (digitCharacter digit).isDigit := by
  revert digit
  decide

@[simp]
theorem digitValue_digitCharacter (digit : Fin 10) :
    Digits.digitValue (digitCharacter digit) = digit := by
  revert digit
  decide

theorem isDigit_of_mem_map {digits : List (Fin 10)} {character : Char}
    (member : character ∈ digits.map digitCharacter) : character.isDigit := by
  obtain ⟨digit, _, rfl⟩ := List.mem_map.mp member
  exact isDigit_digitCharacter digit

theorem getD_map_digitCharacter (fraction? : Option (List (Fin 10))) :
    (fraction?.map (List.map digitCharacter)).getD [] =
      (fraction?.getD []).map digitCharacter := by
  cases fraction? with
  | none =>
      rfl
  | some fraction =>
      rfl

theorem toNat_digits (number : KeyedNumber) :
    Digits.toNat (number.digits.map digitCharacter) = number.numerator := by
  unfold Digits.toNat numerator
  simp only [List.foldl_map, digitValue_digitCharacter]

theorem isDigit_of_mem_fraction
    (number : KeyedNumber) {character : Char}
    (member : character ∈ (number.fraction?.map (List.map digitCharacter)).getD []) :
    character.isDigit := by
  rw [getD_map_digitCharacter] at member
  exact isDigit_of_mem_map member

theorem characters_ne_nil (mark : Char) (number : KeyedNumber) : number.characters mark ≠ [] := by
  intro empty
  obtain ⟨noWhole, noFraction⟩ := List.append_eq_nil_iff.mp empty
  apply number.nonempty
  rw [List.map_eq_nil_iff.mp noWhole, List.nil_append]
  cases fraction : number.fraction? with
  | none =>
      rfl
  | some digits =>
      rw [fraction] at noFraction
      exact absurd noFraction (List.cons_ne_nil _ _)

theorem count_mark_characters (format : NumberFormat) (number : KeyedNumber) :
    (number.characters format.decimalMark).count format.decimalMark ≤ 1 := by
  have noMark (digits : List (Fin 10)) :
      (digits.map digitCharacter).count format.decimalMark = 0 :=
    List.count_eq_zero.mpr (decimalMark_not_mem_digits fun _ => isDigit_of_mem_map)
  rw [characters, List.count_append, noMark, Nat.zero_add]
  cases number.fraction? with
  | none =>
      exact Nat.zero_le 1
  | some fraction =>
      rw [Option.map_some, markedFraction, List.count_cons_self, noMark]

end KeyedNumber

/-! ## Signs -/

/-- A keyed number with a minus sign in front of it, or without. -/
structure SignedNumber extends KeyedNumber where
  negative : Bool

namespace SignedNumber

open KeyedNumber

variable (number : SignedNumber)

def characters (mark : Char) : List Char :=
  (if number.negative then ['-'] else []) ++ number.toKeyedNumber.characters mark

def decimal : ℚ :=
  if number.negative then -number.toKeyedNumber.decimal else number.toKeyedNumber.decimal

/-- The number that the characters are read as. -/
def value : Float :=
  Binary64.ofWord number.negative
    (Binary64.wordOfRatio number.numerator (10 ^ number.places))

theorem value_isNearestNumber : Binary64.IsNearestNumber number.decimal number.value := by
  have nearest := Binary64.ofWord_isNearestNumber number.negative number.numerator
    (Nat.pow_pos (n := number.places) (by decide : 0 < 10))
  rw [Nat.cast_pow, Nat.cast_ofNat] at nearest
  exact nearest

theorem isNegative_value : Binary64.isNegative number.value = number.negative := by
  apply Binary64.isNegative_ofWord
  exact (Binary64.wordOfRatio_isNearest number.numerator (Nat.pow_pos (by decide))).1

variable {format : NumberFormat}

theorem isNumeralCharacter_of_mem
    {character : Char} (member : character ∈ number.characters format.decimalMark) :
    format.IsNumeralCharacter character :=
  isNumeralCharacter_of_mem_numeral (fun _ => isDigit_of_mem_map)
    (fun _ => number.isDigit_of_mem_fraction) member

/-- With a point for the mark the characters are those that the point belongs to. -/
theorem map_pointForMark_characters :
    (number.characters format.decimalMark).map format.pointForMark = number.characters '.' :=
  map_pointForMark_numeral number.negative (fun _ => isDigit_of_mem_map)
    (fun _ => number.isDigit_of_mem_fraction)

/-- What has only the characters left without its separators is read as the number. -/
theorem read?_characters
    {shown : String}
    (removed :
      Text.removeCopies format.groupSeparator.toList shown.toList =
        number.characters format.decimalMark) :
    format.read? shown = some number.value := by
  have allDigits :
      number.whole.map digitCharacter ++
          (number.fraction?.map (List.map digitCharacter)).getD [] =
        number.digits.map digitCharacter := by
    rw [getD_map_digitCharacter, digits, List.map_append]
  have someDigit : number.digits.map digitCharacter ≠ [] :=
    fun empty => number.nonempty (List.map_eq_nil_iff.mp empty)
  rw [read?_numeral number.negative (fun _ => isDigit_of_mem_map)
    (fun _ => number.isDigit_of_mem_fraction) (allDigits ▸ someDigit) removed, allDigits,
    toNat_digits, getD_map_digitCharacter, List.length_map]
  rfl

end SignedNumber

namespace KeyedNumber

/-- The number without a sign. -/
def unsigned (number : KeyedNumber) : SignedNumber :=
  { number with negative := false }

theorem value_isNearestNumber (number : KeyedNumber) :
    Binary64.IsNearestNumber number.decimal number.value :=
  number.unsigned.value_isNearestNumber

theorem isNegative_value (number : KeyedNumber) : Binary64.isNegative number.value = false :=
  number.unsigned.isNegative_value

/-- The characters of an entry are read as its number. -/
theorem read?_characters
    {format : NumberFormat} (readable : format.Readable) (number : KeyedNumber) :
    format.read? (String.ofList (number.characters format.decimalMark)) = some number.value := by
  apply number.unsigned.read?_characters
  rw [String.toList_ofList]
  exact Text.removeCopies_eq_self fun _ member =>
    (number.unsigned.isNumeralCharacter_of_mem member).not_mem_separator readable

end KeyedNumber

end PocketCalc
