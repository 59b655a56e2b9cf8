import Mathlib.Data.Set.List
import PocketCalc.Proofs.Number.WrittenNumber
import PocketCalc.Proofs.NumberFormat.KeyedNumber

/-!
# What is read as a number

Among the texts of digits, minus signs and decimal marks, those that are read are the signed
numbers: a minus sign in front or none, and digits with at most one mark among, before or behind
them.  Separators may stand anywhere in such a text, they are as good as absent.

That the signed numbers are read is known, so that what remains is to find the number in a text that
was read.  It is a written number.  A text without letters has no exponent and is not the name of a
number, which leaves the digits, the point and the digits behind it.
-/

namespace PocketCalc

open Literal

/-! ## Numbers with given digits -/

namespace KeyedNumber

theorem exists_digits {digits : List Char} (allDigits : ∀ digit ∈ digits, digit.isDigit) :
    ∃ keyed : List (Fin 10), keyed.map digitCharacter = digits := by
  have keyed (digit : Char) (member : digit ∈ digits) : digit ∈ Set.range digitCharacter := by
    have bounds : 48 ≤ digit.toNat ∧ digit.toNat ≤ 57 :=
      Char.isDigit_iff_toNat.mp (allDigits digit member)
    have small : digit.toNat - 48 < 10 := by omega
    refine ⟨⟨digit.toNat - 48, small⟩, Char.toNat_inj.mp ?_⟩
    rw [digitCharacter, Nat.toNat_digitChar_of_lt_ten small]
    omega
  have range : digits ∈ Set.range (List.map digitCharacter) := by
    rw [Set.range_list_map]
    exact keyed
  exact range

theorem exists_characters
    {whole : List Char} {fraction? : Option (List Char)}
    (wholeDigits : ∀ digit ∈ whole, digit.isDigit)
    (fractionDigits : ∀ digit ∈ fraction?.getD [], digit.isDigit)
    (nonempty : whole ++ fraction?.getD [] ≠ []) (mark : Char) :
    ∃ number : KeyedNumber, number.characters mark = whole ++ markedFraction mark fraction? := by
  obtain ⟨keyedWhole, rfl⟩ := exists_digits wholeDigits
  obtain ⟨keyedFraction?, rfl⟩ :
      ∃ keyed? : Option (List (Fin 10)), keyed?.map (List.map digitCharacter) = fraction? := by
    cases fraction? with
    | none =>
        exact ⟨none, rfl⟩
    | some fraction =>
        obtain ⟨keyed, rfl⟩ := exists_digits fractionDigits
        exact ⟨some keyed, rfl⟩
  have someDigit : keyedWhole ++ keyedFraction?.getD [] ≠ [] := by
    intro empty
    rw [getD_map_digitCharacter, ← List.map_append, empty] at nonempty
    exact nonempty rfl
  exact ⟨⟨keyedWhole, keyedFraction?, someDigit⟩, rfl⟩

end KeyedNumber

/-! ## Texts without letters -/

namespace Literal

/-- The characters of a numeral that is written with a point. -/
def IsPlainCharacter (character : Char) : Prop :=
  character.isDigit ∨ character = '-' ∨ character = '.'

theorem IsPlainCharacter.toNat_le
    {character : Char} (plain : IsPlainCharacter character) : character.toNat ≤ 57 := by
  rcases plain with digit | rfl | rfl
  · exact (Char.isDigit_iff_toNat.mp digit).2
  · decide
  · decide

theorem IsPlainCharacter.ne_plus
    {character : Char} (plain : IsPlainCharacter character) : character ≠ '+' := by
  rintro rfl
  unfold IsPlainCharacter at plain
  exact absurd plain (by decide)

theorem IsPlainCharacter.toLower_eq
    {character : Char} (plain : IsPlainCharacter character) : character.toLower = character := by
  have notUpper : ¬(character.val ≥ 'A'.val ∧ character.val ≤ 'Z'.val) := by
    rintro ⟨upper, _⟩
    exact absurd ((UInt32.le_iff_toNat_le.mp upper).trans plain.toNat_le) (by decide)
  exact dif_neg notUpper

variable {text : List Char} (plain : ∀ character ∈ text, IsPlainCharacter character)
include plain

/-- There is no letter for an exponent. -/
theorem eq_nil_of_isExponent (isExponent : IsExponent text) : text = [] := by
  cases isExponent with
  | absent =>
      rfl
  | marked isMarker isSign allDigits nonempty =>
      have low := (plain _ List.mem_cons_self).toNat_le
      rcases isMarker with rfl | rfl
      · exact absurd low (by decide)
      · exact absurd low (by decide)

/-- There is no letter for a name to begin with. -/
theorem not_isName : ¬IsName text := by
  intro isName
  have firstLetter := head?_of_mem_names isName
  cases text with
  | nil =>
      exact absurd firstLetter (by decide)
  | cons character text =>
      have isPlain := plain character List.mem_cons_self
      have low := isPlain.toNat_le
      rw [List.map_cons, List.head?_cons, isPlain.toLower_eq, Option.some.injEq,
        Option.some.injEq] at firstLetter
      rcases firstLetter with rfl | rfl
      · exact absurd low (by decide)
      · exact absurd low (by decide)

theorem exists_keyedNumber (isDecimal : IsDecimal text) :
    ∃ number : KeyedNumber, number.characters '.' = text := by
  cases isDecimal with
  | digits wholeDigits fractionDigits nonempty isExponent =>
      have nothing := eq_nil_of_isExponent
        (fun character member =>
          plain character (List.mem_append_right _ (List.mem_append_right _ member)))
        isExponent
      obtain ⟨number, characters⟩ :=
        KeyedNumber.exists_characters wholeDigits fractionDigits nonempty '.'
      exact ⟨number, by rw [characters, nothing, List.append_nil]⟩

theorem exists_signedNumber (written : IsWrittenNumber text) :
    ∃ number : SignedNumber, number.characters '.' = text := by
  cases written with
  | @decimal sign unsigned isSign isDecimal =>
      obtain ⟨number, characters⟩ := exists_keyedNumber
        (fun character member => plain character (List.mem_append_right sign member)) isDecimal
      rcases List.mem_cons.mp isSign with rfl | isMark
      · exact ⟨{ number with negative := false }, characters⟩
      rcases List.mem_pair.mp isMark with rfl | rfl
      · exact absurd rfl (plain '+' List.mem_cons_self).ne_plus
      · exact ⟨{ number with negative := true }, congrArg ('-' :: ·) characters⟩
  | @named sign unsigned isSign isName =>
      exact absurd isName
        (not_isName fun character member => plain character (List.mem_append_right sign member))

end Literal

namespace NumberFormat

variable {format : NumberFormat}

/-! ## Marks and points -/

/-- Write the decimal mark for a point. -/
def markForPoint (format : NumberFormat) (character : Char) : Char :=
  if character = '.' then format.decimalMark else character

theorem markForPoint_pointForMark
    {character : Char} (numeral : format.IsNumeralCharacter character) :
    format.markForPoint (format.pointForMark character) = character := by
  unfold pointForMark
  split
  · next isMark =>
      exact (if_pos rfl).trans isMark.symm
  · next notMark =>
      apply if_neg
      rintro rfl
      rcases numeral with digit | minus | mark
      · exact absurd digit (by decide)
      · exact absurd minus (by decide)
      · exact notMark mark

theorem isPlainCharacter_pointForMark
    {character : Char} (numeral : format.IsNumeralCharacter character) :
    IsPlainCharacter (format.pointForMark character) := by
  unfold pointForMark
  split
  · exact Or.inr (Or.inr rfl)
  · next notMark =>
      rcases numeral with digit | minus | mark
      · exact Or.inl digit
      · exact Or.inr (Or.inl minus)
      · exact absurd mark notMark

/-- Texts of numerals that are the same with points are the same. -/
theorem eq_of_map_pointForMark
    {first second : List Char}
    (firstNumeral : ∀ character ∈ first, format.IsNumeralCharacter character)
    (secondNumeral : ∀ character ∈ second, format.IsNumeralCharacter character)
    (same : first.map format.pointForMark = second.map format.pointForMark) :
    first = second := by
  have back {text : List Char}
      (numeral : ∀ character ∈ text, format.IsNumeralCharacter character) :
      (text.map format.pointForMark).map format.markForPoint = text := by
    have undone (character : Char) (member : character ∈ text) :
        (format.markForPoint ∘ format.pointForMark) character = id character := by
      rw [Function.comp_apply, markForPoint_pointForMark (numeral character member), id]
    rw [List.map_map, List.map_congr_left undone, List.map_id]
  rw [← back firstNumeral, same, back secondNumeral]

/-! ## Reading -/

/-- Reading takes the signed numbers and nothing else, and ignores separators.  Of a text of digits,
minus signs and decimal marks it is the same whether separators are put in or not; it gives a number
if and only if the text is a minus sign or none and digits with at most one mark, at least one digit
in all; and it then gives the number nearest to the decimal that is written, with its sign. -/
theorem read?_numerals
    (format : NumberFormat) (sound : format.fault? = none)
    (text : String) (numeral : ∀ character ∈ text.toList, format.IsNumeralCharacter character) :
    (∀ grouped : String,
        Text.WithCopies format.groupSeparator.toList text.toList grouped.toList →
          format.read? grouped = format.read? text) ∧
      ((format.read? text).isSome = true ↔
        ∃ number : SignedNumber, text.toList = number.characters format.decimalMark) ∧
      ∀ number : SignedNumber, text.toList = number.characters format.decimalMark →
        ∃ value, format.read? text = some value ∧
          Binary64.IsNearestNumber number.decimal value ∧
          Binary64.isNegative value = number.negative := by
  have readable := (fault?_eq_none_iff format).mp sound
  have foreign : ∀ character ∈ text.toList, character ∉ format.groupSeparator.toList :=
    fun character member => (numeral character member).not_mem_separator readable
  have alone := plain_of_removed numeral (Text.removeCopies_eq_self foreign)
  have reads (number : SignedNumber)
      (written : text.toList = number.characters format.decimalMark) :
      format.read? text = some number.value :=
    number.read?_characters ((Text.removeCopies_eq_self foreign).trans written)
  refine ⟨?_, ⟨?_, ?_⟩, ?_⟩
  · intro grouped copies
    rw [read?, read?, plain_of_removed numeral (copies.removeCopies_eq foreign), alone]
  · intro accepted
    rw [read?, alone] at accepted
    have plain : ∀ character ∈ text.toList.map format.pointForMark, IsPlainCharacter character := by
      rw [List.forall_mem_map]
      exact fun character member => isPlainCharacter_pointForMark (numeral character member)
    obtain ⟨number, characters⟩ :=
      exists_signedNumber plain ((isSome_read?_iff _).mp accepted)
    refine ⟨number, eq_of_map_pointForMark numeral (fun _ => number.isNumeralCharacter_of_mem) ?_⟩
    rw [number.map_pointForMark_characters, characters]
  · rintro ⟨number, written⟩
    rw [reads number written]
    rfl
  · intro number written
    exact ⟨number.value, reads number written, number.value_isNearestNumber,
      number.isNegative_value⟩

/-- A separator may begin as it ends, so that copies which stand together hide others across their
borders. -/
theorem read?_numerals_adjacentCopies :
    let format : NumberFormat := { groupSeparator := "e e", locale := "fr_FR" }
    format.fault? = none ∧
      (∀ character ∈ "-12,5".toList, format.IsNumeralCharacter character) ∧
      Text.WithCopies format.groupSeparator.toList "-12,5".toList "-e e1e ee e2,5e e".toList ∧
      format.read? "-e e1e ee e2,5e e" = some (-12.5) ∧
      ∃ value, format.read? "-12,5" = some value ∧
        Binary64.IsNearestNumber (-(125 / 10)) value ∧ Binary64.isNegative value = true := by
  intro format
  have sound : format.fault? = none := by
    decide
  have all : ("-12,5".toList.all fun character => format.IsNumeralCharacter character) = true := by
    decide
  have numeral : ∀ character ∈ "-12,5".toList, format.IsNumeralCharacter character :=
    fun character member => of_decide_eq_true (List.all_eq_true.mp all character member)
  have copies :
      Text.WithCopies format.groupSeparator.toList "-12,5".toList "-e e1e ee e2,5e e".toList := by
    have separator : format.groupSeparator.toList = ['e', ' ', 'e'] := by
      decide
    have plain : "-12,5".toList = ['-', '1', '2', ',', '5'] := by
      decide
    have grouped : "-e e1e ee e2,5e e".toList =
        ['-', 'e', ' ', 'e', '1', 'e', ' ', 'e', 'e', ' ', 'e', '2', ',', '5', 'e', ' ', 'e'] := by
      decide
    rw [separator, plain, grouped]
    exact .keep '-' (.insert (.keep '1' (.insert (.insert (.keep '2' (.keep ',' (.keep '5'
      (.insert .nil))))))))
  have written :
      "-12,5".toList =
        SignedNumber.characters ⟨⟨[1, 2], some [5], by decide⟩, true⟩ format.decimalMark := by
    decide
  have decimal : SignedNumber.decimal ⟨⟨[1, 2], some [5], by decide⟩, true⟩ = -(125 / 10) := by
    simp [SignedNumber.decimal, KeyedNumber.decimal, KeyedNumber.numerator, KeyedNumber.digits,
      KeyedNumber.places]
  obtain ⟨ungrouped, _, reads⟩ := read?_numerals format sound "-12,5" numeral
  have number := reads _ written
  rw [decimal] at number
  refine ⟨sound, numeral, copies, ?_, number⟩
  rw [ungrouped _ copies]
  decide +kernel

end NumberFormat

end PocketCalc
