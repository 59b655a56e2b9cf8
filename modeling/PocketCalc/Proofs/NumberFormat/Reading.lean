import PocketCalc.Config.Basic
import PocketCalc.NumberFormat.ShownNumber
import PocketCalc.Proofs.Number.Decimals

/-!
# Reading a numeral

A numeral consists of digits, a minus sign and the decimal mark.  In a format without fault the
group separator shares no character with numerals, however long it is and whatever else it is made
of.  Removing its copies therefore takes out the separators that `group` put in and nothing more,
and the rest is read as a written number.
-/

namespace PocketCalc

namespace Text

theorem removeCopies_cons
    {copy : List Char} {character : Char} (foreign : character ∉ copy) (rest : List Char) :
    removeCopies copy (character :: rest) = character :: removeCopies copy rest := by
  cases copy with
  | nil =>
      rfl
  | cons first others =>
      have differs : (first == character) = false := by
        rw [beq_eq_false_iff_ne]
        rintro rfl
        exact foreign List.mem_cons_self
      have noCopy : (first :: others).isPrefixOf (character :: rest) = false := by
        rw [List.isPrefixOf, differs, Bool.false_and]
      simp only [removeCopies, List.isEmpty_cons, Bool.false_eq_true, if_false]
      rw [removeFrom, if_neg (by rw [noCopy]; decide)]

theorem removeCopies_nil (copy : List Char) : removeCopies copy [] = [] := by
  cases copy with
  | nil =>
      rfl
  | cons first others =>
      rfl

/-- The longer text has whole copies of a text put in between the characters of the other one, in
front of them or behind them. -/
inductive WithCopies (copy : List Char) : (text longer : List Char) → Prop where
  | nil : WithCopies copy [] []
  | insert {text longer : List Char} (rest : WithCopies copy text longer) :
      WithCopies copy text (copy ++ longer)
  | keep (character : Char) {text longer : List Char} (rest : WithCopies copy text longer) :
      WithCopies copy (character :: text) (character :: longer)

theorem withCopies_self (copy text : List Char) : WithCopies copy text text := by
  induction text with
  | nil =>
      exact .nil
  | cons character text inductionHypothesis =>
      exact .keep character inductionHypothesis

section Removal

variable {copy text longer : List Char}

/-- Removing the copies leaves the characters between which they were put in. -/
theorem WithCopies.removeCopies_append
    (copies : WithCopies copy text longer) (foreign : ∀ character ∈ text, character ∉ copy)
    (rest : List Char) :
    removeCopies copy (longer ++ rest) = text ++ removeCopies copy rest := by
  induction copies with
  | nil =>
      rfl
  | insert _ inductionHypothesis =>
      by_cases empty : copy = []
      · subst empty
        exact inductionHypothesis foreign
      · rw [List.append_assoc, removeCopies_copy_append empty, inductionHypothesis foreign]
  | keep character _ inductionHypothesis =>
      rw [List.cons_append, removeCopies_cons (foreign character List.mem_cons_self),
        inductionHypothesis fun later member => foreign later (List.mem_cons_of_mem _ member),
        List.cons_append]

theorem WithCopies.removeCopies_eq
    (copies : WithCopies copy text longer) (foreign : ∀ character ∈ text, character ∉ copy) :
    removeCopies copy longer = text := by
  have removed := copies.removeCopies_append foreign []
  rw [removeCopies_nil, List.append_nil, List.append_nil] at removed
  exact removed

theorem removeCopies_append
    (foreign : ∀ character ∈ text, character ∉ copy) (rest : List Char) :
    removeCopies copy (text ++ rest) = text ++ removeCopies copy rest :=
  (withCopies_self copy text).removeCopies_append foreign rest

theorem removeCopies_eq_self (foreign : ∀ character ∈ text, character ∉ copy) :
    removeCopies copy text = text :=
  (withCopies_self copy text).removeCopies_eq foreign

end Removal

theorem trim_eq_self
    {text : List Char} (visible : ∀ character ∈ text, isBlank character = false) :
    trim text = text := by
  have keep {part : List Char} (members : ∀ character ∈ part, character ∈ text) :
      part.dropWhile isBlank = part := by
    cases part with
    | nil =>
        rfl
    | cons first rest =>
        have shown := visible first (members first List.mem_cons_self)
        rw [List.dropWhile_cons_of_neg (by rw [shown]; decide)]
  rw [trim, keep fun _ member => member, keep fun _ member => List.mem_reverse.mp member,
    List.reverse_reverse]

end Text

namespace NumberFormat

open Literal

/-! ## Formats without fault -/

/-- What a number format has to offer for numbers to be shown and read back. -/
structure Readable (format : NumberFormat) : Prop where
  fewDecimals : format.fractionMax ≤ fractionLimit
  separatorNotDigit : ∀ character ∈ format.groupSeparator.toList, character.isDigit = false
  separatorNotMinus : '-' ∉ format.groupSeparator.toList
  separatorNotMark : format.decimalMark ∉ format.groupSeparator.toList
  tokenVisible : Text.isBlankText format.errorToken.toList = false

theorem fault?_eq_none_iff (format : NumberFormat) : format.fault? = none ↔ format.Readable := by
  unfold fault?
  constructor
  · intro sound
    split_ifs at sound with decimals characters mark token
    simp only [List.any_eq_true, not_exists, not_and, Bool.or_eq_true,
      decide_eq_true_eq] at characters
    refine ⟨Nat.le_of_not_lt decimals, ?_, ?_, mark, Bool.eq_false_iff.mpr token⟩
    · intro character member
      exact Bool.eq_false_iff.mpr fun digit => characters character member (Or.inl digit)
    · intro member
      exact characters '-' member (Or.inr rfl)
  · intro readable
    rw [if_neg (Nat.not_lt.mpr readable.fewDecimals), if_neg, if_neg readable.separatorNotMark,
      if_neg (by rw [readable.tokenVisible]; decide)]
    simp only [List.any_eq_true, not_exists, not_and, Bool.or_eq_true, decide_eq_true_eq, not_or]
    intro character member
    refine ⟨by rw [readable.separatorNotDigit character member]; decide, ?_⟩
    rintro rfl
    exact readable.separatorNotMinus member

/-! ## Numerals -/

variable {format : NumberFormat}

/-- The characters of which numerals consist. -/
def IsNumeralCharacter (format : NumberFormat) (character : Char) : Prop :=
  character.isDigit ∨ character = '-' ∨ character = format.decimalMark

instance (format : NumberFormat) : DecidablePred format.IsNumeralCharacter :=
  fun character =>
    inferInstanceAs
      (Decidable (character.isDigit ∨ character = '-' ∨ character = format.decimalMark))

theorem IsNumeralCharacter.not_mem_separator
    {character : Char} (numeral : format.IsNumeralCharacter character)
    (readable : format.Readable) :
    character ∉ format.groupSeparator.toList := by
  intro member
  rcases numeral with digit | rfl | rfl
  · rw [readable.separatorNotDigit character member] at digit
    exact absurd digit (by decide)
  · exact readable.separatorNotMinus member
  · exact readable.separatorNotMark member

theorem IsNumeralCharacter.isBlank_eq_false
    {character : Char} (numeral : format.IsNumeralCharacter character) :
    Text.isBlank character = false := by
  rcases numeral with digit | rfl | rfl
  · have bounds : 48 ≤ character.toNat ∧ character.toNat ≤ 57 :=
      Char.isDigit_iff_toNat.mp digit
    simp only [Text.isBlank, Text.blankRanges, List.any_cons, List.any_nil, Bool.or_eq_false_iff,
      Bool.and_eq_false_iff, decide_eq_false_iff_not, Nat.not_le, and_true]
    omega
  · decide
  · rcases format.decimalMark_eq_comma_or_point with comma | point
    · rw [comma]
      decide
    · rw [point]
      decide

/-- Where the separators are removed and only a numeral is left, there is nothing to trim. -/
theorem plain_of_removed
    {text shown : List Char} (numeral : ∀ character ∈ text, format.IsNumeralCharacter character)
    (removed : Text.removeCopies format.groupSeparator.toList shown = text) :
    format.plain shown = text.map format.pointForMark := by
  have visible (character : Char) (member : character ∈ text) : Text.isBlank character = false :=
    (numeral character member).isBlank_eq_false
  rw [plain, removed, Text.trim_eq_self visible]

/-- All that `group` puts in between the digits are separators. -/
theorem group_withCopies (separator digits : List Char) :
    Text.WithCopies separator digits (group separator digits) := by
  induction digits with
  | nil =>
      exact .nil
  | cons digit digits inductionHypothesis =>
      rw [group]
      split
      · exact .keep digit (.insert inductionHypothesis)
      · exact .keep digit inductionHypothesis

/-- The sign of a numeral, its digits, and behind the mark, if there is one, more digits. -/
def numeral (mark : Char) (negative : Bool) (whole : List Char) (fraction? : Option (List Char)) :
    List Char :=
  (if negative then ['-'] else []) ++ (whole ++ markedFraction mark fraction?)

theorem isNumeralCharacter_of_mem_numeral
    {negative : Bool} {whole : List Char} {fraction? : Option (List Char)}
    (wholeDigits : ∀ digit ∈ whole, digit.isDigit)
    (fractionDigits : ∀ digit ∈ fraction?.getD [], digit.isDigit)
    {character : Char}
    (member : character ∈ numeral format.decimalMark negative whole fraction?) :
    format.IsNumeralCharacter character := by
  rcases List.mem_append.mp member with sign | unsigned
  · cases negative with
    | true =>
        exact Or.inr (Or.inl (List.mem_singleton.mp sign))
    | false =>
        exact absurd sign List.not_mem_nil
  rcases List.mem_append.mp unsigned with inWhole | behind
  · exact Or.inl (wholeDigits character inWhole)
  cases fraction? with
  | none =>
      exact absurd behind List.not_mem_nil
  | some fraction =>
      rcases List.mem_cons.mp behind with mark | inFraction
      · exact Or.inr (Or.inr mark)
      · exact Or.inl (fractionDigits character inFraction)

theorem foreign_of_mem_numeral
    (readable : format.Readable)
    (negative : Bool) {whole : List Char} {fraction? : Option (List Char)}
    (wholeDigits : ∀ digit ∈ whole, digit.isDigit)
    (fractionDigits : ∀ digit ∈ fraction?.getD [], digit.isDigit) :
    ∀ character ∈ numeral format.decimalMark negative whole fraction?,
      character ∉ format.groupSeparator.toList :=
  fun _ member =>
    (isNumeralCharacter_of_mem_numeral wholeDigits fractionDigits member).not_mem_separator readable

/-- What is left of a numeral with grouped digits. -/
theorem removeCopies_grouped
    (readable : format.Readable)
    {negative : Bool} {whole : List Char} {fraction? : Option (List Char)}
    (wholeDigits : ∀ digit ∈ whole, digit.isDigit)
    (fractionDigits : ∀ digit ∈ fraction?.getD [], digit.isDigit) :
    Text.removeCopies format.groupSeparator.toList
        ((if negative then ['-'] else []) ++
          (group format.groupSeparator.toList whole ++
            markedFraction format.decimalMark fraction?)) =
      numeral format.decimalMark negative whole fraction? := by
  have foreign := foreign_of_mem_numeral readable negative wholeDigits fractionDigits
  rw [Text.removeCopies_append fun character member =>
      foreign character (List.mem_append_left _ member),
    (group_withCopies _ whole).removeCopies_append fun digit member =>
      foreign digit (List.mem_append_right _ (List.mem_append_left _ member)),
    Text.removeCopies_eq_self fun character member =>
      foreign character (List.mem_append_right _ (List.mem_append_right _ member))]
  rfl

theorem map_pointForMark_eq_self
    {text : List Char} (noMark : format.decimalMark ∉ text) :
    text.map format.pointForMark = text := by
  have keep (character : Char) (member : character ∈ text) :
      format.pointForMark character = id character := by
    apply if_neg
    rintro rfl
    exact noMark member
  rw [List.map_congr_left keep, List.map_id]

theorem decimalMark_not_mem_digits
    {digits : List Char} (allDigits : ∀ digit ∈ digits, digit.isDigit) :
    format.decimalMark ∉ digits := by
  intro member
  have digit := allDigits format.decimalMark member
  rcases format.decimalMark_eq_comma_or_point with comma | point
  · rw [comma] at digit
    exact absurd digit (by decide)
  · rw [point] at digit
    exact absurd digit (by decide)

theorem map_pointForMark_numeral
    (negative : Bool) {whole : List Char} {fraction? : Option (List Char)}
    (wholeDigits : ∀ digit ∈ whole, digit.isDigit)
    (fractionDigits : ∀ digit ∈ fraction?.getD [], digit.isDigit) :
    (numeral format.decimalMark negative whole fraction?).map format.pointForMark =
      numeral '.' negative whole fraction? := by
  have sign : format.decimalMark ∉ if negative then ['-'] else [] := by
    rcases format.decimalMark_eq_comma_or_point with mark | mark <;>
      cases negative <;> simp [mark]
  have fraction :
      (markedFraction format.decimalMark fraction?).map format.pointForMark =
        markedFraction '.' fraction? := by
    cases fraction? with
    | none =>
        rfl
    | some fraction =>
        have mark : format.pointForMark format.decimalMark = '.' := if_pos rfl
        have digits : ∀ digit ∈ fraction, digit.isDigit := fractionDigits
        rw [markedFraction, List.map_cons, mark,
          map_pointForMark_eq_self (decimalMark_not_mem_digits digits)]
        rfl
  rw [numeral, List.map_append, List.map_append, map_pointForMark_eq_self sign,
    map_pointForMark_eq_self (decimalMark_not_mem_digits wholeDigits), fraction]
  rfl

/-- A text that is a numeral when its separators are removed is read as the number nearest to the
numeral's value. -/
theorem read?_numeral
    (negative : Bool) {whole : List Char} {fraction? : Option (List Char)}
    (wholeDigits : ∀ digit ∈ whole, digit.isDigit)
    (fractionDigits : ∀ digit ∈ fraction?.getD [], digit.isDigit)
    (nonempty : whole ++ fraction?.getD [] ≠ [])
    {shown : String}
    (removed :
      Text.removeCopies format.groupSeparator.toList shown.toList =
        numeral format.decimalMark negative whole fraction?) :
    format.read? shown =
      some
        (Binary64.ofWord negative
          (Binary64.wordOfRatio (Digits.toNat (whole ++ fraction?.getD []))
            (10 ^ (fraction?.getD []).length))) := by
  have numeralCharacters (character : Char)
      (member : character ∈ numeral format.decimalMark negative whole fraction?) :
      format.IsNumeralCharacter character :=
    isNumeralCharacter_of_mem_numeral wholeDigits fractionDigits member
  rw [read?, plain_of_removed numeralCharacters removed,
    map_pointForMark_numeral negative wholeDigits fractionDigits]
  exact read?_written negative wholeDigits fractionDigits nonempty

/-! ## Nothing shown is blank -/

theorem mem_group {separator digits : List Char} {digit : Char} (member : digit ∈ digits) :
    digit ∈ group separator digits := by
  induction digits with
  | nil =>
      exact absurd member List.not_mem_nil
  | cons first digits inductionHypothesis =>
      rw [group]
      rcases List.mem_cons.mp member with rfl | later
      · split <;> exact List.mem_cons_self
      · split
        · exact List.mem_cons_of_mem _ (List.mem_append_right _ (inductionHypothesis later))
        · exact List.mem_cons_of_mem _ (inductionHypothesis later)

theorem isBlankText_display (readable : format.Readable) (value : Float) :
    Text.isBlankText (format.display value).toList = false := by
  unfold display
  split
  · obtain ⟨digit, member⟩ := List.exists_mem_of_ne_nil _
      (Digits.ofNat_ne_nil (Fixed.count format.places value / 10 ^ format.places))
    have numeral : format.IsNumeralCharacter digit :=
      Or.inl (Digits.isDigit_of_mem_ofNat member)
    have shown : digit ∈ showFinite format value := by
      have counted : digit ∈ showCount format (Fixed.count format.places value) :=
        List.mem_append_left _ (mem_group member)
      unfold showFinite
      dsimp only
      split
      · exact List.mem_cons_of_mem _ counted
      · exact counted
    rw [String.toList_ofList, Text.isBlankText, List.all_eq_false]
    exact ⟨digit, shown, by rw [numeral.isBlank_eq_false]; decide⟩
  · exact readable.tokenVisible

end NumberFormat

namespace Config

theorem IsSound.readable {config : Config} (sound : config.IsSound) : config.format.Readable :=
  (NumberFormat.fault?_eq_none_iff config.format).mp (Option.or_eq_none_iff.mp sound).1

end Config

end PocketCalc
