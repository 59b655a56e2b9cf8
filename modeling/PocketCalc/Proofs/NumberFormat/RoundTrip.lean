import PocketCalc.Proofs.NumberFormat.Reading

/-!
# Reading back what is shown

A shown number is read back as the number nearest to the decimal that was shown.  The decimal is
itself the nearest one to the number, with as many places as the format keeps, so that a number
with no more places than that comes back unchanged.  Only the sign of a zero is lost.
-/

namespace PocketCalc.NumberFormat

open Literal

variable {format : NumberFormat}

/-- The decimals that are shown, if there are any. -/
def shownFraction? (places count : ℕ) : Option (List Char) :=
  if (Fixed.fractionDigits places count).isEmpty then
    none
  else
    some (Fixed.fractionDigits places count)

theorem getD_shownFraction? (places count : ℕ) :
    (shownFraction? places count).getD [] = Fixed.fractionDigits places count := by
  unfold shownFraction?
  split
  · next empty => exact (List.isEmpty_iff.mp empty).symm
  · rfl

theorem isDigit_of_mem_wholeDigits
    {places count : ℕ} {digit : Char} (member : digit ∈ Fixed.wholeDigits places count) :
    digit.isDigit :=
  Digits.isDigit_of_mem_ofNat member

theorem isDigit_of_mem_fractionDigits
    {places count : ℕ} {digit : Char} (member : digit ∈ Fixed.fractionDigits places count) :
    digit.isDigit := by
  obtain ⟨zeros, padded⟩ := Digits.trimTrailingZeros_append (Digits.ofNatFixed places count)
  have fixed : digit ∈ Digits.ofNatFixed places count := by
    rw [← padded]
    exact List.mem_append_left _ member
  exact Digits.isDigit_of_mem_ofNatFixed fixed

theorem isDigit_of_mem_shownFraction?
    {places count : ℕ} {digit : Char} (member : digit ∈ (shownFraction? places count).getD []) :
    digit.isDigit := by
  rw [getD_shownFraction?] at member
  exact isDigit_of_mem_fractionDigits member

/-- Is a minus sign shown? -/
def showsMinus (places : ℕ) (value : Float) : Bool :=
  Binary64.isNegative value && Fixed.count places value != 0

theorem display_of_not_isFinite {value : Float} (notFinite : Binary64.isFinite value = false) :
    format.display value = format.errorToken := by
  rw [display, notFinite]
  rfl

/-- A finite number is shown as its sign and its rounded magnitude. -/
theorem display_of_isFinite {value : Float} (finite : Binary64.isFinite value) :
    format.display value =
      String.ofList
        ((if showsMinus format.places value then ['-'] else []) ++
          showCount format (Fixed.count format.places value)) := by
  have shown :
      showFinite format value =
        (if showsMinus format.places value then ['-'] else []) ++
          showCount format (Fixed.count format.places value) := by
    unfold showFinite showsMinus
    dsimp only
    split <;> rfl
  rw [display, if_pos finite, shown]

/-- Without its group separators a shown number is a numeral. -/
theorem removeCopies_display
    (readable : format.Readable) {value : Float} (finite : Binary64.isFinite value) :
    Text.removeCopies format.groupSeparator.toList (format.display value).toList =
      numeral format.decimalMark (showsMinus format.places value)
        (Fixed.wholeDigits format.places (Fixed.count format.places value))
        (shownFraction? format.places (Fixed.count format.places value)) := by
  have fraction :
      showFraction format (Fixed.fractionDigits format.places (Fixed.count format.places value)) =
        markedFraction format.decimalMark
          (shownFraction? format.places (Fixed.count format.places value)) := by
    unfold showFraction shownFraction?
    split <;> rfl
  rw [display_of_isFinite finite, String.toList_ofList, showCount, fraction]
  exact removeCopies_grouped readable (fun _ => isDigit_of_mem_wholeDigits)
    (fun _ => isDigit_of_mem_shownFraction?)

/-- The number that a shown number is read as. -/
def readBack (places : ℕ) (value : Float) : Float :=
  let count := Fixed.count places value
  Binary64.ofWord (showsMinus places value)
    (Binary64.wordOfRatio
      (Digits.toNat (Fixed.wholeDigits places count ++ Fixed.fractionDigits places count))
      (10 ^ (Fixed.fractionDigits places count).length))

theorem read?_display_eq
    (readable : format.Readable) {value : Float} (finite : Binary64.isFinite value) :
    format.read? (format.display value) = some (readBack format.places value) := by
  have nonempty :
      Fixed.wholeDigits format.places (Fixed.count format.places value) ++
        (shownFraction? format.places (Fixed.count format.places value)).getD [] ≠ [] := by
    intro empty
    exact Digits.ofNat_ne_nil _ (List.append_eq_nil_iff.mp empty).1
  rw [read?_numeral _ (fun _ => isDigit_of_mem_wholeDigits)
    (fun _ => isDigit_of_mem_shownFraction?) nonempty (removeCopies_display readable finite),
    getD_shownFraction?]
  rfl

/-! ## What comes back -/

theorem readBack_isNearestNumber (places : ℕ) (value : Float) :
    Binary64.IsNearestNumber ((Fixed.signedCount places value : ℚ) / 10 ^ places)
      (readBack places value) := by
  have nearest := Binary64.ofWord_isNearestNumber (showsMinus places value)
    (Digits.toNat
      (Fixed.wholeDigits places (Fixed.count places value) ++
        Fixed.fractionDigits places (Fixed.count places value)))
    (Nat.pow_pos (n := (Fixed.fractionDigits places (Fixed.count places value)).length)
      (by decide : 0 < 10))
  have decimal :
      (if showsMinus places value then -((Fixed.count places value : ℚ) / 10 ^ places)
        else (Fixed.count places value : ℚ) / 10 ^ places) =
        (Fixed.signedCount places value : ℚ) / 10 ^ places := by
    unfold showsMinus Fixed.signedCount
    generalize Fixed.count places value = count
    cases Binary64.isNegative value with
    | false =>
        simp
    | true =>
        by_cases zero : count = 0
        · simp [zero]
        · simp [zero, neg_div]
  rw [Nat.cast_pow, Nat.cast_ofNat, Fixed.fixedDigits_value, decimal] at nearest
  exact nearest

theorem readBack_word_lt
    (places : ℕ) {value : Float} (finite : Binary64.isFinite value) :
    Binary64.wordOfRatio
        (Digits.toNat
          (Fixed.wholeDigits places (Fixed.count places value) ++
            Fixed.fractionDigits places (Fixed.count places value)))
        (10 ^ (Fixed.fractionDigits places (Fixed.count places value)).length) <
      Binary64.infinityWord := by
  apply Binary64.wordOfRatio_lt_infinityWord _ (Nat.pow_pos (by decide))
  rw [Nat.cast_pow, Nat.cast_ofNat, Fixed.fixedDigits_value]
  exact Fixed.count_le_largest places finite

theorem isFinite_readBack
    (places : ℕ) {value : Float} (finite : Binary64.isFinite value) :
    Binary64.isFinite (readBack places value) := by
  have word := readBack_word_lt places finite
  rw [Binary64.isFinite, readBack, Binary64.magnitudeWord_ofWord _ word.le]
  exact decide_eq_true word

theorem isNegative_readBack
    (places : ℕ) {value : Float} (finite : Binary64.isFinite value) :
    Binary64.isNegative (readBack places value) = showsMinus places value :=
  Binary64.isNegative_ofWord _ (readBack_word_lt places finite).le

theorem isNumeric_of_isFinite {value : Float} (finite : Binary64.isFinite value) :
    Binary64.magnitudeWord value ≤ Binary64.infinityWord :=
  (Binary64.magnitudeWord_lt_of_isFinite finite).le

/-- A number that is shown as zero comes back as the positive zero. -/
theorem readBack_eq_zero
    {places : ℕ} {value : Float} (finite : Binary64.isFinite value)
    (zero : Fixed.signedCount places value = 0) :
    readBack places value = 0.0 := by
  have noSteps : Fixed.count places value = 0 := by
    unfold Fixed.signedCount at zero
    split at zero <;> omega
  have nearest := readBack_isNearestNumber places value
  rw [zero, Int.cast_zero, zero_div] at nearest
  have zeroValue : Binary64.exactValue 0.0 = 0 := by
    rw [Binary64.exactValue, Binary64.magnitudeWord_zero.1, Binary64.isNegative_zero.1,
      if_neg (by decide), Binary64.wordValue_zero]
  have zeroNumeric : Binary64.magnitudeWord 0.0 ≤ Binary64.infinityWord := by
    rw [Binary64.magnitudeWord_zero.1]
    exact Nat.zero_le _
  have noMinus : Binary64.isNegative (readBack places value) = false := by
    rw [isNegative_readBack places finite, showsMinus, noSteps, bne_self_eq_false, Bool.and_false]
  have back := Binary64.eq_zero_of_exactValue
    (isNumeric_of_isFinite (isFinite_readBack places finite))
    (nearest.point_eq zeroNumeric zeroValue)
  rw [noMinus] at back
  exact back

/-- A number that lies on the decimals comes back, unless it is the negative zero. -/
theorem readBack_eq_self
    {places : ℕ} {value : Float} (finite : Binary64.isFinite value)
    (onGrid : ∃ whole : ℤ, (whole : ℚ) / 10 ^ places = Binary64.exactValue value)
    (notNegativeZero : value ≠ -0.0) :
    readBack places value = value := by
  obtain ⟨whole, grid⟩ := onGrid
  have decimal : (Fixed.signedCount places value : ℚ) / 10 ^ places = Binary64.exactValue value :=
    (Fixed.signedCount_isNearestDecimal places value).point_eq (Set.mem_univ whole) grid
  have nearest := readBack_isNearestNumber places value
  rw [decimal] at nearest
  have numeric := isNumeric_of_isFinite finite
  apply Binary64.eq_of_exactValue_eq (isNumeric_of_isFinite (isFinite_readBack places finite))
    numeric
  · rw [isNegative_readBack places finite, showsMinus]
    cases sign : Binary64.isNegative value with
    | false =>
        rfl
    | true =>
        -- A number on the grid that is shown as zero is zero, and only `-0.0` has this sign.
        have someSteps : Fixed.count places value ≠ 0 := by
          intro noSteps
          apply notNegativeZero
          have zero : Binary64.exactValue value = 0 := by
            rw [← decimal, Fixed.signedCount, sign, if_pos rfl, noSteps]
            simp
          have negativeZero := Binary64.eq_zero_of_exactValue numeric zero
          rw [sign] at negativeZero
          exact negativeZero
        rw [Bool.true_and, bne_iff_ne]
        exact someSteps
  · exact nearest.point_eq numeric rfl

/-- Reading back undoes showing.  A finite number is shown as the nearest decimal with the places
of the format and read back as the finite number nearest to that decimal: as the positive zero if
the decimal is zero, and as itself if it has no more decimals than are kept. -/
theorem read?_display
    (config : Config) (sound : config.IsSound)
    (value : Float) (finite : Binary64.isFinite value) :
    ∃ (count : ℤ) (number : Float),
      IsNearestDecimal config.format.fractionMax (Binary64.exactValue value) count ∧
        config.format.read? (config.format.display value) = some number ∧
        Binary64.isFinite number ∧
        Binary64.IsNearestNumber ((count : ℚ) / 10 ^ config.format.fractionMax) number ∧
        (count = 0 → number = 0.0) ∧
        (∀ decimals ≤ config.format.fractionMax, ∀ whole : ℤ,
          Binary64.exactValue value = whole / 10 ^ decimals →
            value ≠ -0.0 → number = value) := by
  have readable : config.format.Readable := sound.readable
  have places : config.format.places = config.format.fractionMax :=
    Nat.min_eq_left readable.fewDecimals
  rw [← places]
  refine ⟨Fixed.signedCount config.format.places value, readBack config.format.places value,
    Fixed.signedCount_isNearestDecimal _ value, read?_display_eq readable finite,
    isFinite_readBack _ finite, readBack_isNearestNumber _ value,
    readBack_eq_zero finite, ?_⟩
  intro decimals few whole exact notNegativeZero
  obtain ⟨others, split⟩ := Nat.exists_eq_add_of_le few
  refine readBack_eq_self finite ⟨whole * 10 ^ others, ?_⟩ notNegativeZero
  rw [exact, split, pow_add]
  push_cast
  field_simp

/-- A separator may even be made of the letters and signs of written numbers. -/
theorem read?_display_exponentSeparator :
    let format : NumberFormat :=
      { fractionMax := 2, groupSeparator := "e+ .", locale := "fr_FR" }
    ({ format := format } : Config).IsSound ∧
      Binary64.isFinite (-1234567.891) ∧
      ∃ (count : ℤ) (number : Float),
        IsNearestDecimal 2 (Binary64.exactValue (-1234567.891)) count ∧
          format.read? (format.display (-1234567.891)) = some number ∧
          Binary64.isFinite number ∧
          Binary64.IsNearestNumber ((count : ℚ) / 10 ^ 2) number ∧
          (count = 0 → number = 0.0) ∧
          (∀ decimals ≤ 2, ∀ whole : ℤ,
            Binary64.exactValue (-1234567.891) = whole / 10 ^ decimals →
              (-1234567.891 : Float) ≠ -0.0 → number = -1234567.891) := by
  intro format
  have sound : ({ format := format } : Config).fault? = none := by
    decide
  have finite : Binary64.isFinite (-1234567.891) := by
    decide +kernel
  exact ⟨sound, finite, read?_display { format := format } sound (-1234567.891) finite⟩

end PocketCalc.NumberFormat
