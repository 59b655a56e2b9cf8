import PocketCalc.Proofs.NumberFormat.Stability

/-!
# Showing keeps the order

A number is shown as a count of steps of the last place, and the count of steps and the text
determine each other.  The count does not decrease when the number grows.  So the numbers with one
text follow each other without a gap, and two numbers with different texts are read back in their
order.  No separator, sign or dropped zero has to be looked at for this.
-/

namespace PocketCalc.NumberFormat

variable {format : NumberFormat} {places : ℕ} {first second : Float}

/-! ## Same text, same count -/

theorem readBack_eq_of_signedCount
    (same : Fixed.signedCount places first = Fixed.signedCount places second) :
    readBack places first = readBack places second := by
  rw [readBack, count_eq_of_signedCount same, showsMinus_eq_of_signedCount same, readBack]

/-- Finite numbers have the same text if and only if they are rounded to the same decimal. -/
theorem display_eq_iff
    (readable : format.Readable)
    (firstFinite : Binary64.isFinite first) (secondFinite : Binary64.isFinite second) :
    format.display first = format.display second ↔
      Fixed.signedCount format.places first = Fixed.signedCount format.places second := by
  constructor
  · intro sameText
    have firstRead := read?_display_eq readable firstFinite
    rw [sameText, read?_display_eq readable secondFinite, Option.some_inj] at firstRead
    rw [← signedCount_readBack firstFinite, ← firstRead, signedCount_readBack secondFinite]
  · exact display_eq_of_signedCount firstFinite secondFinite

/-! ## The order -/

/-- The count does not decrease when the number grows. -/
theorem signedCount_mono
    (places : ℕ) (firstFinite : Binary64.isFinite first) (secondFinite : Binary64.isFinite second)
    (order : first ≤ second) :
    Fixed.signedCount places first ≤ Fixed.signedCount places second :=
  (Fixed.signedCount_isNearestDecimal places first).mono
    (Fixed.signedCount_isNearestDecimal places second)
    ((Binary64.le_iff_exactValue_le firstFinite secondFinite).mp order)

/-- A greater decimal is not read as a lower number, and the same one is read as the same. -/
theorem readBack_le_readBack
    (firstFinite : Binary64.isFinite first) (secondFinite : Binary64.isFinite second)
    (counts : Fixed.signedCount places first ≤ Fixed.signedCount places second) :
    readBack places first ≤ readBack places second := by
  rw [Binary64.le_iff_exactValue_le (isFinite_readBack places firstFinite)
    (isFinite_readBack places secondFinite)]
  rcases counts.lt_or_eq with less | same
  · have decimals :=
      lt_iff_lt_of_le_iff_le (decimal_le_decimal_iff places
        (Fixed.signedCount places second) (Fixed.signedCount places first))
    exact Number.IsNearest.point_le_point (readBack_isNearestNumber places first)
      (readBack_isNearestNumber places second) (decimals.mpr less)
  · rw [readBack_eq_of_signedCount same]

/-- Showing never reverses an order.  Of two finite numbers, the lower one is not read back as the
greater number, and if both have the same text, so has every finite number between them. -/
theorem display_preserves_order
    (config : Config) (sound : config.IsSound)
    (firstFinite : Binary64.isFinite first) (secondFinite : Binary64.isFinite second)
    (order : first ≤ second) :
    (∃ lower upper : Float,
      config.format.read? (config.format.display first) = some lower ∧
        config.format.read? (config.format.display second) = some upper ∧
        lower ≤ upper) ∧
      (config.format.display first = config.format.display second →
        ∀ between : Float,
          Binary64.isFinite between → first ≤ between → between ≤ second →
            config.format.display between = config.format.display first) := by
  have readable := sound.readable
  constructor
  · exact ⟨readBack config.format.places first, readBack config.format.places second,
      read?_display_eq readable firstFinite, read?_display_eq readable secondFinite,
      readBack_le_readBack firstFinite secondFinite
        (signedCount_mono config.format.places firstFinite secondFinite order)⟩
  · intro sameText between finite above below
    have sameCount := (display_eq_iff readable firstFinite secondFinite).mp sameText
    have lowerBound := signedCount_mono config.format.places firstFinite finite above
    have upperBound := signedCount_mono config.format.places finite secondFinite below
    rw [display_eq_iff readable finite firstFinite]
    omega

/-- Around zero a sign is dropped, and every number between these two is shown as zero. -/
theorem display_preserves_order_aroundZero :
    let config : Config := { format := { fractionMax := 1, locale := "fr" }, disabled := ["Ran"] }
    config.IsSound ∧ Binary64.isFinite (-0.04) ∧ Binary64.isFinite 0.04 ∧
      (-0.04 : Float) ≤ 0.04 ∧
      config.format.display (-0.04) = "0" ∧ config.format.display 0.04 = "0" ∧
      ∀ between : Float,
        Binary64.isFinite between → -0.04 ≤ between → between ≤ 0.04 →
          config.format.display between = "0" := by
  intro config
  have sound : config.fault? = none := by
    decide
  have firstFinite : Binary64.isFinite (-0.04) := by
    decide +kernel
  have secondFinite : Binary64.isFinite 0.04 := by
    decide +kernel
  have order : (-0.04 : Float) ≤ 0.04 := by
    decide +kernel
  have firstShown : config.format.display (-0.04) = "0" := by
    decide +kernel
  have secondShown : config.format.display 0.04 = "0" := by
    decide +kernel
  have sameBetween :=
    (display_preserves_order config sound firstFinite secondFinite order).2
      (firstShown.trans secondShown.symm)
  rw [firstShown] at sameBetween
  exact ⟨sound, firstFinite, secondFinite, order, firstShown, secondShown, sameBetween⟩

end PocketCalc.NumberFormat
