import PocketCalc.Proofs.Number.HalfStep
import PocketCalc.Proofs.NumberFormat.RoundTrip

/-!
# A shown number is stable

What is read back from a shown number may be another number, but it is shown by the same text.  The
number that was shown first is itself a binary64 number, and the one that is read back is the
nearest of these to the decimal on the screen.  It is therefore not farther from this decimal than
the first one, and is rounded to it again, a tie included.
-/

namespace PocketCalc.NumberFormat

variable {format : NumberFormat} {places : ℕ} {first second value : Float}

/-! ## What the signed count determines -/

theorem count_eq_of_signedCount
    (same : Fixed.signedCount places first = Fixed.signedCount places second) :
    Fixed.count places first = Fixed.count places second := by
  rw [← Fixed.natAbs_signedCount, same, Fixed.natAbs_signedCount]

/-- A minus sign is shown in front of the negative counts. -/
theorem showsMinus_eq_decide (places : ℕ) (value : Float) :
    showsMinus places value = decide (Fixed.signedCount places value < 0) := by
  unfold showsMinus Fixed.signedCount
  generalize Fixed.count places value = count
  cases Binary64.isNegative value with
  | false =>
      simp
  | true =>
      rw [Bool.true_and, Bool.eq_iff_iff, bne_iff_ne, decide_eq_true_iff, if_pos rfl]
      omega

theorem showsMinus_eq_of_signedCount
    (same : Fixed.signedCount places first = Fixed.signedCount places second) :
    showsMinus places first = showsMinus places second := by
  rw [showsMinus_eq_decide, same, showsMinus_eq_decide]

/-- Numbers that are rounded to the same decimal have the same text. -/
theorem display_eq_of_signedCount
    (firstFinite : Binary64.isFinite first) (secondFinite : Binary64.isFinite second)
    (same : Fixed.signedCount format.places first = Fixed.signedCount format.places second) :
    format.display first = format.display second := by
  rw [display_of_isFinite firstFinite, display_of_isFinite secondFinite,
    showsMinus_eq_of_signedCount same, count_eq_of_signedCount same]

/-! ## The number that is read back -/

/-- The number that is read back is rounded to the same decimal. -/
theorem signedCount_readBack (finite : Binary64.isFinite value) :
    Fixed.signedCount places (readBack places value) = Fixed.signedCount places value := by
  have rounded := Fixed.signedCount_isNearestDecimal places value
  have closer := ((readBack_isNearestNumber places value).2 value (isNumeric_of_isFinite finite)).1
  rw [abs_sub_comm, abs_sub_comm _ (Binary64.exactValue value)] at closer
  exact (rounded.of_closer closer).unique
    (Fixed.signedCount_isNearestDecimal places (readBack places value))

theorem display_readBack (finite : Binary64.isFinite value) :
    format.display (readBack format.places value) = format.display value :=
  display_eq_of_signedCount (isFinite_readBack format.places finite) finite
    (signedCount_readBack finite)

/-- A shown number is stable.  It can be read back, and the number that is read is shown by the same
text, even where it is not the number that was shown. -/
theorem display_read?_display
    (config : Config) (sound : config.IsSound) (value : Float) (finite : Binary64.isFinite value) :
    ∃ number : Float,
      config.format.read? (config.format.display value) = some number ∧
        config.format.display number = config.format.display value :=
  ⟨readBack config.format.places value, read?_display_eq sound.readable finite,
    display_readBack finite⟩

/-- The number is halfway between two decimals, of which the even one is shown.  The number that is
read back is not halfway any more. -/
theorem display_read?_display_tie :
    let config : Config := { format := { fractionMax := 1, locale := "fr" }, disabled := ["Ran"] }
    config.IsSound ∧ Binary64.isFinite (-1234.25) ∧
      config.format.display (-1234.25) = "-1 234,2" ∧
      ∃ number : Float,
        config.format.read? "-1 234,2" = some number ∧
          config.format.display number = "-1 234,2" := by
  intro config
  have sound : config.fault? = none := by
    decide
  have finite : Binary64.isFinite (-1234.25) := by
    decide +kernel
  have shown : config.format.display (-1234.25) = "-1 234,2" := by
    decide +kernel
  have stable := display_read?_display config sound (-1234.25) finite
  rw [shown] at stable
  exact ⟨sound, finite, shown, stable⟩

end PocketCalc.NumberFormat
