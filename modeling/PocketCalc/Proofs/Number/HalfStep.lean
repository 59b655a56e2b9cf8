import PocketCalc.Proofs.Number.Decimals

/-!
# At most half a step

The decimals with a fixed number of places are evenly spaced, so that the nearest one can be told by
its distance alone:

* `isNearestDecimal_iff`: it is at most half a step away, and even if it is just half a step;
* `IsNearestDecimal.unique`: there is only one;
* `IsNearestDecimal.mono`: it does not decrease when the value grows;
* `IsNearestDecimal.of_closer`: whatever is not farther from it than the value that it was found for
  is rounded to it too.

The last one says that a rounded value can be moved towards its decimal, by another rounding or in
any other way, and will not be rounded to another one.
-/

namespace PocketCalc

variable {places : ℕ} {exact : ℚ} {count : ℤ}

theorem decimal_le_decimal_iff (places : ℕ) (count other : ℤ) :
    (count : ℚ) / 10 ^ places ≤ other / 10 ^ places ↔ count ≤ other := by
  have power : (0 : ℚ) < 10 ^ places := by positivity
  rw [div_le_div_iff_of_pos_right power, Int.cast_le]

/-- How far a decimal is, counted in steps of its last place. -/
theorem abs_sub_decimal (places : ℕ) (exact : ℚ) (whole : ℤ) :
    |exact - whole / 10 ^ places| = |exact * 10 ^ places - whole| / 10 ^ places := by
  have power : (0 : ℚ) < 10 ^ places := by positivity
  rw [← abs_of_pos power, ← abs_div, abs_of_pos power]
  congr 1
  field_simp

theorem isNearestDecimal_iff_steps :
    IsNearestDecimal places exact count ↔
      ∀ other : ℤ,
        |exact * 10 ^ places - count| ≤ |exact * 10 ^ places - other| ∧
          (|exact * 10 ^ places - count| = |exact * 10 ^ places - other| →
            other = count ∨ Even count) := by
  have power : (0 : ℚ) < 10 ^ places := by positivity
  simp only [IsNearestDecimal, Number.IsNearest, Set.mem_univ, true_and, forall_const,
    abs_sub_decimal, div_le_div_iff_of_pos_right power, div_left_inj' power.ne', Int.cast_inj]

theorem isNearestDecimal_iff :
    IsNearestDecimal places exact count ↔
      |exact * 10 ^ places - count| ≤ 1 / 2 ∧
        (|exact * 10 ^ places - count| = 1 / 2 → Even count) := by
  rw [isNearestDecimal_iff_steps]
  generalize exact * 10 ^ places = steps
  constructor
  · intro nearest
    obtain ⟨boundAbove, tieAbove⟩ := nearest (count + 1)
    obtain ⟨boundBelow, tieBelow⟩ := nearest (count - 1)
    have above : steps - (count + 1 : ℤ) = steps - count - 1 := by
      push_cast
      ring
    have below : steps - (count - 1 : ℤ) = steps - count + 1 := by
      push_cast
      ring
    rw [above] at boundAbove tieAbove
    rw [below] at boundBelow tieBelow
    -- The two neighbours are the ones that compete, each on its side.
    refine ⟨abs_le.mpr ⟨?_, ?_⟩, fun half => ?_⟩
    · have squares := sq_le_sq.mpr boundBelow
      linarith
    · have squares := sq_le_sq.mpr boundAbove
      linarith
    · rcases eq_or_eq_neg_of_abs_eq half with right | left
      · refine (tieAbove ?_).resolve_left (by omega)
        rw [right]
        norm_num
      · refine (tieBelow ?_).resolve_left (by omega)
        rw [left]
        norm_num
  · rintro ⟨within, tieRule⟩ other
    by_cases same : other = count
    · rw [same]
      exact ⟨le_rfl, fun _ => Or.inl rfl⟩
    · have apart : (1 : ℚ) ≤ |(count : ℚ) - other| := by
        exact_mod_cast Int.one_le_abs (sub_ne_zero.mpr (Ne.symm same))
      have detour := abs_sub_le (count : ℚ) steps other
      rw [abs_sub_comm (count : ℚ) steps] at detour
      exact ⟨by linarith, fun tie => Or.inr (tieRule (by linarith))⟩

namespace IsNearestDecimal

theorem unique
    (nearest : IsNearestDecimal places exact count)
    {other : ℤ} (alsoNearest : IsNearestDecimal places exact other) :
    other = count := by
  obtain ⟨bound, tieRule⟩ := isNearestDecimal_iff_steps.mp nearest other
  obtain ⟨otherBound, otherTieRule⟩ := isNearestDecimal_iff_steps.mp alsoNearest count
  have tie := le_antisymm bound otherBound
  by_contra different
  obtain ⟨half, evenCount⟩ := (tieRule tie).resolve_left different
  obtain ⟨otherHalf, evenOther⟩ := (otherTieRule tie.symm).resolve_left (Ne.symm different)
  -- Two even counts are two steps apart, but both are within half a step of the value.
  have within := (isNearestDecimal_iff.mp nearest).1
  have otherWithin := (isNearestDecimal_iff.mp alsoNearest).1
  have near : |(count : ℚ) - other| ≤ 1 := by
    have detour := abs_sub_le (count : ℚ) (exact * 10 ^ places) other
    rw [abs_sub_comm (count : ℚ) (exact * 10 ^ places)] at detour
    linarith
  have nearCounts : |count - other| ≤ 1 := by
    exact_mod_cast near
  rw [abs_le] at nearCounts
  omega

/-- Of two values, the greater one is not rounded to the lower decimal. -/
theorem mono
    (nearest : IsNearestDecimal places exact count)
    {otherExact : ℚ} {other : ℤ} (otherNearest : IsNearestDecimal places otherExact other)
    (order : exact ≤ otherExact) :
    count ≤ other := by
  rcases order.lt_or_eq with less | rfl
  · exact (decimal_le_decimal_iff places count other).mp
      (Number.IsNearest.point_le_point nearest otherNearest less)
  · exact (otherNearest.unique nearest).le

/-- A value that is not farther from a decimal than one that is rounded to it is rounded to it. -/
theorem of_closer
    (nearest : IsNearestDecimal places exact count)
    {moved : ℚ} (closer : |moved - count / 10 ^ places| ≤ |exact - count / 10 ^ places|) :
    IsNearestDecimal places moved count := by
  have power : (0 : ℚ) < 10 ^ places := by positivity
  rw [abs_sub_decimal, abs_sub_decimal, div_le_div_iff_of_pos_right power] at closer
  rw [isNearestDecimal_iff] at nearest ⊢
  obtain ⟨within, tieRule⟩ := nearest
  exact ⟨closer.trans within, fun half => tieRule (le_antisymm within (half ▸ closer))⟩

theorem neg (nearest : IsNearestDecimal places exact count) :
    IsNearestDecimal places (-exact) (-count) := by
  have mirrored : -exact * 10 ^ places - ((-count : ℤ) : ℚ) = -(exact * 10 ^ places - count) := by
    push_cast
    ring
  rw [isNearestDecimal_iff] at nearest ⊢
  rw [mirrored, abs_neg, even_neg]
  exact nearest

end IsNearestDecimal

/-- The count without a sign is that of the nearest decimal to the magnitude. -/
theorem Fixed.count_isNearestDecimal (places : ℕ) (value : Float) :
    IsNearestDecimal places |Binary64.exactValue value| (Fixed.count places value) := by
  have nearest := Fixed.signedCount_isNearestDecimal places value
  rw [Binary64.abs_exactValue]
  unfold Fixed.signedCount Binary64.exactValue at nearest
  split at nearest
  · have mirrored := nearest.neg
    rw [neg_neg, neg_neg] at mirrored
    exact mirrored
  · exact nearest

end PocketCalc
