import Mathlib.Algebra.Order.Field.Rat
import Mathlib.Algebra.Order.AbsoluteValue.Basic
import Mathlib.Tactic.FieldSimp
import Mathlib.Tactic.Linarith
import Mathlib.Tactic.Ring
import PocketCalc.Number.Binary64

/-!
# The nearest point of a grid

Decimals with a fixed number of places and binary64 numbers are both grids of rational points, and
an exact value is cut to either by the same rule.  The rule is stated here for any grid:

* `IsNearest.point_le_point` says that rounding keeps the order of two values;
* `IsNearest.of_pair` reduces it to the two points around the exact value;
* `IsNearest.clamp` cuts a grid off at its last point;
* `IsNearest.scale` and `IsNearest.signed` carry it from whole numbers to finer and to signed grids.

The quotient that `divHalfEven` finds is the nearest whole number in this sense.
-/

namespace PocketCalc.Number

section Grid

variable {Index : Type*} {grid : Set Index} {point : Index → ℚ} {even : Index → Prop}
  {exact : ℚ} {index : Index}

/-- The point at `index` is the nearest one to `exact`, and if another point is equally near,
`index` is even. -/
def IsNearest (grid : Set Index) (point : Index → ℚ) (even : Index → Prop)
    (exact : ℚ) (index : Index) : Prop :=
  index ∈ grid ∧
    ∀ other ∈ grid,
      |exact - point index| ≤ |exact - point other| ∧
        (|exact - point index| = |exact - point other| →
          point other = point index ∨ even index)

/-- A value that lies on the grid is its own rounding. -/
theorem IsNearest.point_eq
    (nearest : IsNearest grid point even exact index)
    {other : Index} (member : other ∈ grid) (onGrid : point other = exact) :
    point index = exact := by
  have bound := (nearest.2 other member).1
  rw [onGrid, sub_self, abs_zero] at bound
  have zero : exact - point index = 0 :=
    abs_eq_zero.mp (le_antisymm bound (abs_nonneg _))
  linarith

/-- Rounding does not pass a point of the grid. -/
theorem IsNearest.point_le
    (nearest : IsNearest grid point even exact index)
    {other : Index} (member : other ∈ grid) (bound : exact ≤ point other) :
    point index ≤ point other := by
  by_contra beyond
  have distance := (nearest.2 other member).1
  rw [abs_of_nonpos (by linarith), abs_of_nonpos (by linarith)] at distance
  linarith

/-- Rounding keeps the order of two values.  Only equal values could be rounded apart, on a tie. -/
theorem IsNearest.point_le_point
    (nearest : IsNearest grid point even exact index)
    {otherExact : ℚ} {other : Index}
    (otherNearest : IsNearest grid point even otherExact other) (less : exact < otherExact) :
    point index ≤ point other := by
  by_contra crossed
  have bound := sq_le_sq.mpr (nearest.2 other otherNearest.1).1
  have otherBound := sq_le_sq.mpr (otherNearest.2 index nearest.1).1
  have product : 0 < (otherExact - exact) * (point index - point other) :=
    mul_pos (by linarith) (by linarith)
  linarith

/-- The nearer one of two points. -/
theorem isNearest_pair
    {chosen rejected : Index}
    (bound : |exact - point chosen| ≤ |exact - point rejected|)
    (tieRule : |exact - point chosen| = |exact - point rejected| → even chosen) :
    IsNearest {chosen, rejected} point even exact chosen := by
  refine ⟨Set.mem_insert chosen _, ?_⟩
  rintro other (rfl | rfl)
  · exact ⟨le_rfl, fun _ => Or.inl rfl⟩
  · exact ⟨bound, fun tie => Or.inr (tieRule tie)⟩

/-- A point beyond a point of the grid, seen from the exact value, is no competitor. -/
theorem IsNearest.le_of_beyond
    (nearest : IsNearest grid point even exact index)
    {near : Index} (member : near ∈ grid) {far : ℚ}
    (beyond :
      (exact ≤ point near ∧ point near ≤ far) ∨ (far ≤ point near ∧ point near ≤ exact)) :
    |exact - point index| ≤ |exact - far| ∧
      (|exact - point index| = |exact - far| → far = point index ∨ even index) := by
  obtain ⟨bound, tieRule⟩ := nearest.2 near member
  have farther :
      |exact - point near| ≤ |exact - far| ∧
        (|exact - point near| = |exact - far| → far = point near) := by
    rcases beyond with ⟨above, outward⟩ | ⟨outward, below⟩
    · rw [abs_of_nonpos (by linarith), abs_of_nonpos (by linarith)]
      exact ⟨by linarith, fun same => by linarith⟩
    · rw [abs_of_nonneg (by linarith), abs_of_nonneg (by linarith)]
      exact ⟨by linarith, fun same => by linarith⟩
  refine ⟨bound.trans farther.1, fun tie => ?_⟩
  have nearTie : |exact - point index| = |exact - point near| :=
    le_antisymm bound (by rw [tie]; exact farther.1)
  rw [farther.2 (nearTie.symm.trans tie)]
  exact tieRule nearTie

theorem IsNearest.scale
    (nearest : IsNearest grid point even exact index) {factor : ℚ} (positive : 0 < factor) :
    IsNearest grid (fun other => point other * factor) even (exact * factor) index := by
  refine ⟨nearest.1, fun other member => ?_⟩
  obtain ⟨bound, tieRule⟩ := nearest.2 other member
  have distance (rounded : ℚ) :
      |exact * factor - rounded * factor| = |exact - rounded| * factor := by
    rw [← sub_mul, abs_mul, abs_of_pos positive]
  simp only [distance]
  refine ⟨mul_le_mul_of_nonneg_right bound positive.le, fun tie => ?_⟩
  rcases tieRule (mul_right_cancel₀ positive.ne' tie) with same | isEven
  · exact Or.inl (by rw [same])
  · exact Or.inr isEven

theorem IsNearest.image
    {Renamed : Type*} {renamedPoint : Renamed → ℚ} {renamedEven : Renamed → Prop}
    (rename : Index → Renamed)
    (samePoint : ∀ other ∈ grid, renamedPoint (rename other) = point other)
    (keepsEven : ∀ other, even other → renamedEven (rename other))
    (nearest : IsNearest grid point even exact index) :
    IsNearest (rename '' grid) renamedPoint renamedEven exact (rename index) := by
  refine ⟨Set.mem_image_of_mem rename nearest.1, ?_⟩
  rintro renamed ⟨other, member, rfl⟩
  obtain ⟨bound, tieRule⟩ := nearest.2 other member
  rw [samePoint index nearest.1, samePoint other member]
  exact ⟨bound, fun tie => (tieRule tie).imp_right (keepsEven index)⟩

theorem abs_sub_of_sameSign {first second : ℚ} (sameSign : 0 ≤ first * second) :
    |first - second| = |(|first| - |second|)| := by
  rcases mul_nonneg_iff.mp sameSign with ⟨left, right⟩ | ⟨left, right⟩
  · rw [abs_of_nonneg left, abs_of_nonneg right]
  · rw [abs_of_nonpos left, abs_of_nonpos right, ← abs_neg]
    congr 1
    ring

/-- Rounding the magnitude and keeping the sign is rounding on the signed grid. -/
theorem IsNearest.signed
    {Signed : Type*} {signedGrid : Set Signed} {signedPoint : Signed → ℚ}
    (magnitude : Signed → Index) {exact : ℚ} {rounded : Signed}
    (nearest : IsNearest grid point even |exact| (magnitude rounded))
    {zero : Index} (zeroMember : zero ∈ grid) (zeroPoint : point zero = 0)
    (sameGrid : ∀ other ∈ signedGrid, magnitude other ∈ grid)
    (samePoint : ∀ other ∈ signedGrid, |signedPoint other| = point (magnitude other))
    (member : rounded ∈ signedGrid) (sameSign : 0 ≤ exact * signedPoint rounded) :
    IsNearest signedGrid signedPoint (fun other => even (magnitude other)) exact rounded := by
  refine ⟨member, fun other otherMember => ?_⟩
  obtain ⟨bound, tieRule⟩ :=
    nearest.2 (magnitude other) (sameGrid other otherMember)
  rw [← samePoint rounded member, ← samePoint other otherMember] at bound tieRule
  have distance : |exact - signedPoint rounded| = |(|exact| - |signedPoint rounded|)| :=
    abs_sub_of_sameSign sameSign
  have reverse : |(|exact| - |signedPoint other|)| ≤ |exact - signedPoint other| :=
    abs_abs_sub_abs_le_abs_sub exact (signedPoint other)
  refine ⟨by rw [distance]; exact bound.trans reverse, fun tie => ?_⟩
  have magnitudeTie :
      |(|exact| - |signedPoint rounded|)| = |(|exact| - |signedPoint other|)| :=
    le_antisymm bound (by rw [← distance, tie]; exact reverse)
  rcases tieRule magnitudeTie with sameMagnitude | isEven
  · rcases abs_eq_abs.mp sameMagnitude with same | opposite
    · exact Or.inl same
    · -- Opposite points are equally near only to zero, or when both are zero.
      left
      rw [opposite, sub_neg_eq_add] at tie
      rcases abs_eq_abs.mp tie with difference | difference
      · linarith
      · have exactZero : exact = 0 := by linarith
        have atZero : |signedPoint rounded| = 0 := by
          rw [exactZero, abs_zero] at nearest
          rw [samePoint rounded member]
          exact nearest.point_eq zeroMember zeroPoint
        rw [opposite, abs_eq_zero.mp atZero, neg_zero]
  · exact Or.inr isEven

end Grid

/-! ## Grids in increasing order -/

section Increasing

variable {point : ℕ → ℚ} {exact : ℚ} {index : ℕ}

/-- On an increasing grid only the two points around the exact value compete. -/
theorem IsNearest.of_pair
    (increasing : StrictMono point) {lower : ℕ}
    (below : point lower ≤ exact) (above : exact ≤ point (lower + 1))
    (nearest : IsNearest {lower, lower + 1} point Even exact index) :
    IsNearest Set.univ point Even exact index := by
  refine ⟨Set.mem_univ index, fun other _ => ?_⟩
  rcases Nat.lt_or_ge lower other with later | earlier
  · have member : lower + 1 ∈ ({lower, lower + 1} : Set ℕ) := by simp
    exact nearest.le_of_beyond member (Or.inl ⟨above, increasing.monotone later⟩)
  · have member : lower ∈ ({lower, lower + 1} : Set ℕ) := by simp
    exact nearest.le_of_beyond member (Or.inr ⟨increasing.monotone earlier, below⟩)

/-- Where a grid ends, its last point stands for all the later ones. -/
theorem IsNearest.clamp
    (increasing : StrictMono point) (nearest : IsNearest Set.univ point Even exact index)
    (last : ℕ) :
    IsNearest (Set.Iic last) point Even exact (min last index) := by
  rcases Nat.lt_or_ge last index with past | within
  · rw [min_eq_left past.le]
    have order : point last < point index := increasing past
    have bound := (nearest.2 last (Set.mem_univ last)).1
    have reached : point last ≤ exact := by
      by_contra short
      rw [abs_of_neg (by linarith), abs_of_neg (by linarith)] at bound
      linarith
    refine ⟨Set.mem_Iic.mpr le_rfl, fun other member => ?_⟩
    have earlier : point other ≤ point last := increasing.monotone member
    rw [abs_of_nonneg (by linarith), abs_of_nonneg (by linarith)]
    exact ⟨by linarith, fun tie => Or.inl (by linarith)⟩
  · rw [min_eq_right within]
    exact ⟨within, fun other _ => nearest.2 other (Set.mem_univ other)⟩

end Increasing

/-! ## The quotient -/

section Quotient

variable (numerator : ℕ) {denominator : ℕ} (positive : 0 < denominator)
include positive

/-- How far a quotient is from the two whole numbers around it. -/
theorem quotient_gaps :
    (numerator : ℚ) / denominator - ((numerator / denominator : ℕ) : ℚ) =
        ((numerator % denominator : ℕ) : ℚ) / denominator ∧
      ((numerator / denominator + 1 : ℕ) : ℚ) - (numerator : ℚ) / denominator =
        ((denominator - numerator % denominator : ℕ) : ℚ) / denominator := by
  have nonzero : (denominator : ℚ) ≠ 0 := by exact_mod_cast positive.ne'
  have parts :
      (denominator : ℚ) * ((numerator / denominator : ℕ) : ℚ) +
        ((numerator % denominator : ℕ) : ℚ) = numerator := by
    exact_mod_cast Nat.div_add_mod numerator denominator
  have small : numerator % denominator ≤ denominator := (Nat.mod_lt _ positive).le
  constructor
  · field_simp
    linarith
  · rw [Nat.cast_sub small, Nat.cast_add, Nat.cast_one]
    field_simp
    linarith

theorem quotient_between :
    ((numerator / denominator : ℕ) : ℚ) ≤ (numerator : ℚ) / denominator ∧
      (numerator : ℚ) / denominator ≤ ((numerator / denominator + 1 : ℕ) : ℚ) := by
  obtain ⟨fromBelow, fromAbove⟩ := quotient_gaps numerator positive
  constructor
  · rw [← sub_nonneg, fromBelow]
    exact div_nonneg (Nat.cast_nonneg _) (Nat.cast_nonneg _)
  · rw [← sub_nonneg, fromAbove]
    exact div_nonneg (Nat.cast_nonneg _) (Nat.cast_nonneg _)

/-- Twice the remainder decides which of the two is nearer. -/
theorem quotient_distances :
    ∃ below above : ℕ,
      below + above = denominator ∧ below = numerator % denominator ∧
        |(numerator : ℚ) / denominator - ((numerator / denominator : ℕ) : ℚ)| =
          (below : ℚ) / denominator ∧
        |(numerator : ℚ) / denominator - ((numerator / denominator + 1 : ℕ) : ℚ)| =
          (above : ℚ) / denominator := by
  obtain ⟨fromBelow, fromAbove⟩ := quotient_gaps numerator positive
  have small : numerator % denominator ≤ denominator := (Nat.mod_lt _ positive).le
  refine ⟨numerator % denominator, denominator - numerator % denominator,
    Nat.add_sub_cancel' small, rfl, ?_, ?_⟩
  · rw [fromBelow, abs_of_nonneg (div_nonneg (Nat.cast_nonneg _) (Nat.cast_nonneg _))]
  · rw [abs_sub_comm, fromAbove,
      abs_of_nonneg (div_nonneg (Nat.cast_nonneg _) (Nat.cast_nonneg _))]

theorem lower_isNearest
    (near : 2 * (numerator % denominator) ≤ denominator)
    (tieRule : 2 * (numerator % denominator) = denominator → Even (numerator / denominator)) :
    IsNearest {numerator / denominator, numerator / denominator + 1}
      (fun whole : ℕ => (whole : ℚ)) Even
      ((numerator : ℚ) / denominator) (numerator / denominator) := by
  have positiveQ : (0 : ℚ) < denominator := by exact_mod_cast positive
  obtain ⟨below, above, total, remainder, lower, upper⟩ := quotient_distances numerator positive
  apply isNearest_pair
  · rw [lower, upper, div_le_div_iff_of_pos_right positiveQ, Nat.cast_le]
    omega
  · rw [lower, upper, div_left_inj' positiveQ.ne', Nat.cast_inj]
    exact fun tie => tieRule (by omega)

theorem upper_isNearest
    (near : denominator ≤ 2 * (numerator % denominator))
    (tieRule : 2 * (numerator % denominator) = denominator → Even (numerator / denominator + 1)) :
    IsNearest {numerator / denominator, numerator / denominator + 1}
      (fun whole : ℕ => (whole : ℚ)) Even
      ((numerator : ℚ) / denominator) (numerator / denominator + 1) := by
  have positiveQ : (0 : ℚ) < denominator := by exact_mod_cast positive
  obtain ⟨below, above, total, remainder, lower, upper⟩ := quotient_distances numerator positive
  rw [Set.pair_comm]
  apply isNearest_pair
  · rw [lower, upper, div_le_div_iff_of_pos_right positiveQ, Nat.cast_le]
    omega
  · rw [lower, upper, div_left_inj' positiveQ.ne', Nat.cast_inj]
    exact fun tie => tieRule (by omega)

/-- Of the two whole numbers around a quotient, `divHalfEven` chooses the nearer. -/
theorem divHalfEven_pair :
    IsNearest {numerator / denominator, numerator / denominator + 1}
      (fun whole : ℕ => (whole : ℚ)) Even
      ((numerator : ℚ) / denominator) (divHalfEven numerator denominator) := by
  have lower := lower_isNearest numerator positive
  have upper := upper_isNearest numerator positive
  have rule :
      divHalfEven numerator denominator =
        if 2 * (numerator % denominator) < denominator then numerator / denominator
        else if denominator < 2 * (numerator % denominator) then numerator / denominator + 1
        else numerator / denominator + numerator / denominator % 2 :=
    rfl
  rw [rule]
  split_ifs with down up
  · exact lower down.le (fun half => absurd half down.ne)
  · exact upper up.le (fun half => absurd half up.ne')
  · -- On a tie the parity of the lower number is added to it.
    have half : 2 * (numerator % denominator) = denominator := by omega
    rcases Nat.mod_two_eq_zero_or_one (numerator / denominator) with isEven | isOdd
    · rw [isEven]
      exact lower half.le (fun _ => Nat.even_iff.mpr isEven)
    · rw [isOdd]
      exact upper half.ge (fun _ => Nat.even_add_one.mpr (Nat.not_even_iff.mpr isOdd))

/-- A rounded quotient is the nearest whole number, a half going to the even one. -/
theorem divHalfEven_isNearest :
    IsNearest Set.univ (fun whole : ℕ => (whole : ℚ)) Even
      ((numerator : ℚ) / denominator) (divHalfEven numerator denominator) :=
  let ⟨below, above⟩ := quotient_between numerator positive
  (divHalfEven_pair numerator positive).of_pair Nat.strictMono_cast below above

end Quotient

end PocketCalc.Number
