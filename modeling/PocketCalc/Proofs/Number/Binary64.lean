import Mathlib.Order.Monotone.Basic
import Mathlib.Tactic.NormNum
import PocketCalc.Number.Binary64.Lemmas
import PocketCalc.Proofs.Number.Nearest

/-!
# Words are the grid of binary64 numbers

The magnitudes of the words increase with the words, so that the words are an increasing grid and
`wordOfRatio` can be compared with the rule of `IsNearest`:

* `unitsOfWord_shift` places a word by the exponent steps below it;
* `wordOfRatio_isNearest` says that the word of a quotient is the nearest one;
* `ofWord_isNearestNumber` says the same of signed numbers;
* `le_iff_exactValue_le` says that finite numbers are compared as their exact values.

Infinity takes part in the grid as the next power of two after the largest finite number.  A value
is therefore infinite from half a step above that number on, as overflow demands.
-/

namespace PocketCalc.Binary64

open PocketCalc.Number

/-! ## The order of the words -/

/-- After `shift` steps of the exponent, the words count multiples of `2 ^ shift`. -/
theorem unitsOfWord_shift
    (shift : ℕ) {multiple : ℕ} (bound : multiple ≤ 2 * fractionSize)
    (normal : shift = 0 ∨ fractionSize ≤ multiple) :
    unitsOfWord (shift * fractionSize + multiple) = multiple * 2 ^ shift := by
  have size : fractionSize = 4503599627370496 := rfl
  by_cases subnormal : shift * fractionSize + multiple < fractionSize
  · rw [unitsOfWord, if_pos subnormal]
    rw [size] at subnormal normal
    have noShift : shift = 0 := by omega
    rw [noShift, Nat.zero_mul, Nat.zero_add, pow_zero, Nat.mul_one]
  rw [unitsOfWord, if_neg subnormal, Nat.pow_eq]
  rw [size] at subnormal normal bound ⊢
  rcases Nat.lt_or_ge multiple (2 * 4503599627370496) with below | full
  · have exponent :
        (shift * 4503599627370496 + multiple) / 4503599627370496 = shift + 1 := by
      omega
    have fraction :
        4503599627370496 + (shift * 4503599627370496 + multiple) % 4503599627370496 =
          multiple := by
      omega
    rw [exponent, fraction, Nat.add_sub_cancel]
  · have exponent :
        (shift * 4503599627370496 + multiple) / 4503599627370496 = shift + 2 := by
      omega
    have fraction :
        (shift * 4503599627370496 + multiple) % 4503599627370496 = 0 := by
      omega
    have whole : multiple = 4503599627370496 * 2 := by
      omega
    rw [exponent, fraction, whole, Nat.add_sub_assoc (by decide), pow_succ, Nat.add_zero]
    ring

theorem unitsOfWord_strictMono : StrictMono unitsOfWord := by
  apply strictMono_nat_of_lt_succ
  intro word
  obtain ⟨shift, multiple, place, bound, normal⟩ :
      ∃ shift multiple, word = shift * fractionSize + multiple ∧
        multiple + 1 ≤ 2 * fractionSize ∧ (shift = 0 ∨ fractionSize ≤ multiple) := by
    rcases Nat.lt_or_ge word fractionSize with subnormal | normal
    · exact ⟨0, word, by omega, by omega, Or.inl rfl⟩
    · refine ⟨word / fractionSize - 1, fractionSize + word % fractionSize, ?_, ?_, ?_⟩
      · simp only [fractionSize] at normal ⊢
        omega
      · simp only [fractionSize]
        omega
      · exact Or.inr (Nat.le_add_right _ _)
  have next : word + 1 = shift * fractionSize + (multiple + 1) := by omega
  rw [next, place, unitsOfWord_shift shift (by omega) normal,
    unitsOfWord_shift shift bound (by omega)]
  exact Nat.mul_lt_mul_of_pos_right (Nat.lt_succ_self multiple) (by positivity)

/-! ## Rounding to a word -/

theorem unitsPerOne_pos : (0 : ℚ) < unitsPerOne := by
  have nonzero : unitsPerOne ≠ 0 := by
    unfold unitsPerOne
    -- The power itself is far too large to be computed here.
    generalize 1074 = exponent
    exact (Nat.two_pow_pos exponent).ne'
  exact_mod_cast Nat.pos_of_ne_zero nonzero

theorem fractionSize_even : Even fractionSize := by
  decide

/-- The magnitude of a word.  That of infinity is `2 ^ 1024`. -/
def wordValue (word : ℕ) : ℚ :=
  unitsOfWord word / unitsPerOne

theorem wordValue_strictMono : StrictMono wordValue := by
  intro first second order
  apply div_lt_div_of_pos_right _ unitsPerOne_pos
  exact_mod_cast unitsOfWord_strictMono order

/-- With the shift that `wordOfRatio` chooses, what is rounded off leaves a word's multiple. -/
theorem shift_bounds (quotient : ℕ) :
    quotient / 2 ^ (quotient.log2 - 52) + 1 ≤ 2 * fractionSize ∧
      (quotient.log2 - 52 = 0 ∨ fractionSize ≤ quotient / 2 ^ (quotient.log2 - 52)) := by
  have size : fractionSize = 2 ^ 52 := rfl
  rw [size]
  by_cases zero : quotient = 0
  · subst zero
    exact ⟨by decide, Or.inl (by decide)⟩
  have lower : 2 ^ quotient.log2 ≤ quotient := Nat.log2_self_le zero
  have upper : quotient < 2 ^ (quotient.log2 + 1) := Nat.lt_log2_self
  constructor
  · apply Nat.succ_le_of_lt
    rw [Nat.div_lt_iff_lt_mul (by positivity), ← pow_succ', ← pow_add]
    exact upper.trans_le (Nat.pow_le_pow_right (by decide) (by omega))
  · rcases Nat.lt_or_ge quotient.log2 52 with small | large
    · exact Or.inl (by omega)
    · right
      rw [Nat.le_div_iff_mul_le (by positivity), ← pow_add,
        Nat.add_sub_cancel' large]
      exact lower

/-- Rounding to a multiple of `2 ^ shift` units is rounding to a word, where the words are that
far apart. -/
theorem shifted_isNearest
    (shift numerator : ℕ) {denominator : ℕ} (positive : 0 < denominator)
    (bound : numerator / denominator + 1 ≤ 2 * fractionSize)
    (normal : shift = 0 ∨ fractionSize ≤ numerator / denominator) :
    IsNearest Set.univ wordValue Even
      ((numerator : ℚ) / denominator * (2 ^ shift / unitsPerOne))
      (shift * fractionSize + divHalfEven numerator denominator) := by
  have step : (0 : ℚ) < 2 ^ shift / unitsPerOne := div_pos (by positivity) unitsPerOne_pos
  obtain ⟨below, above⟩ := quotient_between numerator positive
  have nearest := divHalfEven_pair numerator positive
  generalize numerator / denominator = lower at *
  have value (multiple : ℕ) (fits : multiple ≤ 2 * fractionSize)
      (large : shift = 0 ∨ fractionSize ≤ multiple) :
      wordValue (shift * fractionSize + multiple) = multiple * (2 ^ shift / unitsPerOne) := by
    rw [wordValue, unitsOfWord_shift shift fits large]
    push_cast
    ring
  have lowerValue := value lower (by omega) normal
  have upperValue := value (lower + 1) bound (normal.imp_right (by omega))
  have samePoint : ∀ other ∈ ({lower, lower + 1} : Set ℕ),
      wordValue (shift * fractionSize + other) = other * (2 ^ shift / unitsPerOne) := by
    rintro other (rfl | rfl)
    · exact lowerValue
    · exact upperValue
  have keepsEven (other : ℕ) (isEven : Even other) : Even (shift * fractionSize + other) :=
    (fractionSize_even.mul_left shift).add isEven
  have words := (nearest.scale step).image (shift * fractionSize + ·) samePoint keepsEven
  simp only [Set.image_pair, ← Nat.add_assoc] at words
  rw [← Nat.add_assoc] at upperValue
  refine words.of_pair wordValue_strictMono ?_ ?_
  · rw [lowerValue]
    exact mul_le_mul_of_nonneg_right below step.le
  · rw [upperValue]
    exact mul_le_mul_of_nonneg_right above step.le

theorem wordOfRatio_eq (numerator denominator : ℕ) :
    wordOfRatio numerator denominator =
      min infinityWord
        (((numerator * unitsPerOne / denominator).log2 - 52) * fractionSize +
          divHalfEven (numerator * unitsPerOne)
            (denominator * 2 ^ ((numerator * unitsPerOne / denominator).log2 - 52))) := by
  simp only [wordOfRatio, Nat.pow_eq]

/-- The word of a quotient is the nearest one, a half going to the even word. -/
theorem wordOfRatio_isNearest (numerator : ℕ) {denominator : ℕ} (positive : 0 < denominator) :
    IsNearest (Set.Iic infinityWord) wordValue Even ((numerator : ℚ) / denominator)
      (wordOfRatio numerator denominator) := by
  obtain ⟨bound, normal⟩ := shift_bounds (numerator * unitsPerOne / denominator)
  rw [wordOfRatio_eq]
  generalize (numerator * unitsPerOne / denominator).log2 - 52 = shift at *
  rw [Nat.div_div_eq_div_mul] at bound normal
  have nearest :=
    shifted_isNearest shift (numerator * unitsPerOne)
      (Nat.mul_pos positive (Nat.two_pow_pos shift)) bound normal
  have exact :
      ((numerator * unitsPerOne : ℕ) : ℚ) / ((denominator * 2 ^ shift : ℕ) : ℚ) *
          (2 ^ shift / unitsPerOne) =
        (numerator : ℚ) / denominator := by
    have denominatorNonzero : (denominator : ℚ) ≠ 0 := by exact_mod_cast positive.ne'
    have unitsNonzero := unitsPerOne_pos.ne'
    push_cast
    field_simp
  rw [exact] at nearest
  exact nearest.clamp wordValue_strictMono infinityWord

/-! ## The largest finite number -/

/-- The largest finite number is a whole number. -/
theorem wordValue_largest : ∃ whole : ℕ, wordValue (infinityWord - 1) = whole := by
  have units : unitsOfWord (infinityWord - 1) = (2 * fractionSize - 1) * 2 ^ (971 + 1074) := by
    have place : infinityWord - 1 = 2045 * fractionSize + (2 * fractionSize - 1) := by decide
    rw [place, unitsOfWord_shift 2045 (Nat.sub_le _ _) (Or.inr (by decide))]
  have quotient (multiple low high : ℕ) :
      ((multiple * 2 ^ (low + high) : ℕ) : ℚ) / ((Nat.pow 2 high : ℕ) : ℚ) =
        (multiple * 2 ^ low : ℕ) := by
    rw [Nat.pow_eq, pow_add]
    push_cast
    field_simp
  rw [wordValue, units]
  unfold unitsPerOne
  generalize 1074 = high
  exact ⟨_, quotient _ _ high⟩

/-- A quotient that is not above the largest finite number is not rounded to infinity. -/
theorem wordOfRatio_lt_infinityWord
    (numerator : ℕ) {denominator : ℕ} (positive : 0 < denominator)
    (bound : (numerator : ℚ) / denominator ≤ wordValue (infinityWord - 1)) :
    wordOfRatio numerator denominator < infinityWord := by
  have member : infinityWord - 1 ∈ Set.Iic infinityWord := Set.mem_Iic.mpr (Nat.sub_le _ _)
  have value := (wordOfRatio_isNearest numerator positive).point_le member bound
  have word := wordValue_strictMono.le_iff_le.mp value
  have infinityPositive : 0 < infinityWord := by decide
  omega

/-! ## Signed numbers -/

/-- The exact value of a number.  The infinities count as `2 ^ 1024` and `-2 ^ 1024`. -/
def exactValue (value : Float) : ℚ :=
  if isNegative value then -wordValue (magnitudeWord value) else wordValue (magnitudeWord value)

/-- The number nearest to an exact value, a half going to the even word. -/
def IsNearestNumber (exact : ℚ) (value : Float) : Prop :=
  IsNearest {number | magnitudeWord number ≤ infinityWord} exactValue
    (fun number => Even (magnitudeWord number)) exact value

theorem wordValue_zero : wordValue 0 = 0 := by
  have noUnits : unitsOfWord 0 = 0 := rfl
  rw [wordValue, noUnits, Nat.cast_zero, zero_div]

@[simp]
theorem wordOfRatio_zero {denominator : ℕ} (positive : 0 < denominator) :
    wordOfRatio 0 denominator = 0 := by
  have nearest := wordOfRatio_isNearest 0 positive
  rw [Nat.cast_zero, zero_div] at nearest
  apply wordValue_strictMono.injective
  rw [wordValue_zero]
  exact nearest.point_eq (Set.mem_Iic.mpr (Nat.zero_le _)) wordValue_zero

theorem wordValue_nonneg (word : ℕ) : 0 ≤ wordValue word :=
  div_nonneg (Nat.cast_nonneg _) unitsPerOne_pos.le

@[simp]
theorem abs_exactValue (value : Float) :
    |exactValue value| = wordValue (magnitudeWord value) := by
  unfold exactValue
  split
  · rw [abs_neg, abs_of_nonneg (wordValue_nonneg _)]
  · exact abs_of_nonneg (wordValue_nonneg _)

theorem exactValue_ofWord (negative : Bool) {word : ℕ} (numeric : word ≤ infinityWord) :
    exactValue (ofWord negative word) =
      if negative then -wordValue word else wordValue word := by
  rw [exactValue, isNegative_ofWord negative numeric, magnitudeWord_ofWord negative numeric]

/-- A number is determined by its sign and its word. -/
theorem ofWord_isNegative_magnitudeWord
    {value : Float} (numeric : magnitudeWord value ≤ infinityWord) :
    ofWord (isNegative value) (magnitudeWord value) = value := by
  apply eq_of_toBits
  apply UInt64.toNat_inj.mp
  rw [toNat_toBits_ofWord (isNegative value) numeric]
  have bound := value.toBits.toNat_lt
  have sign : isNegative value = true ↔ signWeight ≤ value.toBits.toNat := decide_eq_true_iff
  simp only [sign, magnitudeWord, signWeight]
  split_ifs <;> omega

theorem signedWord_le_signedWord_iff (negative otherNegative : Bool) (word other : ℕ) :
    signedWord negative word ≤ signedWord otherNegative other ↔
      (if negative then -wordValue word else wordValue word) ≤
        if otherNegative then -wordValue other else wordValue other := by
  have wordNonneg := wordValue_nonneg word
  have otherNonneg := wordValue_nonneg other
  cases negative <;> cases otherNegative <;>
    simp only [signedWord_false, signedWord_true, Bool.false_eq_true, if_false, if_true]
  · rw [Int.ofNat_le, wordValue_strictMono.le_iff_le]
  · -- A number without a sign is below one with a sign only if both are zero.
    constructor
    · intro order
      have wordZero : word = 0 := by omega
      have otherZero : other = 0 := by omega
      rw [wordZero, otherZero, wordValue_zero, neg_zero]
    · intro order
      have wordZero : word ≤ 0 := by
        rw [← wordValue_strictMono.le_iff_le, wordValue_zero]
        linarith
      have otherZero : other ≤ 0 := by
        rw [← wordValue_strictMono.le_iff_le, wordValue_zero]
        linarith
      omega
  · exact iff_of_true (by omega) (by linarith)
  · rw [neg_le_neg_iff, neg_le_neg_iff, Int.ofNat_le, wordValue_strictMono.le_iff_le]

theorem magnitudeWord_lt_of_isFinite {value : Float} (finite : isFinite value) :
    magnitudeWord value < infinityWord :=
  of_decide_eq_true finite

/-- Finite numbers are ordered as their exact values are. -/
theorem le_iff_exactValue_le
    {first second : Float} (firstFinite : isFinite first) (secondFinite : isFinite second) :
    first ≤ second ↔ exactValue first ≤ exactValue second := by
  have firstWord := magnitudeWord_lt_of_isFinite firstFinite
  have secondWord := magnitudeWord_lt_of_isFinite secondFinite
  have words :=
    ofWord_le_ofWord_iff (isNegative first) (isNegative second) firstWord secondWord
  rw [ofWord_isNegative_magnitudeWord firstWord.le,
    ofWord_isNegative_magnitudeWord secondWord.le] at words
  rw [words, signedWord_le_signedWord_iff]
  exact Iff.rfl

theorem eq_of_exactValue_eq
    {first second : Float}
    (firstNumeric : magnitudeWord first ≤ infinityWord)
    (secondNumeric : magnitudeWord second ≤ infinityWord)
    (sameSign : isNegative first = isNegative second)
    (sameValue : exactValue first = exactValue second) :
    first = second := by
  have sameWord : magnitudeWord first = magnitudeWord second := by
    apply wordValue_strictMono.injective
    rw [← abs_exactValue, ← abs_exactValue, sameValue]
  rw [← ofWord_isNegative_magnitudeWord firstNumeric,
    ← ofWord_isNegative_magnitudeWord secondNumeric, sameSign, sameWord]

theorem magnitudeWord_zero : magnitudeWord 0.0 = 0 ∧ magnitudeWord (-0.0) = 0 := by
  decide +kernel

theorem isNegative_zero : isNegative 0.0 = false ∧ isNegative (-0.0) = true := by
  decide +kernel

/-- There are two zeros, one of each sign. -/
theorem eq_zero_of_exactValue
    {value : Float} (numeric : magnitudeWord value ≤ infinityWord)
    (zero : exactValue value = 0) :
    value = if isNegative value then -0.0 else 0.0 := by
  have wordZero : magnitudeWord value = 0 := by
    apply wordValue_strictMono.injective
    rw [← abs_exactValue, zero, abs_zero, wordValue_zero]
  split
  · next negative =>
      apply eq_of_exactValue_eq numeric
      · rw [magnitudeWord_zero.2]
        exact Nat.zero_le _
      · rw [negative, isNegative_zero.2]
      · rw [exactValue, exactValue, wordZero, magnitudeWord_zero.2, negative, isNegative_zero.2]
  · next positive =>
      apply eq_of_exactValue_eq numeric
      · rw [magnitudeWord_zero.1]
        exact Nat.zero_le _
      · rw [isNegative_zero.1]
        exact Bool.eq_false_iff.mpr positive
      · rw [exactValue, exactValue, wordZero, magnitudeWord_zero.1, isNegative_zero.1,
          if_neg positive, if_neg (by decide)]

/-- The nearest number to a quotient with a sign. -/
theorem ofWord_isNearestNumber
    (negative : Bool) (numerator : ℕ) {denominator : ℕ} (positive : 0 < denominator) :
    IsNearestNumber
      (if negative then -((numerator : ℚ) / denominator) else (numerator : ℚ) / denominator)
      (ofWord negative (wordOfRatio numerator denominator)) := by
  have nearest := wordOfRatio_isNearest numerator positive
  have numeric : wordOfRatio numerator denominator ≤ infinityWord := nearest.1
  have quotientNonneg : (0 : ℚ) ≤ (numerator : ℚ) / denominator :=
    div_nonneg (Nat.cast_nonneg _) (Nat.cast_nonneg _)
  have zeroMember : 0 ∈ Set.Iic infinityWord := Set.mem_Iic.mpr (Nat.zero_le _)
  have magnitude :
      |(if negative then -((numerator : ℚ) / denominator) else (numerator : ℚ) / denominator)| =
        (numerator : ℚ) / denominator := by
    split
    · rw [abs_neg, abs_of_nonneg quotientNonneg]
    · exact abs_of_nonneg quotientNonneg
  rw [← magnitude, ← magnitudeWord_ofWord negative numeric] at nearest
  refine nearest.signed magnitudeWord zeroMember wordValue_zero (fun other member => member)
    (fun other _ => abs_exactValue other) ?_ ?_
  · exact (magnitudeWord_ofWord negative numeric).trans_le numeric
  · rw [exactValue_ofWord negative numeric]
    have product := mul_nonneg quotientNonneg (wordValue_nonneg (wordOfRatio numerator denominator))
    cases negative
    · simpa using product
    · simpa using product

end PocketCalc.Binary64
