import Mathlib.Algebra.Ring.Int.Parity
import Mathlib.Data.List.TakeWhile
import Mathlib.Tactic.Positivity
import PocketCalc.Number.Digits
import PocketCalc.Number.Literal
import PocketCalc.Proofs.Number.Binary64

/-!
# Written decimals and their values

Digits are read as a natural number, and a decimal is that number over a power of ten.  Both ends
of the display agree on this value:

* `fixedDigits_value`: the digits before and after the mark stand for the count they come from;
* `signedCount_isNearestDecimal`: that count is the nearest one to the number shown;
* `read?_written`: digits with a point among them are read as the nearest number to their value.
-/

namespace PocketCalc

open PocketCalc.Number

namespace Digits

theorem toNat_append (first second : List Char) :
    toNat (first ++ second) = 10 ^ second.length * toNat first + toNat second := by
  change Nat.ofDigitChars 10 (first ++ second) 0 = _
  rw [Nat.ofDigitChars_append, Nat.ofDigitChars_eq_ofDigitChars_zero]
  rfl

theorem toNat_ofNat (number : ℕ) : toNat (ofNat number) = number :=
  Nat.ofDigitChars_ten_toDigits

theorem isDigit_of_mem_ofNat {number : ℕ} {digit : Char} (member : digit ∈ ofNat number) :
    digit.isDigit :=
  Nat.isDigit_of_mem_toDigits (by decide) (by decide) member

theorem ofNat_ne_nil (number : ℕ) : ofNat number ≠ [] :=
  Nat.toDigits_ne_nil

theorem toNat_ofNatFixed (width number : ℕ) :
    toNat (ofNatFixed width number) = number % 10 ^ width := by
  induction width with
  | zero =>
      rw [pow_zero, Nat.mod_one]
      rfl
  | succ width inductionHypothesis =>
      have first : toNat [Nat.digitChar (number / 10 ^ width % 10)] = number / 10 ^ width % 10 := by
        have small : number / 10 ^ width % 10 < 10 := Nat.mod_lt _ (by decide)
        change 10 * 0 + ((number / 10 ^ width % 10).digitChar.toNat - 48) = _
        rw [Nat.toNat_digitChar_sub_48_of_lt_ten small, Nat.mul_zero, Nat.zero_add]
      rw [ofNatFixed, Nat.pow_eq, ← List.singleton_append, toNat_append, length_ofNatFixed, first,
        inductionHypothesis, pow_succ, Nat.mod_mul, Nat.add_comm]

theorem isDigit_of_mem_ofNatFixed
    {width number : ℕ} {digit : Char} (member : digit ∈ ofNatFixed width number) :
    digit.isDigit := by
  induction width with
  | zero =>
      simp [ofNatFixed] at member
  | succ width inductionHypothesis =>
      rcases List.mem_cons.mp member with first | later
      · rw [first, Nat.isDigit_digitChar]
        exact decide_eq_true (Nat.mod_lt _ (by decide))
      · exact inductionHypothesis later

theorem toNat_replicate_zero (length : ℕ) : toNat (List.replicate length '0') = 0 := by
  change Nat.ofDigitChars 10 (List.replicate length '0') 0 = 0
  rw [Nat.ofDigitChars_replicate_zero, Nat.mul_zero]

/-- What is trimmed are zeros. -/
theorem trimTrailingZeros_append (digits : List Char) :
    ∃ zeros, trimTrailingZeros digits ++ List.replicate zeros '0' = digits := by
  refine ⟨(digits.reverse.takeWhile (· == '0')).length, ?_⟩
  have onlyZeros :
      digits.reverse.takeWhile (· == '0') =
        List.replicate (digits.reverse.takeWhile (· == '0')).length '0' := by
    apply List.eq_replicate_of_mem
    intro digit member
    simpa using List.mem_takeWhile_imp member
  have whole := congrArg List.reverse
    (List.takeWhile_append_dropWhile (p := (· == '0')) (l := digits.reverse))
  rw [List.reverse_append, List.reverse_reverse, onlyZeros, List.reverse_replicate] at whole
  exact whole

end Digits

/-! ## Fixed decimals -/

/-- The count of steps of the last decimal that is nearest to an exact value, a half going to the
even count. -/
def IsNearestDecimal (places : ℕ) (exact : ℚ) (count : ℤ) : Prop :=
  IsNearest Set.univ (fun whole : ℤ => (whole : ℚ) / 10 ^ places) Even exact count

namespace Fixed

/-- The count with the sign of the number. -/
def signedCount (places : ℕ) (value : Float) : ℤ :=
  if Binary64.isNegative value then -(count places value : ℤ) else count places value

/-- The count is that of the nearest decimal to the magnitude. -/
theorem count_isNearest (places : ℕ) (value : Float) :
    IsNearest Set.univ (fun whole : ℕ => (whole : ℚ) * (1 / 10 ^ places)) Even
      (Binary64.wordValue (Binary64.magnitudeWord value)) (count places value) := by
  have unitsPositive : 0 < Binary64.unitsPerOne := by
    exact_mod_cast Binary64.unitsPerOne_pos
  have step : (0 : ℚ) < 1 / 10 ^ places := by positivity
  have magnitude :
      ((Binary64.units value * 10 ^ places : ℕ) : ℚ) / Binary64.unitsPerOne * (1 / 10 ^ places) =
        Binary64.wordValue (Binary64.magnitudeWord value) := by
    have unitsNonzero := Binary64.unitsPerOne_pos.ne'
    rw [Binary64.wordValue, ← Binary64.units]
    push_cast
    field_simp
  rw [← magnitude, count, Nat.pow_eq]
  exact (divHalfEven_isNearest _ unitsPositive).scale step

theorem natAbs_signedCount (places : ℕ) (value : Float) :
    (signedCount places value).natAbs = count places value := by
  unfold signedCount
  generalize count places value = steps
  split
  · rw [Int.natAbs_neg, Int.natAbs_natCast]
  · exact Int.natAbs_natCast steps

/-- The count with the sign of the number is that of the nearest decimal. -/
theorem signedCount_isNearestDecimal (places : ℕ) (value : Float) :
    IsNearestDecimal places (Binary64.exactValue value) (signedCount places value) := by
  have nearest := count_isNearest places value
  have parity : (fun whole : ℤ => Even whole.natAbs) = Even := by
    funext whole
    exact propext Int.natAbs_even
  have zeroPoint : ((0 : ℕ) : ℚ) * (1 / 10 ^ places) = 0 := by
    rw [Nat.cast_zero, zero_mul]
  rw [← Binary64.abs_exactValue, ← natAbs_signedCount] at nearest
  rw [IsNearestDecimal, ← parity]
  refine nearest.signed Int.natAbs (Set.mem_univ 0) zeroPoint
    (fun other _ => Set.mem_univ _) ?_ (Set.mem_univ _) ?_
  · intro other _
    rw [abs_div, ← Int.cast_abs, Int.abs_eq_natAbs, abs_of_pos (by positivity), Int.cast_natCast]
    exact div_eq_mul_one_div _ _
  · unfold signedCount Binary64.exactValue
    have product :
        0 ≤ Binary64.wordValue (Binary64.magnitudeWord value) *
          ((count places value : ℚ) / 10 ^ places) :=
      mul_nonneg (Binary64.wordValue_nonneg _)
        (div_nonneg (Nat.cast_nonneg _) (by positivity))
    split
    · rw [Int.cast_neg, Int.cast_natCast, neg_div, neg_mul_neg]
      exact product
    · rw [Int.cast_natCast]
      exact product

/-- Rounding to decimals does not lead beyond the finite numbers. -/
theorem count_le_largest
    (places : ℕ) {value : Float} (finite : Binary64.isFinite value) :
    (count places value : ℚ) / 10 ^ places ≤
      Binary64.wordValue (Binary64.infinityWord - 1) := by
  obtain ⟨largest, whole⟩ := Binary64.wordValue_largest
  have within : Binary64.magnitudeWord value ≤ Binary64.infinityWord - 1 :=
    Nat.le_sub_one_of_lt (Binary64.magnitudeWord_lt_of_isFinite finite)
  have bound := Binary64.wordValue_strictMono.monotone within
  have onGrid :
      ((largest * 10 ^ places : ℕ) : ℚ) * (1 / 10 ^ places) =
        Binary64.wordValue (Binary64.infinityWord - 1) := by
    rw [whole]
    push_cast
    field_simp
  rw [← onGrid] at bound ⊢
  rw [div_eq_mul_one_div]
  exact (count_isNearest places value).point_le (Set.mem_univ _) bound

/-- A decimal is its whole part and what the digits after the mark stand for. -/
theorem count_split (places count : ℕ) :
    (count : ℚ) / 10 ^ places =
      ((count / 10 ^ places : ℕ) : ℚ) + ((count % 10 ^ places : ℕ) : ℚ) / 10 ^ places := by
  have power : (10 : ℚ) ^ places ≠ 0 := by positivity
  have parts := Nat.div_add_mod count (10 ^ places)
  generalize count / 10 ^ places = whole at *
  generalize count % 10 ^ places = rest at *
  rw [← parts]
  push_cast
  field_simp

theorem fractionDigits_value (places count : ℕ) :
    (Digits.toNat (fractionDigits places count) : ℚ) / 10 ^ (fractionDigits places count).length =
      ((count % 10 ^ places : ℕ) : ℚ) / 10 ^ places := by
  obtain ⟨zeros, padded⟩ := Digits.trimTrailingZeros_append (Digits.ofNatFixed places count)
  change fractionDigits places count ++ List.replicate zeros '0' = _ at padded
  generalize fractionDigits places count = fraction at *
  have width : fraction.length + zeros = places := by
    have lengths := congrArg List.length padded
    simpa using lengths
  have full := Digits.toNat_ofNatFixed places count
  rw [← padded, Digits.toNat_append, List.length_replicate, Digits.toNat_replicate_zero,
    Nat.add_zero] at full
  rw [← full, ← width, div_eq_div_iff (by positivity) (by positivity)]
  push_cast
  ring

theorem fixedDigits_value (places count : ℕ) :
    (Digits.toNat (wholeDigits places count ++ fractionDigits places count) : ℚ) /
        10 ^ (fractionDigits places count).length =
      count / 10 ^ places := by
  have power : (10 : ℚ) ^ (fractionDigits places count).length ≠ 0 := by positivity
  rw [count_split places count, ← fractionDigits_value places count, Digits.toNat_append,
    wholeDigits, Digits.toNat_ofNat, Nat.pow_eq]
  push_cast
  field_simp

end Fixed

/-! ## Reading -/

namespace Literal

/-- The mark and the digits behind it, if there is a mark. -/
def markedFraction (mark : Char) : Option (List Char) → List Char
  | some fraction => mark :: fraction
  | none => []

theorem wordOfDecimal_neg (digits : List Char) {places : ℕ} (bound : places ≤ digits.length) :
    wordOfDecimal digits (-(places : ℤ)) =
      Binary64.wordOfRatio (Digits.toNat digits) (10 ^ places) := by
  unfold wordOfDecimal
  by_cases zero : Digits.toNat digits = 0
  · rw [if_pos zero, zero, Binary64.wordOfRatio_zero (by positivity)]
  have notHuge : ¬(400 ≤ -(places : ℤ)) := by omega
  have notTiny : ¬(-(places : ℤ) + digits.length ≤ -400) := by omega
  rw [if_neg zero, if_neg notHuge, if_neg notTiny]
  cases places with
  | zero =>
      rw [if_pos (by omega)]
      simp
  | succ places =>
      rw [if_neg (by omega), neg_neg, Int.toNat_natCast, Nat.pow_eq]

theorem splitSign_cons
    {character : Char} (notPlus : character ≠ '+') (notMinus : character ≠ '-')
    (rest : List Char) :
    splitSign (character :: rest) = (false, character :: rest) := by
  unfold splitSign
  split <;> simp_all

/-- The text does not begin with a sign. -/
def IsUnsigned (text : List Char) : Prop :=
  ∀ character ∈ text.head?, character ≠ '+' ∧ character ≠ '-'

theorem splitSign_of_isUnsigned {text : List Char} (unsigned : IsUnsigned text) :
    splitSign text = (false, text) := by
  cases text with
  | nil =>
      rfl
  | cons character text =>
      obtain ⟨notPlus, notMinus⟩ := unsigned character rfl
      exact splitSign_cons notPlus notMinus text

theorem isUnsigned_digits {digits : List Char} (allDigits : ∀ digit ∈ digits, digit.isDigit) :
    IsUnsigned digits := by
  intro character first
  have digit := allDigits character (List.mem_of_mem_head? first)
  constructor
  · rintro rfl
    exact absurd digit (by decide)
  · rintro rfl
    exact absurd digit (by decide)

theorem isUnsigned_decimal
    {whole : List Char} {fraction? : Option (List Char)}
    (wholeDigits : ∀ digit ∈ whole, digit.isDigit)
    (nonempty : whole ++ fraction?.getD [] ≠ []) (rest : List Char) :
    IsUnsigned (whole ++ (markedFraction '.' fraction? ++ rest)) := by
  intro character first
  cases whole with
  | cons digit whole =>
      exact isUnsigned_digits wholeDigits character first
  | nil =>
      cases fraction? with
      | none =>
          exact absurd rfl nonempty
      | some fraction =>
          obtain rfl : '.' = character := Option.some.inj first
          decide

/-- The text does not go on with what would still belong to the digits before it. -/
def EndsDigits (rest : List Char) : Prop :=
  ∀ character ∈ rest.head?, ¬character.isDigit ∧ character ≠ '.'

theorem endsDigits_nil : EndsDigits [] :=
  fun _ member => absurd member (Option.not_mem_none _)

theorem EndsDigits.takeWhile_eq_nil {rest : List Char} (ends : EndsDigits rest) :
    rest.takeWhile Char.isDigit = [] := by
  cases rest with
  | nil =>
      rfl
  | cons character rest =>
      exact List.takeWhile_cons_of_neg (ends character rfl).1

theorem EndsDigits.dropWhile_eq_self {rest : List Char} (ends : EndsDigits rest) :
    rest.dropWhile Char.isDigit = rest := by
  cases rest with
  | nil =>
      rfl
  | cons character rest =>
      exact List.dropWhile_cons_of_neg (ends character rfl).1

theorem EndsDigits.split
    {rest : List Char} (ends : EndsDigits rest)
    {digits : List Char} (allDigits : ∀ digit ∈ digits, digit.isDigit) :
    (digits ++ rest).takeWhile Char.isDigit = digits ∧
      (digits ++ rest).dropWhile Char.isDigit = rest := by
  rw [List.takeWhile_append_of_pos allDigits, List.dropWhile_append_of_pos allDigits,
    ends.takeWhile_eq_nil, ends.dropWhile_eq_self, List.append_nil]
  exact ⟨rfl, rfl⟩

theorem splitFraction_markedFraction
    {fraction? : Option (List Char)} (digits : ∀ digit ∈ fraction?.getD [], digit.isDigit)
    {rest : List Char} (ends : EndsDigits rest) :
    splitFraction (markedFraction '.' fraction? ++ rest) = (fraction?.getD [], rest) := by
  cases fraction? with
  | none =>
      cases rest with
      | nil =>
          rfl
      | cons character rest =>
          have noPoint := (ends character rfl).2
          unfold splitFraction
          split <;> simp_all [markedFraction]
  | some fraction =>
      obtain ⟨taken, dropped⟩ := ends.split digits
      rw [Option.getD_some] at taken dropped
      rw [markedFraction, List.cons_append, splitFraction, taken, dropped]
      rfl

theorem splitWhole
    {whole : List Char} (digits : ∀ digit ∈ whole, digit.isDigit)
    (fraction? : Option (List Char)) {rest : List Char} (ends : EndsDigits rest) :
    (whole ++ (markedFraction '.' fraction? ++ rest)).takeWhile Char.isDigit = whole ∧
      (whole ++ (markedFraction '.' fraction? ++ rest)).dropWhile Char.isDigit =
        markedFraction '.' fraction? ++ rest := by
  cases fraction? with
  | none =>
      exact ends.split digits
  | some fraction =>
      rw [List.takeWhile_append_of_pos digits, List.dropWhile_append_of_pos digits]
      exact ⟨List.append_nil whole, rfl⟩

/-- An unsigned decimal is read as the word nearest to its value. -/
theorem decimalWord?_written
    {whole : List Char} {fraction? : Option (List Char)}
    (wholeDigits : ∀ digit ∈ whole, digit.isDigit)
    (fractionDigits : ∀ digit ∈ fraction?.getD [], digit.isDigit)
    (nonempty : whole ++ fraction?.getD [] ≠ []) :
    decimalWord? (whole ++ markedFraction '.' fraction?) =
      some
        (Binary64.wordOfRatio (Digits.toNat (whole ++ fraction?.getD []))
          (10 ^ (fraction?.getD []).length)) := by
  obtain ⟨taken, dropped⟩ := splitWhole wholeDigits fraction? endsDigits_nil
  have split := splitFraction_markedFraction fractionDigits endsDigits_nil
  rw [List.append_nil] at taken dropped split
  have someDigit : (whole.isEmpty && (fraction?.getD []).isEmpty) = false := by
    rw [Bool.and_eq_false_iff, List.isEmpty_eq_false_iff, List.isEmpty_eq_false_iff]
    by_contra bothEmpty
    rw [not_or, not_not, not_not] at bothEmpty
    exact nonempty (List.append_eq_nil_iff.mpr bothEmpty)
  have fractionShort : (fraction?.getD []).length ≤ (whole ++ fraction?.getD []).length := by
    rw [List.length_append]
    omega
  rw [decimalWord?, taken, dropped, split]
  simp only [someDigit, Bool.false_eq_true, if_false, exponent?, Option.map_some, Int.zero_sub,
    wordOfDecimal_neg _ fractionShort]

/-- A decimal, a minus sign before it if it is negative, is read as the number nearest to its
value. -/
theorem read?_written
    (negative : Bool) {whole : List Char} {fraction? : Option (List Char)}
    (wholeDigits : ∀ digit ∈ whole, digit.isDigit)
    (fractionDigits : ∀ digit ∈ fraction?.getD [], digit.isDigit)
    (nonempty : whole ++ fraction?.getD [] ≠ []) :
    read? ((if negative then ['-'] else []) ++ (whole ++ markedFraction '.' fraction?)) =
      some
        (Binary64.ofWord negative
          (Binary64.wordOfRatio (Digits.toNat (whole ++ fraction?.getD []))
            (10 ^ (fraction?.getD []).length))) := by
  have unsigned := isUnsigned_decimal wholeDigits nonempty []
  rw [List.append_nil] at unsigned
  have sign :
      splitSign ((if negative then ['-'] else []) ++ (whole ++ markedFraction '.' fraction?)) =
        (negative, whole ++ markedFraction '.' fraction?) := by
    cases negative with
    | true =>
        rfl
    | false =>
        exact splitSign_of_isUnsigned unsigned
  rw [read?, sign]
  simp only [decimalWord?_written wholeDigits fractionDigits nonempty, Option.some_or,
    Option.map_some]

end Literal

end PocketCalc
