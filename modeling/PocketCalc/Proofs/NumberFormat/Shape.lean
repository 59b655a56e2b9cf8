import Mathlib.Algebra.Order.Floor.Semifield
import Mathlib.Data.Rat.Floor
import PocketCalc.Proofs.Number.HalfStep
import PocketCalc.Proofs.NumberFormat.DecimalMark
import PocketCalc.Proofs.NumberFormat.RoundTrip

/-!
# The shape of a shown number

A finite number is shown in any format, sound or not, as its magnitude rounded to the decimals that
are kept: a minus sign if the number is negative and did not become zero, the whole part cut into
groups from the right, and behind the mark the decimals that are left when no zero is written at the
end.  `IsShownAs` says so of any text, in terms of the rounded magnitude alone, and
`isShownAs_display` proves it of the text that is displayed:

* `exists_groups` finds the groups that `group` makes;
* `head?_ofNat` and `getLast?_trimTrailingZeros` exclude zeros at the two ends;
* `count_split` and `fractionDigits_value` give the values of the two parts.
-/

namespace PocketCalc

/-! ## Zeros at the ends -/

namespace Digits

theorem digitChar_ne_zero {digit : ℕ} (small : digit < 10) (positive : 0 < digit) :
    Nat.digitChar digit ≠ '0' := by
  intro isZero
  have value := Nat.toNat_digitChar_sub_48_of_lt_ten small
  rw [isZero] at value
  have zero : '0'.toNat - 48 = 0 := rfl
  omega

/-- Only zero itself begins with a zero. -/
theorem head?_ofNat {number : ℕ} (positive : 0 < number) : (ofNat number).head? ≠ some '0' := by
  induction number using Nat.strongRecOn with
  | ind number inductionHypothesis =>
      rw [ofNat, Nat.toDigits_eq_if (by decide)]
      split
      · next small =>
          rw [List.head?_cons, Ne, Option.some_inj]
          exact digitChar_ne_zero small positive
      · next large =>
          rw [List.head?_append_of_ne_nil _ Nat.toDigits_ne_nil]
          exact inductionHypothesis (number / 10) (by omega) (by omega)

theorem eq_zero_of_head?_ofNat {number : ℕ} (zeroFirst : (ofNat number).head? = some '0') :
    ofNat number = ['0'] := by
  cases number with
  | zero =>
      rfl
  | succ number =>
      exact absurd zeroFirst (head?_ofNat (Nat.succ_pos number))

theorem getLast?_trimTrailingZeros (digits : List Char) :
    (trimTrailingZeros digits).getLast? ≠ some '0' := by
  have first := List.head?_dropWhile_not (· == '0') digits.reverse
  rw [trimTrailingZeros, List.getLast?_reverse]
  intro zero
  rw [zero] at first
  exact absurd first (by decide)

theorem length_trimTrailingZeros_le (digits : List Char) :
    (trimTrailingZeros digits).length ≤ digits.length := by
  obtain ⟨zeros, padded⟩ := trimTrailingZeros_append digits
  have lengths := congrArg List.length padded
  rw [List.length_append] at lengths
  omega

/-- Digits that stand for zero are zeros, the last one included. -/
theorem toNat_pos
    {digits : List Char} (allDigits : ∀ digit ∈ digits, digit.isDigit) (nonempty : digits ≠ [])
    (noZeroLast : digits.getLast? ≠ some '0') : 0 < toNat digits := by
  have split := List.dropLast_append_getLast nonempty
  have isDigit := allDigits _ (List.getLast_mem nonempty)
  have notZero : digits.getLast nonempty ≠ '0' := by
    intro zero
    exact noZeroLast (by rw [List.getLast?_eq_some_getLast nonempty, zero])
  generalize digits.getLast nonempty = last at *
  rw [← split, toNat_append]
  have bounds : 48 ≤ last.toNat ∧ last.toNat ≤ 57 := Char.isDigit_iff_toNat.mp isDigit
  have above : last.toNat ≠ 48 := fun same => notZero (Char.toNat_inj.mp same)
  have value : toNat [last] = last.toNat - 48 := by
    change 10 * 0 + (last.toNat - 48) = _
    omega
  omega

end Digits

/-! ## Groups -/

/-- Groups of three digits, except that the first may be shorter. -/
def IsGrouped : (groups : List (List Char)) → Prop
  | [] => False
  | first :: others =>
      (1 ≤ first.length ∧ first.length ≤ 3) ∧ ∀ group ∈ others, group.length = 3

namespace NumberFormat

/-- The groups that digits are cut into.  The length of the first one tells when the next digit from
the right begins another. -/
theorem exists_groups
    (separator : List Char) {digits : List Char} (nonempty : digits ≠ []) :
    ∃ first others,
      IsGrouped (first :: others) ∧ (first :: others).flatten = digits ∧
        separator.intercalate (first :: others) = group separator digits ∧
        first.length % 3 = digits.length % 3 := by
  induction digits with
  | nil =>
      exact absurd rfl nonempty
  | cons digit digits inductionHypothesis =>
      by_cases empty : digits = []
      · subst empty
        exact ⟨[digit], [], ⟨by simp, by simp⟩, by simp, by simp [group], rfl⟩
      obtain ⟨first, others, ⟨sizes, full⟩, joined, separated, length⟩ := inductionHypothesis empty
      rw [group]
      split
      · next complete =>
          have firstFull : first.length = 3 := by omega
          refine ⟨[digit], first :: others, ⟨by simp, ?_⟩, ?_, ?_, ?_⟩
          · rintro member (_ | _)
            · exact firstFull
            · next later => exact full member later
          · rw [List.flatten_cons, joined, List.singleton_append]
          · rw [List.intercalate_cons_cons, separated, List.append_assoc, List.singleton_append]
          · rw [List.length_singleton, List.length_cons]
            omega
      · next incomplete =>
          have room : first.length < 3 := by
            by_contra none
            exact incomplete ⟨by omega, empty⟩
          refine ⟨digit :: first, others, ⟨?_, full⟩, ?_, ?_, ?_⟩
          · rw [List.length_cons]
            omega
          · rw [← joined]
            rfl
          · rw [List.intercalate_cons_cons_left, separated]
          · rw [List.length_cons, List.length_cons]
            omega

/-! ## Shown numbers -/

/-- What a text shows of a number whose magnitude was rounded to `rounded`. -/
structure IsShownAs
    (separator : String) (mark : Char) (negative : Bool) (places : ℕ) (rounded : ℚ)
    (groups : List (List Char)) (decimals : List Char) (text : String) : Prop where
  /-- The sign, the groups with the separator between them, and the mark before the decimals. -/
  parts :
    text =
      String.ofList
        ((if negative ∧ rounded ≠ 0 then ['-'] else []) ++
          (separator.toList.intercalate groups ++
            (if decimals = [] then [] else mark :: decimals)))
  grouped : IsGrouped groups
  wholeDigits : ∀ digit ∈ groups.flatten, digit.isDigit
  whole : Digits.toNat groups.flatten = ⌊rounded⌋₊
  noZeroFirst : groups.flatten.head? = some '0' → groups.flatten = ['0']
  fewDecimals : decimals.length ≤ places
  fractionDigits : ∀ digit ∈ decimals, digit.isDigit
  fraction : (Digits.toNat decimals : ℚ) / 10 ^ decimals.length = rounded - ⌊rounded⌋₊
  noZeroLast : decimals.getLast? ≠ some '0'
  noDecimals : decimals = [] ↔ rounded = ⌊rounded⌋₊

variable {format : NumberFormat} {value : Float}

theorem floor_decimal (places count : ℕ) :
    ⌊(count : ℚ) / 10 ^ places⌋₊ = count / 10 ^ places := by
  exact_mod_cast Nat.floor_div_eq_div (K := ℚ) count (10 ^ places)

theorem decimal_sub_floor (places count : ℕ) :
    (count : ℚ) / 10 ^ places - ⌊(count : ℚ) / 10 ^ places⌋₊ =
      ((count % 10 ^ places : ℕ) : ℚ) / 10 ^ places := by
  rw [floor_decimal, sub_eq_iff_eq_add', Fixed.count_split]

/-- There are no digits behind the mark only when nothing is left behind the whole part. -/
theorem fractionDigits_eq_nil_iff (places count : ℕ) :
    Fixed.fractionDigits places count = [] ↔
      (count : ℚ) / 10 ^ places = ⌊(count : ℚ) / 10 ^ places⌋₊ := by
  have value := Fixed.fractionDigits_value places count
  rw [← decimal_sub_floor] at value
  refine Iff.trans ?_ sub_eq_zero
  rw [← value]
  constructor
  · intro empty
    rw [empty]
    exact div_eq_zero_iff.mpr (Or.inl Nat.cast_zero)
  · intro zero
    by_contra nonempty
    have positive := Digits.toNat_pos (fun _ => isDigit_of_mem_fractionDigits) nonempty
      (Digits.getLast?_trimTrailingZeros _)
    have nonzero : (Digits.toNat (Fixed.fractionDigits places count) : ℚ) ≠ 0 := by
      exact_mod_cast positive.ne'
    exact div_ne_zero nonzero (by positivity) zero

theorem isShownAs_display (format : NumberFormat) (finite : Binary64.isFinite value) :
    ∃ groups,
      IsShownAs format.groupSeparator format.decimalMark (Binary64.isNegative value) format.places
        ((Fixed.count format.places value : ℚ) / 10 ^ format.places) groups
        (Fixed.fractionDigits format.places (Fixed.count format.places value))
        (format.display value) := by
  rw [display_of_isFinite finite, showCount, showsMinus]
  generalize Fixed.count format.places value = count
  generalize format.places = places
  obtain ⟨first, others, grouped, joined, separated, _⟩ :=
    exists_groups format.groupSeparator.toList (Digits.ofNat_ne_nil (count / 10 ^ places))
  refine ⟨first :: others, ?_, grouped, ?_, ?_, ?_, ?_, ?_, ?_, ?_, ?_⟩
  · have sign :
        (Binary64.isNegative value && count != 0) = true ↔
          Binary64.isNegative value = true ∧ (count : ℚ) / 10 ^ places ≠ 0 := by
      rw [Bool.and_eq_true, bne_iff_ne, div_ne_zero_iff, Nat.cast_ne_zero]
      exact and_congr_right fun _ => (and_iff_left (by positivity)).symm
    simp only [sign, separated, showFraction, List.isEmpty_iff]
    rfl
  · rw [joined]
    exact fun _ => Digits.isDigit_of_mem_ofNat
  · rw [joined, Digits.toNat_ofNat, floor_decimal]
  · rw [joined]
    exact Digits.eq_zero_of_head?_ofNat
  · exact (Digits.length_trimTrailingZeros_le _).trans (Digits.length_ofNatFixed places count).le
  · exact fun _ => isDigit_of_mem_fractionDigits
  · rw [Fixed.fractionDigits_value, decimal_sub_floor]
  · exact Digits.getLast?_trimTrailingZeros _
  · exact fractionDigits_eq_nil_iff places count

/-! ## Opposite numbers -/

/-- Rounding does not see the sign. -/
theorem count_eq_of_magnitudeWord_eq
    (places : ℕ) {other : Float}
    (sameMagnitude : Binary64.magnitudeWord other = Binary64.magnitudeWord value) :
    Fixed.count places other = Fixed.count places value := by
  rw [Fixed.count, Fixed.count, Binary64.units, Binary64.units, sameMagnitude]

theorem display_ofWord (negative : Bool) {word : ℕ} (finite : word < Binary64.infinityWord) :
    format.display (Binary64.ofWord negative word) =
      if negative && Fixed.count format.places (Binary64.ofWord false word) != 0 then
        "-" ++ format.display (Binary64.ofWord false word)
      else
        format.display (Binary64.ofWord false word) := by
  have isFinite (sign : Bool) : Binary64.isFinite (Binary64.ofWord sign word) := by
    rw [Binary64.isFinite, Binary64.magnitudeWord_ofWord sign finite.le]
    exact decide_eq_true finite
  have sameCount :
      Fixed.count format.places (Binary64.ofWord negative word) =
        Fixed.count format.places (Binary64.ofWord false word) := by
    apply count_eq_of_magnitudeWord_eq
    rw [Binary64.magnitudeWord_ofWord negative finite.le,
      Binary64.magnitudeWord_ofWord false finite.le]
  rw [display_of_isFinite (isFinite negative), display_of_isFinite (isFinite false), showsMinus,
    showsMinus, sameCount, Binary64.isNegative_ofWord negative finite.le,
    Binary64.isNegative_ofWord false finite.le, Bool.false_and, if_neg Bool.false_ne_true,
    List.nil_append]
  split
  · exact String.ofList_append
  · rfl

theorem display_neg_abs (finite : Binary64.isFinite value) :
    format.display (-value.abs) =
      if Fixed.count format.places value = 0 then
        format.display value.abs
      else
        "-" ++ format.display value.abs := by
  have word := Binary64.magnitudeWord_lt_of_isFinite finite
  have self := Binary64.ofWord_isNegative_magnitudeWord word.le
  have absolute : value.abs = Binary64.ofWord false (Binary64.magnitudeWord value) := by
    rw [← Binary64.abs_ofWord (Binary64.isNegative value) word.le, self]
  have sameCount :
      Fixed.count format.places (Binary64.ofWord false (Binary64.magnitudeWord value)) =
        Fixed.count format.places value :=
    count_eq_of_magnitudeWord_eq _ (Binary64.magnitudeWord_ofWord false word.le)
  rw [absolute, Binary64.neg_ofWord false word.le, Bool.not_false, display_ofWord true word,
    sameCount, Bool.true_and]
  by_cases zero : Fixed.count format.places value = 0
  · rw [zero, if_pos rfl, bne_self_eq_false, if_neg Bool.false_ne_true]
  · rw [if_neg zero, if_pos (bne_iff_ne.mpr zero)]

/-- What a finite number looks like in any format, sound or not, and what it stands for.  Its
magnitude is rounded to at most fifteen decimals, a half going to the even one.  The text has a
minus sign just if the number is negative and the rounded magnitude is not zero; then the whole part
without a zero in front, in groups of three digits, of which the first may be shorter; then, unless
the rounded magnitude is whole, the mark and the digits behind it, the last of which is not zero.
The mark is a comma for the locales of eight languages, and a point for all others.  The opposite of
a magnitude differs from it by the minus sign alone, if that is shown. -/
theorem display_isShownAs
    (format : NumberFormat) (value : Float) (finite : Binary64.isFinite value) :
    let places := min format.fractionMax 15
    let mark := if WritesComma format.locale then ',' else '.'
    ∃ (count : ℕ) (groups : List (List Char)) (decimals : List Char),
      IsNearestDecimal places |Binary64.exactValue value| count ∧
        IsShownAs format.groupSeparator mark (Binary64.isNegative value) places
          (count / 10 ^ places) groups decimals (format.display value) ∧
        format.display (-value.abs) =
          if count = 0 then format.display value.abs else "-" ++ format.display value.abs := by
  intro places mark
  obtain ⟨groups, shown⟩ := isShownAs_display format finite
  rw [decimalMark_eq] at shown
  exact ⟨Fixed.count format.places value, groups, _, Fixed.count_isNearestDecimal _ value, shown,
    display_neg_abs finite⟩

/-- Rounding may carry into a new group and leave no decimals.  In Brazil, groups are separated by a
point and decimals by a comma. -/
theorem display_isShownAs_carryAndComma :
    let carried : Float := -999.9999999
    let brazil : NumberFormat := { fractionMax := 2, groupSeparator := ".", locale := "PT-br" }
    let value : Float := -1234567.895
    Binary64.isFinite carried ∧
      (∃ (count : ℕ) (groups : List (List Char)) (decimals : List Char),
        IsNearestDecimal 6 |Binary64.exactValue carried| count ∧
          IsShownAs " " '.' (Binary64.isNegative carried) 6 (count / 10 ^ 6) groups decimals
            "-1 000" ∧
          NumberFormat.display {} (-carried.abs) =
            if count = 0 then NumberFormat.display {} carried.abs
            else "-" ++ NumberFormat.display {} carried.abs) ∧
      Binary64.isFinite value ∧
      ∃ (count : ℕ) (groups : List (List Char)) (decimals : List Char),
        IsNearestDecimal 2 |Binary64.exactValue value| count ∧
          IsShownAs "." ',' (Binary64.isNegative value) 2 (count / 10 ^ 2) groups decimals
            "-1.234.567,9" ∧
          brazil.display (-value.abs) =
            if count = 0 then brazil.display value.abs else "-" ++ brazil.display value.abs := by
  intro carried brazil value
  have carriedFinite : Binary64.isFinite carried := by
    decide +kernel
  have carriedText : NumberFormat.display {} carried = "-1 000" := by
    decide +kernel
  have finite : Binary64.isFinite value := by
    decide +kernel
  have text : brazil.display value = "-1.234.567,9" := by
    decide +kernel
  have carriedShown := display_isShownAs {} carried carriedFinite
  have shown := display_isShownAs brazil value finite
  have english : ¬WritesComma "en" := by
    decide
  have portuguese : WritesComma "PT-br" := by
    decide
  rw [if_neg english, carriedText] at carriedShown
  rw [if_pos portuguese, text] at shown
  exact ⟨carriedFinite, carriedShown, finite, shown⟩

end NumberFormat

end PocketCalc
