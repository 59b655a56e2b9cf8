import PocketCalc.Number.Binary64

/-!
# A number has the word it was made from

A number is stored as a 64-bit pattern, and a pattern that is not a NaN is stored as it is.  Hence a
number made from a sign and a word up to that of infinity has that sign and that word, and changing
the sign of the number changes nothing else.  Finite numbers are compared by their signs and words.
-/

namespace PocketCalc.Binary64

open Float.Model Float.Model.UnpackedFloat

/-! ## The three fields of a pattern -/

private abbrev patternSign (pattern : BitVec 64) : BitVec 1 :=
  @unpackSign Format.binary64 pattern

private abbrev patternExponent (pattern : BitVec 64) : BitVec 11 :=
  @unpackExponent Format.binary64 pattern

private abbrev patternFraction (pattern : BitVec 64) : BitVec 52 :=
  @unpackMantissa Format.binary64 pattern

private theorem toNat_patternSign (pattern : BitVec 64) :
    (patternSign pattern).toNat = pattern.toNat / signWeight := by
  have extracted : patternSign pattern = pattern.extractLsb 63 63 := rfl
  have bound := pattern.isLt
  rw [extracted, BitVec.extractLsb_toNat, Nat.shiftRight_eq_div_pow]
  change _ % 2 = _ / 9223372036854775808
  omega

private theorem toNat_patternExponent (pattern : BitVec 64) :
    (patternExponent pattern).toNat = pattern.toNat / fractionSize % 2048 := by
  have extracted : patternExponent pattern = pattern.extractLsb 62 52 := rfl
  rw [extracted, BitVec.extractLsb_toNat, Nat.shiftRight_eq_div_pow]
  rfl

private theorem toNat_patternFraction (pattern : BitVec 64) :
    (patternFraction pattern).toNat = pattern.toNat % fractionSize := by
  have extracted : patternFraction pattern = pattern.extractLsb 51 0 := rfl
  rw [extracted, BitVec.extractLsb_toNat, Nat.shiftRight_zero]
  rfl

private theorem toNat_leadingOne (fraction : BitVec 52) :
    (1#1 ++ fraction).toNat = fractionSize + fraction.toNat := by
  rw [BitVec.toNat_append, ← Nat.shiftLeft_add_eq_or_of_lt fraction.isLt]
  rfl

private theorem exponentBias_eq : Format.binary64.exponentBias = 1023 := by
  decide

private theorem toBitVec_ofBitVec (bit : BitVec 1) : (Sign.ofBitVec bit).toBitVec = bit := by
  revert bit
  decide

private theorem packComponents_fields (pattern : BitVec 64) :
    packComponents Format.binary64 (Sign.ofBitVec (patternSign pattern))
      (patternExponent pattern) (patternFraction pattern) = pattern := by
  change (Sign.ofBitVec (patternSign pattern)).toBitVec ++ patternExponent pattern ++
    patternFraction pattern = pattern
  rw [toBitVec_ofBitVec]
  apply BitVec.eq_of_toNat_eq
  have joined :
      (patternSign pattern ++ patternExponent pattern ++ patternFraction pattern).toNat =
        ((patternSign pattern).toNat * 2048 + (patternExponent pattern).toNat) * fractionSize +
          (patternFraction pattern).toNat := by
    rw [BitVec.toNat_append, BitVec.toNat_append,
      ← Nat.shiftLeft_add_eq_or_of_lt (patternFraction pattern).isLt,
      ← Nat.shiftLeft_add_eq_or_of_lt (patternExponent pattern).isLt,
      Nat.shiftLeft_eq, Nat.shiftLeft_eq]
    rfl
  refine Eq.trans joined ?_
  rw [toNat_patternSign, toNat_patternExponent, toNat_patternFraction]
  have bound := pattern.isLt
  simp only [fractionSize, signWeight]
  omega

/-! ## Storing a pattern -/

private theorem pack_subnormal (pattern : BitVec 64)
    (exponentZero : patternExponent pattern = 0#11)
    (fractionPositive : 0 < (patternFraction pattern).toNat) (exponent : Int)
    (least : exponent = -1074) :
    pack Format.binary64
        (.finite (Sign.ofBitVec (patternSign pattern)) (patternFraction pattern).toNat exponent
          fractionPositive) =
      pattern := by
  have whole := packComponents_fields pattern
  have size : (patternFraction pattern).toNat.log2 < 52 :=
    (Nat.log2_lt (Nat.pos_iff_ne_zero.mp fractionPositive)).mpr (patternFraction pattern).isLt
  have notFull : ¬(patternFraction pattern).toNat.log2 + 1 = 53 := by
    omega
  have packed :
      pack Format.binary64
          (.finite (Sign.ofBitVec (patternSign pattern)) (patternFraction pattern).toNat (-1074)
            fractionPositive) =
        if (patternFraction pattern).toNat.log2 + 1 = 53 then
          packComponents Format.binary64 (Sign.ofBitVec (patternSign pattern)) 1#11
            (BitVec.ofNat 52 (patternFraction pattern).toNat)
        else
          packComponents Format.binary64 (Sign.ofBitVec (patternSign pattern)) 0#11
            (BitVec.ofNat 52 (patternFraction pattern).toNat) :=
    rfl
  subst least
  rw [packed, if_neg notFull, BitVec.ofNat_toNat, BitVec.setWidth_eq]
  rw [exponentZero] at whole
  exact whole

private theorem pack_normal (pattern : BitVec 64)
    (notAllOnes : (patternExponent pattern).toNat < 2047)
    (positive : 0 < (1#1 ++ patternFraction pattern).toNat) (exponent : Int)
    (biased : exponent = (patternExponent pattern).toNat - 1075) :
    pack Format.binary64
        (.finite (Sign.ofBitVec (patternSign pattern)) (1#1 ++ patternFraction pattern).toNat
          exponent positive) =
      pattern := by
  have whole := packComponents_fields pattern
  have bound : (patternFraction pattern).toNat < fractionSize :=
    (patternFraction pattern).isLt
  have mantissa := toNat_leadingOne (patternFraction pattern)
  have size : (1#1 ++ patternFraction pattern).toNat.log2 = 52 := by
    rw [mantissa, Nat.log2_eq_iff (by simp only [fractionSize]; omega)]
    simp only [fractionSize] at bound ⊢
    omega
  have unbiased :
      (exponent + Format.binary64.exponentBias + (52 : Nat)).toNat =
        (patternExponent pattern).toNat := by
    rw [exponentBias_eq]
    omega
  have fractionBack :
      BitVec.ofNat 52 (1#1 ++ patternFraction pattern).toNat = patternFraction pattern := by
    apply BitVec.eq_of_toNat_eq
    rw [BitVec.toNat_ofNat, mantissa]
    change _ % fractionSize = _
    rw [Nat.add_mod_left, Nat.mod_eq_of_lt bound]
  have packed :
      pack Format.binary64
          (.finite (Sign.ofBitVec (patternSign pattern)) (1#1 ++ patternFraction pattern).toNat
            exponent positive) =
        if 2048 ≤ (exponent + Format.binary64.exponentBias + (52 : Nat)).toNat + 1 then
          packedInfinity Format.binary64 (Sign.ofBitVec (patternSign pattern))
        else if (1#1 ++ patternFraction pattern).toNat.log2 + 1 = 53 then
          packComponents Format.binary64 (Sign.ofBitVec (patternSign pattern))
            (BitVec.ofNat 11 (exponent + Format.binary64.exponentBias + (52 : Nat)).toNat)
            (BitVec.ofNat 52 (1#1 ++ patternFraction pattern).toNat)
        else
          packComponents Format.binary64 (Sign.ofBitVec (patternSign pattern)) 0#11
            (BitVec.ofNat 52 (1#1 ++ patternFraction pattern).toNat) :=
    rfl
  rw [packed, unbiased, size, fractionBack, if_neg (by omega), if_pos rfl,
    BitVec.ofNat_toNat, BitVec.setWidth_eq]
  exact whole

/-- A pattern that is not a NaN is stored as it is. -/
private theorem pack_unpack (pattern : BitVec 64)
    (numeric : (patternExponent pattern).toNat < 2047 ∨ patternFraction pattern = 0#52) :
    UnpackedFloat.pack Format.binary64 (UnpackedFloat.unpack Format.binary64 pattern) =
      pattern := by
  have whole := packComponents_fields pattern
  by_cases allOnes : patternExponent pattern = -1#11
  · have fractionZero : patternFraction pattern = 0#52 := by
      rcases numeric with notAllOnes | fractionZero
      · rw [allOnes] at notAllOnes
        exact absurd notAllOnes (by decide)
      · exact fractionZero
    have unpacked :
        UnpackedFloat.unpack Format.binary64 pattern =
          .infinity (Sign.ofBitVec (patternSign pattern)) :=
      (if_pos allOnes).trans (if_pos fractionZero)
    rw [unpacked]
    rw [allOnes, fractionZero] at whole
    exact whole
  · by_cases exponentZero : patternExponent pattern = 0#11
    · by_cases fractionZero : patternFraction pattern = 0#52
      · have unpacked :
            UnpackedFloat.unpack Format.binary64 pattern =
              .zero (Sign.ofBitVec (patternSign pattern)) :=
          (if_neg allOnes).trans ((if_pos exponentZero).trans (dif_pos fractionZero))
        rw [unpacked]
        rw [exponentZero, fractionZero] at whole
        exact whole
      · have zero : (patternExponent pattern).toNat = 0 := congrArg BitVec.toNat exponentZero
        refine Eq.trans
          (congrArg (UnpackedFloat.pack Format.binary64)
            ((if_neg allOnes).trans ((if_pos exponentZero).trans (dif_neg fractionZero)))) ?_
        apply pack_subnormal pattern exponentZero
        change ((patternExponent pattern).toNat : Int) -
          (Format.binary64.exponentBias + (52 : Nat)) + 1 = -1074
        rw [zero, exponentBias_eq]
        decide
    · have small : (patternExponent pattern).toNat < 2047 := by
        have bound := (patternExponent pattern).isLt
        have different : (patternExponent pattern).toNat ≠ 2047 := fun same =>
          allOnes (BitVec.eq_of_toNat_eq (Eq.trans same (by decide)))
        omega
      refine Eq.trans
        (congrArg (UnpackedFloat.pack Format.binary64)
          ((if_neg allOnes).trans (if_neg exponentZero))) ?_
      apply pack_normal pattern small
      change ((patternExponent pattern).toNat : Int) -
        (Format.binary64.exponentBias + (52 : Nat)) = (patternExponent pattern).toNat - 1075
      rw [exponentBias_eq]
      omega

/-! ## Words -/

theorem eq_of_toBits {first second : Float} (same : first.toBits = second.toBits) :
    first = second := by
  obtain ⟨⟨firstBits, firstValid⟩⟩ := first
  obtain ⟨⟨secondBits, secondValid⟩⟩ := second
  change firstBits = secondBits at same
  subst same
  rfl

/-- Bits up to those of infinity, whatever their sign, are not those of a NaN. -/
private theorem numeric_pattern (bits : UInt64) (numeric : bits.toNat % signWeight ≤ infinityWord) :
    (patternExponent bits.toBitVec).toNat < 2047 ∨ patternFraction bits.toBitVec = 0#52 := by
  have exponent := toNat_patternExponent bits.toBitVec
  have fraction := toNat_patternFraction bits.toBitVec
  rw [UInt64.toNat_toBitVec] at exponent fraction
  simp only [infinityWord, fractionSize, signWeight] at exponent fraction numeric
  by_cases small : (patternExponent bits.toBitVec).toNat < 2047
  · exact Or.inl small
  · right
    apply BitVec.eq_of_toNat_eq
    rw [fraction]
    change _ = 0
    omega

/-- Bits that are not those of a NaN come back unchanged. -/
theorem toBits_ofBits (bits : UInt64)
    (numeric : bits.toNat % signWeight ≤ infinityWord) :
    (Float.ofBits bits).toBits = bits := by
  apply UInt64.toBitVec_inj.mp
  exact pack_unpack bits.toBitVec (numeric_pattern bits numeric)

/-- The bits of a number are its word, with the sign on top. -/
theorem toNat_toBits_ofWord (negative : Bool) {word : Nat} (numeric : word ≤ infinityWord) :
    (ofWord negative word).toBits.toNat = if negative then signWeight + word else word := by
  have bound : (if negative then signWeight + word else word) < UInt64.size := by
    simp only [infinityWord, fractionSize, signWeight, UInt64.size] at numeric ⊢
    split <;> omega
  have stored :
      (UInt64.ofNat (if negative then signWeight + word else word)).toNat =
        if negative then signWeight + word else word :=
    UInt64.toNat_ofNat_of_lt' bound
  unfold ofWord
  rw [toBits_ofBits, stored]
  rw [stored]
  simp only [infinityWord, fractionSize, signWeight] at numeric ⊢
  split <;> omega

theorem magnitudeWord_ofWord (negative : Bool) {word : Nat} (numeric : word ≤ infinityWord) :
    magnitudeWord (ofWord negative word) = word := by
  rw [magnitudeWord, toNat_toBits_ofWord negative numeric]
  simp only [infinityWord, fractionSize, signWeight] at numeric ⊢
  split <;> omega

theorem isNegative_ofWord (negative : Bool) {word : Nat} (numeric : word ≤ infinityWord) :
    isNegative (ofWord negative word) = negative := by
  rw [isNegative, toNat_toBits_ofWord negative numeric]
  simp only [infinityWord, fractionSize, signWeight] at numeric ⊢
  cases negative
  · simp
    omega
  · simp

/-! ## Changing the sign -/

/-- What the three fields of a pattern stand for. -/
private def ofFields (sign : Sign) (exponent : BitVec 11) (fraction : BitVec 52) : UnpackedFloat :=
  if exponent = -1#11 then
    if fraction = 0#52 then .infinity sign else .notANumber
  else if exponent = 0#11 then
    if zero : fraction = 0#52 then
      .zero sign
    else
      .finite sign fraction.toNat
        ((exponent.toNat : Int) - (Format.binary64.exponentBias + (52 : Nat)) + 1)
        ((BitVec.toNat_pos fraction).mpr ((BitVec.pos_iff_ne_zero fraction).mpr zero))
  else
    .finite sign (1#1 ++ fraction).toNat
      ((exponent.toNat : Int) - (Format.binary64.exponentBias + (52 : Nat)))
      (by rw [toNat_leadingOne]; exact Nat.add_pos_left (by decide) _)

/-- The exponent and the fraction alone say of which kind a number is. -/
private theorem ofFields_cases (exponent : BitVec 11) (fraction : BitVec 52) :
    (∀ sign, ofFields sign exponent fraction = .infinity sign) ∨
      (∀ sign, ofFields sign exponent fraction = .notANumber) ∨
      (∀ sign, ofFields sign exponent fraction = .zero sign) ∨
      ∃ mantissa scale positive, ∀ sign,
        ofFields sign exponent fraction = .finite sign mantissa scale positive := by
  by_cases allOnes : exponent = -1#11
  · by_cases fractionZero : fraction = 0#52
    · exact Or.inl fun sign => (if_pos allOnes).trans (if_pos fractionZero)
    · exact Or.inr (Or.inl fun sign => (if_pos allOnes).trans (if_neg fractionZero))
  · by_cases exponentZero : exponent = 0#11
    · by_cases fractionZero : fraction = 0#52
      · exact Or.inr (Or.inr (Or.inl fun sign =>
          (if_neg allOnes).trans ((if_pos exponentZero).trans (dif_pos fractionZero))))
      · exact Or.inr (Or.inr (Or.inr ⟨_, _, _, fun sign =>
          (if_neg allOnes).trans ((if_pos exponentZero).trans (dif_neg fractionZero))⟩))
    · exact Or.inr (Or.inr (Or.inr ⟨_, _, _, fun sign =>
        (if_neg allOnes).trans (if_neg exponentZero)⟩))

private theorem neg_ofFields (sign : Sign) (exponent : BitVec 11) (fraction : BitVec 52) :
    (ofFields sign exponent fraction).neg = ofFields (-sign) exponent fraction := by
  obtain infinity | notANumber | zero | ⟨mantissa, scale, positive, finite⟩ :=
    ofFields_cases exponent fraction
  · rw [infinity, infinity]
    rfl
  · rw [notANumber, notANumber]
    rfl
  · rw [zero, zero]
    rfl
  · rw [finite, finite]
    rfl

private theorem abs_ofFields
    (sign : Sign) {exponent : BitVec 11} {fraction : BitVec 52} :
    (ofFields sign exponent fraction).abs = ofFields .positive exponent fraction := by
  obtain infinity | notANumber | zero | ⟨mantissa, scale, positive, finite⟩ :=
    ofFields_cases exponent fraction
  · rw [infinity, infinity]
    rfl
  · rw [notANumber, notANumber]
    rfl
  · rw [zero, zero]
    rfl
  · rw [finite, finite]
    rfl

/-- The sign of a number and its word fill different fields. -/
private theorem unpack_ofWord (negative : Bool) {word : Nat} (numeric : word ≤ infinityWord) :
    unpack Format.binary64 (ofWord negative word).toBits.toBitVec =
      ofFields (Sign.ofBitVec (BitVec.ofBool negative)) (BitVec.ofNat 11 (word / fractionSize))
        (BitVec.ofNat 52 word) := by
  have bits := toNat_toBits_ofWord negative numeric
  have sign := toNat_patternSign (ofWord negative word).toBits.toBitVec
  have exponent := toNat_patternExponent (ofWord negative word).toBits.toBitVec
  have fraction := toNat_patternFraction (ofWord negative word).toBits.toBitVec
  rw [UInt64.toNat_toBitVec, bits] at sign exponent fraction
  simp only [infinityWord, fractionSize, signWeight] at sign exponent fraction numeric
  have sameSign :
      patternSign (ofWord negative word).toBits.toBitVec = BitVec.ofBool negative := by
    apply BitVec.eq_of_toNat_eq
    rw [sign]
    cases negative
    · simp
      omega
    · simp
      omega
  have sameExponent :
      patternExponent (ofWord negative word).toBits.toBitVec =
        BitVec.ofNat 11 (word / fractionSize) := by
    apply BitVec.eq_of_toNat_eq
    rw [exponent, BitVec.toNat_ofNat]
    change _ = word / 4503599627370496 % 2048
    cases negative
    · simp
    · simp
      omega
  have sameFraction :
      patternFraction (ofWord negative word).toBits.toBitVec = BitVec.ofNat 52 word := by
    apply BitVec.eq_of_toNat_eq
    rw [fraction, BitVec.toNat_ofNat]
    change _ = word % 4503599627370496
    cases negative
    · simp
    · simp
      omega
  rw [← sameSign, ← sameExponent, ← sameFraction]
  rfl

private theorem pack_ofFields_word (negative : Bool) {word : Nat} (numeric : word ≤ infinityWord) :
    pack Format.binary64
        (ofFields (Sign.ofBitVec (BitVec.ofBool negative)) (BitVec.ofNat 11 (word / fractionSize))
          (BitVec.ofNat 52 word)) =
      (ofWord negative word).toBits.toBitVec := by
  rw [← unpack_ofWord negative numeric]
  apply pack_unpack
  apply numeric_pattern
  rw [← magnitudeWord, magnitudeWord_ofWord negative numeric]
  exact numeric

/-- The opposite number has the other sign and the same word. -/
theorem neg_ofWord (negative : Bool) {word : Nat} (numeric : word ≤ infinityWord) :
    -ofWord negative word = ofWord (!negative) word := by
  apply eq_of_toBits
  apply UInt64.toBitVec_inj.mp
  have opposite :
      -Sign.ofBitVec (BitVec.ofBool negative) = Sign.ofBitVec (BitVec.ofBool !negative) := by
    cases negative <;> rfl
  rw [← pack_ofFields_word (!negative) numeric, ← opposite, ← neg_ofFields,
    ← unpack_ofWord negative numeric]
  rfl

/-- The absolute value has the same word and no sign. -/
theorem abs_ofWord (negative : Bool) {word : Nat} (numeric : word ≤ infinityWord) :
    (ofWord negative word).abs = ofWord false word := by
  apply eq_of_toBits
  apply UInt64.toBitVec_inj.mp
  have positive : Sign.positive = Sign.ofBitVec (BitVec.ofBool false) := rfl
  rw [← pack_ofFields_word false numeric, ← positive,
    ← abs_ofFields (Sign.ofBitVec (BitVec.ofBool negative)), ← unpack_ofWord negative numeric]
  rfl

/-! ## Comparing -/

/-- A word with the sign of its number.  Both zeros have the same one. -/
def signedWord (negative : Bool) (word : Nat) : Int :=
  if negative then -(word : Int) else word

@[simp]
theorem signedWord_false (word : Nat) : signedWord false word = word :=
  rfl

@[simp]
theorem signedWord_true (word : Nat) : signedWord true word = -(word : Int) :=
  rfl

@[simp]
theorem signedWord_zero (negative : Bool) : signedWord negative 0 = 0 := by
  cases negative <;> rfl

private theorem isLE_then_compare (exponent otherExponent : Int) (mantissa otherMantissa : Nat) :
    ((compare exponent otherExponent).then (compare mantissa otherMantissa)).isLE = true ↔
      exponent < otherExponent ∨ exponent = otherExponent ∧ mantissa ≤ otherMantissa := by
  rcases Int.lt_trichotomy exponent otherExponent with less | rfl | greater
  · rw [Int.compare_eq_lt.mpr less]
    exact iff_of_true rfl (Or.inl less)
  · rw [Int.compare_eq_eq.mpr rfl, Ordering.eq_then, Nat.isLE_compare]
    omega
  · rw [Int.compare_eq_gt.mpr greater]
    exact iff_of_false Bool.false_ne_true (by omega)

/-- The exponent of a finite word.  The subnormal ones have that of the least normal ones. -/
private def exponentOfWord (word : Nat) : Int :=
  (word / fractionSize - 1 : Nat) - 1074

/-- The mantissa of a finite word, which is the word without the steps of its exponent. -/
private def mantissaOfWord (word : Nat) : Nat :=
  word - (word / fractionSize - 1) * fractionSize

/-- Words are ordered by their exponents first, then by their mantissas. -/
private theorem le_iff_lexicographic (word other : Nat) :
    word ≤ other ↔
      exponentOfWord word < exponentOfWord other ∨
        exponentOfWord word = exponentOfWord other ∧
          mantissaOfWord word ≤ mantissaOfWord other := by
  simp only [exponentOfWord, mantissaOfWord, fractionSize]
  omega

private theorem ofFields_zero (sign : Sign) :
    ofFields sign (BitVec.ofNat 11 (0 / fractionSize)) (BitVec.ofNat 52 0) = .zero sign :=
  rfl

private theorem finite_congr
    {sign : Sign} {mantissa sameMantissa : Nat} {exponent sameExponent : Int}
    (mantissas : mantissa = sameMantissa) (exponents : exponent = sameExponent)
    (positive : 0 < mantissa) :
    UnpackedFloat.finite sign mantissa exponent positive =
      .finite sign sameMantissa sameExponent (mantissas ▸ positive) := by
  subst mantissas exponents
  rfl

/-- The exponent field of a finite word holds the whole quotient. -/
private theorem exponentField_eq_iff
    {word : Nat} (finite : word < infinityWord) (exponent : BitVec 11) :
    BitVec.ofNat 11 (word / fractionSize) = exponent ↔ word / fractionSize = exponent.toNat := by
  have small : word / fractionSize < 2 ^ 11 := by
    simp only [infinityWord, fractionSize] at finite ⊢
    omega
  rw [← BitVec.toNat_inj, BitVec.toNat_ofNat, Nat.mod_eq_of_lt small]

/-- A finite word other than that of zero has a mantissa and an exponent. -/
private theorem ofFields_word
    (sign : Sign) {word : Nat} (nonzero : word ≠ 0) (finite : word < infinityWord) :
    ∃ positive,
      ofFields sign (BitVec.ofNat 11 (word / fractionSize)) (BitVec.ofNat 52 word) =
        .finite sign (mantissaOfWord word) (exponentOfWord word) positive := by
  have exponent : (BitVec.ofNat 11 (word / fractionSize)).toNat = word / fractionSize :=
    ((exponentField_eq_iff finite _).mp rfl).symm
  have fraction : (BitVec.ofNat 52 word).toNat = word % fractionSize :=
    BitVec.toNat_ofNat word 52
  have notAllOnes : BitVec.ofNat 11 (word / fractionSize) ≠ -1#11 := by
    have ones : (-1#11).toNat = 2047 := rfl
    rw [Ne, exponentField_eq_iff finite, ones]
    simp only [infinityWord, fractionSize] at finite ⊢
    omega
  have zero : (0#11).toNat = 0 := rfl
  by_cases subnormal : word < fractionSize
  · have noSteps : word / fractionSize = 0 := Nat.div_eq_of_lt subnormal
    have exponentZero : BitVec.ofNat 11 (word / fractionSize) = 0#11 := by
      rw [noSteps]
    have mantissa : (BitVec.ofNat 52 word).toNat = mantissaOfWord word := by
      rw [fraction, Nat.mod_eq_of_lt subnormal, mantissaOfWord, noSteps, Nat.zero_sub,
        Nat.zero_mul, Nat.sub_zero]
    have fractionNonzero : BitVec.ofNat 52 word ≠ 0#52 := by
      rw [Ne, ← BitVec.toNat_inj, fraction, Nat.mod_eq_of_lt subnormal]
      exact nonzero
    refine ⟨_, Eq.trans
      ((if_neg notAllOnes).trans ((if_pos exponentZero).trans (dif_neg fractionNonzero)))
      (finite_congr mantissa ?_ ((BitVec.toNat_pos _).mpr ((BitVec.pos_iff_ne_zero _).mpr
        fractionNonzero)))⟩
    rw [exponent, exponentOfWord, exponentBias_eq]
    omega
  · have exponentNonzero : BitVec.ofNat 11 (word / fractionSize) ≠ 0#11 := by
      rw [Ne, exponentField_eq_iff finite, zero]
      simp only [fractionSize] at subnormal ⊢
      omega
    have mantissa : (1#1 ++ BitVec.ofNat 52 word).toNat = mantissaOfWord word := by
      rw [toNat_leadingOne, fraction, mantissaOfWord]
      simp only [fractionSize] at subnormal ⊢
      omega
    have positive : 0 < (1#1 ++ BitVec.ofNat 52 word).toNat := by
      rw [toNat_leadingOne]
      exact Nat.add_pos_left (by decide) _
    refine ⟨_, Eq.trans ((if_neg notAllOnes).trans (if_neg exponentNonzero))
      (finite_congr mantissa ?_ positive)⟩
    rw [exponent, exponentOfWord, exponentBias_eq]
    simp only [fractionSize] at subnormal ⊢
    omega

private theorem swap_then_compare
    (exponent otherExponent : Int) (mantissa otherMantissa : Nat) :
    ((compare exponent otherExponent).then (compare mantissa otherMantissa)).swap =
      (compare otherExponent exponent).then (compare otherMantissa mantissa) := by
  rw [Ordering.swap_then, Int.compare_swap, Nat.compare_swap]

/-- Against zero the sign decides. -/
private theorem zero_le_finite
    (sign : Sign) (negative : Bool) (mantissa : Nat) (exponent : Int) (positive : 0 < mantissa) :
    UnpackedFloat.le (.zero sign)
        (.finite (Sign.ofBitVec (BitVec.ofBool negative)) mantissa exponent positive) =
      !negative := by
  cases negative <;> rfl

private theorem finite_le_zero
    (sign : Sign) (negative : Bool) (mantissa : Nat) (exponent : Int) (positive : 0 < mantissa) :
    UnpackedFloat.le
        (.finite (Sign.ofBitVec (BitVec.ofBool negative)) mantissa exponent positive)
        (.zero sign) =
      negative := by
  cases negative <;> rfl

private theorem finite_le_finite_iff
    (negative otherNegative : Bool) {word other : Nat}
    (positive : 0 < mantissaOfWord word) (otherPositive : 0 < mantissaOfWord other) :
    UnpackedFloat.le
        (.finite (Sign.ofBitVec (BitVec.ofBool negative)) (mantissaOfWord word)
          (exponentOfWord word) positive)
        (.finite (Sign.ofBitVec (BitVec.ofBool otherNegative)) (mantissaOfWord other)
          (exponentOfWord other) otherPositive) = true ↔
      signedWord negative word ≤ signedWord otherNegative other := by
  have wordPositive : 0 < word := Nat.lt_of_lt_of_le positive (Nat.sub_le _ _)
  cases negative <;> cases otherNegative
  · refine (isLE_then_compare _ _ _ _).trans ?_
    rw [← le_iff_lexicographic, signedWord_false, signedWord_false, Int.ofNat_le]
  · refine iff_of_false Bool.false_ne_true ?_
    rw [signedWord_false, signedWord_true]
    omega
  · refine iff_of_true rfl ?_
    rw [signedWord_false, signedWord_true]
    omega
  · have backwards := congrArg Ordering.isLE
      (swap_then_compare (exponentOfWord word) (exponentOfWord other) (mantissaOfWord word)
        (mantissaOfWord other))
    refine (Bool.eq_iff_iff.mp backwards).trans ((isLE_then_compare _ _ _ _).trans ?_)
    rw [← le_iff_lexicographic, signedWord_true, signedWord_true, Int.neg_le_neg_iff,
      Int.ofNat_le]

/-- Finite numbers are ordered as their words are, those of negative numbers backwards. -/
theorem ofWord_le_ofWord_iff
    (negative otherNegative : Bool) {word other : Nat}
    (finite : word < infinityWord) (otherFinite : other < infinityWord) :
    ofWord negative word ≤ ofWord otherNegative other ↔
      signedWord negative word ≤ signedWord otherNegative other := by
  have unpacked :
      ofWord negative word ≤ ofWord otherNegative other ↔
        UnpackedFloat.le (unpack Format.binary64 (ofWord negative word).toBits.toBitVec)
          (unpack Format.binary64 (ofWord otherNegative other).toBits.toBitVec) = true :=
    decide_eq_true_iff
  rw [unpacked, unpack_ofWord negative (Nat.le_of_lt finite),
    unpack_ofWord otherNegative (Nat.le_of_lt otherFinite)]
  by_cases zero : word = 0 <;> by_cases otherZero : other = 0
  · subst zero otherZero
    rw [ofFields_zero, ofFields_zero, signedWord_zero, signedWord_zero]
    exact iff_of_true rfl (Int.le_refl 0)
  · obtain ⟨positive, fields⟩ :=
      ofFields_word (Sign.ofBitVec (BitVec.ofBool otherNegative)) otherZero otherFinite
    subst zero
    rw [ofFields_zero, fields, zero_le_finite, signedWord_zero]
    cases otherNegative
    · exact iff_of_true rfl (Int.natCast_nonneg other)
    · refine iff_of_false Bool.false_ne_true ?_
      rw [signedWord_true]
      omega
  · obtain ⟨positive, fields⟩ :=
      ofFields_word (Sign.ofBitVec (BitVec.ofBool negative)) zero finite
    subst otherZero
    rw [ofFields_zero, fields, finite_le_zero, signedWord_zero]
    cases negative
    · refine iff_of_false Bool.false_ne_true ?_
      rw [signedWord_false]
      omega
    · exact iff_of_true rfl (Int.neg_nonpos_of_nonneg (Int.natCast_nonneg word))
  · obtain ⟨positive, fields⟩ :=
      ofFields_word (Sign.ofBitVec (BitVec.ofBool negative)) zero finite
    obtain ⟨otherPositive, otherFields⟩ :=
      ofFields_word (Sign.ofBitVec (BitVec.ofBool otherNegative)) otherZero otherFinite
    rw [fields, otherFields]
    exact finite_le_finite_iff negative otherNegative positive otherPositive

end PocketCalc.Binary64
