import PocketCalc.Proofs.Number.Decimals

/-!
# Written numbers

The grammar of written numbers as a condition on the text alone: an optional sign, and then a name,
or digits with at most one point among, before or behind them and an optional exponent.  The reader
accepts these texts and no others.

It splits a text from the left and looks at each character once.  The parts of a written number are
where it looks for them, because none begins with a character that the part before it could go on
with: digits do not begin with a sign, nor an exponent with a digit or a point.
-/

namespace PocketCalc.Literal

/-! ## The grammar -/

def signs : List (List Char) :=
  [[], ['+'], ['-']]

/-- The names of the infinities and of NaN, in lower case. -/
def names : List (List Char) :=
  ["inf".toList, "infinity".toList, "nan".toList]

/-- Nothing, or an `e`, an optional sign and at least one digit. -/
inductive IsExponent : List Char → Prop where
  | absent : IsExponent []
  | marked {marker : Char} {sign digits : List Char}
      (isMarker : marker = 'e' ∨ marker = 'E') (isSign : sign ∈ signs)
      (allDigits : ∀ digit ∈ digits, digit.isDigit) (nonempty : digits ≠ []) :
      IsExponent (marker :: (sign ++ digits))

/-- Digits with at most one point, at least one digit in all, and an exponent. -/
inductive IsDecimal : List Char → Prop where
  | digits {whole exponent : List Char} {fraction? : Option (List Char)}
      (wholeDigits : ∀ digit ∈ whole, digit.isDigit)
      (fractionDigits : ∀ digit ∈ fraction?.getD [], digit.isDigit)
      (nonempty : whole ++ fraction?.getD [] ≠ []) (isExponent : IsExponent exponent) :
      IsDecimal (whole ++ (markedFraction '.' fraction? ++ exponent))

/-- A name, in letters of either case. -/
def IsName (text : List Char) : Prop :=
  text.map Char.toLower ∈ names

inductive IsWrittenNumber : List Char → Prop where
  | decimal {sign text : List Char} (isSign : sign ∈ signs) (isDecimal : IsDecimal text) :
      IsWrittenNumber (sign ++ text)
  | named {sign text : List Char} (isSign : sign ∈ signs) (isName : IsName text) :
      IsWrittenNumber (sign ++ text)

/-! ## Signs -/

theorem exists_sign (text : List Char) :
    ∃ sign ∈ signs, sign ++ (splitSign text).2 = text := by
  unfold splitSign
  split
  · exact ⟨['+'], by decide, rfl⟩
  · exact ⟨['-'], by decide, rfl⟩
  · exact ⟨[], by decide, rfl⟩

theorem splitSign_append
    {sign text : List Char} (isSign : sign ∈ signs) (unsigned : IsUnsigned text) :
    (splitSign (sign ++ text)).2 = text := by
  rcases List.mem_cons.mp isSign with rfl | isMark
  · rw [List.nil_append, splitSign_of_isUnsigned unsigned]
  · rcases List.mem_pair.mp isMark with rfl | rfl
    · rfl
    · rfl

theorem IsDecimal.isUnsigned {text : List Char} (isDecimal : IsDecimal text) :
    IsUnsigned text := by
  cases isDecimal with
  | digits wholeDigits fractionDigits nonempty isExponent =>
      exact isUnsigned_decimal wholeDigits nonempty _

/-- Every name begins with a letter. -/
theorem head?_of_mem_names {name : List Char} (isName : name ∈ names) :
    name.head? = some 'i' ∨ name.head? = some 'n' := by
  have all : ∀ name ∈ names, name.head? = some 'i' ∨ name.head? = some 'n' := by
    simp [names]
  exact all name isName

theorem IsName.isUnsigned {text : List Char} (isName : IsName text) : IsUnsigned text := by
  intro character first
  have letter := head?_of_mem_names isName
  rw [List.head?_map, Option.mem_def.mp first, Option.map_some] at letter
  constructor
  · rintro rfl
    exact absurd letter (by decide)
  · rintro rfl
    exact absurd letter (by decide)

/-! ## The parts of a number -/

theorem IsExponent.endsDigits {text : List Char} (isExponent : IsExponent text) :
    EndsDigits text := by
  cases isExponent with
  | absent =>
      exact endsDigits_nil
  | marked isMarker isSign allDigits nonempty =>
      intro character first
      obtain rfl := Option.some.inj first
      rcases isMarker with rfl | rfl
      · decide
      · decide

theorem isSome_exponent?_cons (marker : Char) (rest : List Char) :
    (exponent? (marker :: rest)).isSome = true ↔
      (marker = 'e' ∨ marker = 'E') ∧
        (∀ digit ∈ (splitSign rest).2, digit.isDigit) ∧ (splitSign rest).2 ≠ [] := by
  have digits :
      ((splitSign rest).2.isEmpty || !(splitSign rest).2.all Char.isDigit) = false ↔
        (∀ digit ∈ (splitSign rest).2, digit.isDigit) ∧ (splitSign rest).2 ≠ [] := by
    simp [and_comm]
  rw [← digits, exponent?]
  dsimp only
  split_ifs with isMarker noDigits
  · simp [noDigits]
  · simp_all
  · simp_all
  · simp_all

theorem isSome_exponent?_iff (text : List Char) :
    (exponent? text).isSome = true ↔ IsExponent text := by
  constructor
  · intro accepted
    cases text with
    | nil =>
        exact .absent
    | cons marker rest =>
        obtain ⟨isMarker, allDigits, nonempty⟩ := (isSome_exponent?_cons marker rest).mp accepted
        obtain ⟨sign, isSign, split⟩ := exists_sign rest
        rw [← split]
        exact .marked isMarker isSign allDigits nonempty
  · rintro (_ | ⟨isMarker, isSign, allDigits, nonempty⟩)
    · rfl
    · have behindSign := splitSign_append isSign (isUnsigned_digits allDigits)
      rw [isSome_exponent?_cons, behindSign]
      exact ⟨isMarker, allDigits, nonempty⟩

/-- What is taken for the point and the digits behind it, and what follows them. -/
theorem exists_markedFraction (text : List Char) :
    ∃ fraction? : Option (List Char),
      (∀ digit ∈ fraction?.getD [], digit.isDigit) ∧
        (splitFraction text).1 = fraction?.getD [] ∧
        markedFraction '.' fraction? ++ (splitFraction text).2 = text := by
  unfold splitFraction
  split
  · next rest =>
      refine ⟨some (rest.takeWhile Char.isDigit), fun _ => List.mem_takeWhile_imp, rfl, ?_⟩
      exact congrArg ('.' :: ·) List.takeWhile_append_dropWhile
  · exact ⟨none, fun _ member => absurd member List.not_mem_nil, rfl, rfl⟩

theorem isSome_decimalWord?_iff (text : List Char) :
    (decimalWord? text).isSome = true ↔ IsDecimal text := by
  constructor
  · intro accepted
    have wholeDigits : ∀ digit ∈ text.takeWhile Char.isDigit, digit.isDigit :=
      fun _ => List.mem_takeWhile_imp
    obtain ⟨fraction?, fractionDigits, fraction, split⟩ :=
      exists_markedFraction (text.dropWhile Char.isDigit)
    rw [decimalWord?] at accepted
    dsimp only at accepted
    rw [fraction] at accepted
    split_ifs at accepted with noDigit
    · exact absurd accepted (by decide)
    · rw [Option.isSome_map, isSome_exponent?_iff] at accepted
      have nonempty : text.takeWhile Char.isDigit ++ fraction?.getD [] ≠ [] := by
        intro empty
        obtain ⟨noWhole, noFraction⟩ := List.append_eq_nil_iff.mp empty
        rw [noWhole, noFraction] at noDigit
        exact noDigit rfl
      have written := IsDecimal.digits wholeDigits fractionDigits nonempty accepted
      rw [split, List.takeWhile_append_dropWhile] at written
      exact written
  · rintro ⟨wholeDigits, fractionDigits, nonempty, isExponent⟩
    next whole exponent fraction? =>
    obtain ⟨taken, dropped⟩ := splitWhole wholeDigits fraction? isExponent.endsDigits
    have fraction := splitFraction_markedFraction fractionDigits isExponent.endsDigits
    have someDigit : ¬(whole.isEmpty && (fraction?.getD []).isEmpty) = true := by
      rw [Bool.and_eq_true, List.isEmpty_iff, List.isEmpty_iff, ← List.append_eq_nil_iff]
      exact nonempty
    rw [decimalWord?, taken, dropped, fraction]
    dsimp only
    rw [if_neg someDigit, Option.isSome_map, isSome_exponent?_iff]
    exact isExponent

theorem isSome_namedWord?_iff (text : List Char) :
    (namedWord? text).isSome = true ↔ IsName text := by
  rw [namedWord?, IsName, names, List.mem_cons, List.mem_pair, ← or_assoc]
  split_ifs with infinite notANumber
  · simp only [infinite, true_or, Option.isSome_some]
  · simp only [notANumber, or_true, Option.isSome_some]
  · simp only [infinite, notANumber, or_self, Option.isSome_none, Bool.false_eq_true]

theorem isSome_read?_iff (text : List Char) :
    (read? text).isSome = true ↔ IsWrittenNumber text := by
  have parts :
      (read? text).isSome = true ↔
        IsDecimal (splitSign text).2 ∨ IsName (splitSign text).2 := by
    rw [read?, Option.isSome_map, Option.isSome_or, Bool.or_eq_true, isSome_decimalWord?_iff,
      isSome_namedWord?_iff]
  rw [parts]
  constructor
  · obtain ⟨sign, isSign, split⟩ := exists_sign text
    rintro (isDecimal | isName)
    · rw [← split]
      exact .decimal isSign isDecimal
    · rw [← split]
      exact .named isSign isName
  · rintro (⟨isSign, isDecimal⟩ | ⟨isSign, isName⟩)
    · rw [splitSign_append isSign isDecimal.isUnsigned]
      exact Or.inl isDecimal
    · rw [splitSign_append isSign isName.isUnsigned]
      exact Or.inr isName

/-- Nothing is read from a text that is not a written number. -/
theorem read?_eq_none_iff (text : List Char) : read? text = none ↔ ¬IsWrittenNumber text := by
  rw [← isSome_read?_iff, Bool.not_eq_true, Option.isSome_eq_false_iff, Option.isNone_iff_eq_none]

instance : DecidablePred IsWrittenNumber :=
  fun text => decidable_of_iff _ (isSome_read?_iff text)

example : IsWrittenNumber "-.5E+03".toList ∧ ¬IsWrittenNumber "1e".toList := by
  decide

end PocketCalc.Literal
