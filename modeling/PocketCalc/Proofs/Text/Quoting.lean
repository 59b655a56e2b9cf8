import Mathlib.Data.List.Basic
import PocketCalc.Text.Quoted

/-!
# Quoting loses nothing

Behind its opening quote, a quoted text is a sequence of characters and escapes.  No escape is the
beginning of another one or of a plain character, and none begins with a quote, so that a reader who
goes through them from the left knows where each one ends, which character it stands for, and where
the closing quote is.  Two texts that are quoted alike are therefore the same, whatever follows.
-/

namespace PocketCalc.Text

/-- A text ends where a character comes that it does not contain. -/
theorem append_cons_inj {stop : Char} {first second rest other : List Char}
    (notInFirst : stop ∉ first) (notInSecond : stop ∉ second)
    (same : first ++ stop :: rest = second ++ stop :: other) : first = second ∧ rest = other := by
  induction first generalizing second with
  | nil =>
      cases second with
      | nil =>
          exact ⟨rfl, (List.cons_eq_cons.mp same).2⟩
      | cons character second =>
          rw [(List.cons_eq_cons.mp same).1] at notInSecond
          exact absurd List.mem_cons_self notInSecond
  | cons character first inductionHypothesis =>
      cases second with
      | nil =>
          rw [← (List.cons_eq_cons.mp same).1] at notInFirst
          exact absurd List.mem_cons_self notInFirst
      | cons otherCharacter second =>
          obtain ⟨sameHead, sameTail⟩ := List.cons_eq_cons.mp same
          obtain ⟨sameText, sameRest⟩ :=
            inductionHypothesis (List.not_mem_of_not_mem_cons notInFirst)
              (List.not_mem_of_not_mem_cons notInSecond) sameTail
          exact ⟨by rw [sameHead, sameText], sameRest⟩

/-! ## Code points -/

theorem digitChar_inj {first second : Nat} (firstSmall : first < 16) (secondSmall : second < 16)
    (same : first.digitChar = second.digitChar) : first = second := by
  have all : ∀ first < 16, ∀ second < 16, first.digitChar = second.digitChar → first = second := by
    decide
  exact all first firstSmall second secondSmall same

/-- The digits of a number determine it, in hexadecimal as well as in decimal. -/
theorem toDigits_inj {base first second : Nat} (large : 1 < base) (small : base ≤ 16)
    (same : Nat.toDigits base first = Nat.toDigits base second) : first = second := by
  induction first using Nat.strongRecOn generalizing second with
  | ind first inductionHypothesis =>
      by_cases firstSmall : first < base <;> by_cases secondSmall : second < base
      · rw [Nat.toDigits_of_lt_base firstSmall, Nat.toDigits_of_lt_base secondSmall] at same
        exact digitChar_inj (by omega) (by omega) (List.cons_eq_cons.mp same).1
      · rw [Nat.toDigits_of_lt_base firstSmall,
          Nat.toDigits_of_base_le large (Nat.le_of_not_lt secondSmall)] at same
        exact absurd (List.append_eq_singleton_iff.mp same.symm) (by simp)
      · rw [Nat.toDigits_of_lt_base secondSmall,
          Nat.toDigits_of_base_le large (Nat.le_of_not_lt firstSmall)] at same
        exact absurd (List.append_eq_singleton_iff.mp same) (by simp)
      · rw [Nat.toDigits_of_base_le large (Nat.le_of_not_lt firstSmall),
          Nat.toDigits_of_base_le large (Nat.le_of_not_lt secondSmall)] at same
        obtain ⟨leading, last⟩ := List.append_inj' same rfl
        have smaller : first / base < first := Nat.div_lt_self (by omega) large
        have quotients := inductionHypothesis (first / base) smaller leading
        have remainders := digitChar_inj
          (Nat.lt_of_lt_of_le (Nat.mod_lt first (by omega)) small)
          (Nat.lt_of_lt_of_le (Nat.mod_lt second (by omega)) small) (List.cons_eq_cons.mp last).1
        rw [← Nat.div_add_mod first base, quotients, remainders, Nat.div_add_mod]

theorem brace_not_mem_toDigits (number : Nat) : '}' ∉ Nat.toDigits 16 number := by
  have noDigit : ∀ digit < 16, digit.digitChar ≠ '}' := by
    decide
  induction number using Nat.strongRecOn with
  | ind number inductionHypothesis =>
      by_cases small : number < 16
      · rw [Nat.toDigits_of_lt_base small, List.mem_singleton]
        exact (noDigit number small).symm
      · rw [Nat.toDigits_of_base_le (by decide) (Nat.le_of_not_lt small), List.mem_append,
          List.mem_singleton, not_or]
        exact ⟨inductionHypothesis (number / 16) (by omega),
          (noDigit (number % 16) (Nat.mod_lt number (by decide))).symm⟩

/-! ## Escapes -/

/-- The character that a single letter stands for behind a backslash. -/
def ofLetter (letter : Char) : Char :=
  if letter = '0' then '\x00'
  else if letter = 't' then '\t'
  else if letter = 'r' then '\r'
  else if letter = 'n' then '\n'
  else letter

/-- How a character is written between the quotes. -/
inductive IsWritten (character : Char) : List Char → Prop where
  | plain (notQuote : character ≠ '"') (notBackslash : character ≠ '\\') :
      IsWritten character [character]
  | letter (letter : Char) (notCode : letter ≠ 'u') (meaning : ofLetter letter = character) :
      IsWritten character ['\\', letter]
  | codePoint :
      IsWritten character ('\\' :: 'u' :: '\x7b' :: (Nat.toDigits 16 character.toNat ++ ['}']))

theorem isWritten_escapeChar (character : Char) : IsWritten character (escapeChar character) := by
  rw [escapeChar]
  split_ifs with null tab carriageReturn newline quote special
  · exact .letter '0' (by decide) null.symm
  · exact .letter 't' (by decide) tab.symm
  · exact .letter 'r' (by decide) carriageReturn.symm
  · exact .letter 'n' (by decide) newline.symm
  · rw [Bool.or_eq_true, decide_eq_true_eq, decide_eq_true_eq] at quote
    rcases quote with rfl | rfl
    · exact .letter '"' (by decide) rfl
    · exact .letter '\\' (by decide) rfl
  · exact .codePoint
  · rw [Bool.or_eq_true, decide_eq_true_eq, decide_eq_true_eq, not_or] at quote
    exact .plain quote.1 quote.2

namespace IsWritten

variable {character otherCharacter : Char} {code otherCode rest other : List Char}

/-- What stands between the quotes does not begin with a quote. -/
theorem head (written : IsWritten character code) :
    ∃ first others, code = first :: others ∧ first ≠ '"' := by
  cases written with
  | plain notQuote notBackslash =>
      exact ⟨character, [], rfl, notQuote⟩
  | letter letter notCode meaning =>
      exact ⟨'\\', [letter], rfl, by decide⟩
  | codePoint =>
      exact ⟨'\\', _, rfl, by decide⟩

/-- No way of writing a character is the beginning of a way of writing another. -/
theorem append_inj
    (written : IsWritten character code) (otherWritten : IsWritten otherCharacter otherCode)
    (same : code ++ rest = otherCode ++ other) : character = otherCharacter := by
  -- The first two characters tell in which of the three ways the character is written.
  cases written with
  | plain notQuote notBackslash =>
      cases otherWritten with
      | plain _ _ =>
          exact (List.cons_eq_cons.mp same).1
      | letter _ _ _ =>
          exact absurd (List.cons_eq_cons.mp same).1 notBackslash
      | codePoint =>
          exact absurd (List.cons_eq_cons.mp same).1 notBackslash
  | letter letter notCode meaning =>
      cases otherWritten with
      | plain _ notBackslash =>
          exact absurd (List.cons_eq_cons.mp same).1.symm notBackslash
      | letter otherLetter _ otherMeaning =>
          have tail := (List.cons_eq_cons.mp same).2
          rw [← meaning, ← otherMeaning, (List.cons_eq_cons.mp tail).1]
      | codePoint =>
          have tail := (List.cons_eq_cons.mp same).2
          exact absurd (List.cons_eq_cons.mp tail).1 notCode
  | codePoint =>
      cases otherWritten with
      | plain _ notBackslash =>
          exact absurd (List.cons_eq_cons.mp same).1.symm notBackslash
      | letter _ notCode _ =>
          have tail := (List.cons_eq_cons.mp same).2
          exact absurd (List.cons_eq_cons.mp tail).1.symm notCode
      | codePoint =>
          simp only [List.cons_append, List.append_assoc, List.nil_append, List.cons.injEq,
            true_and] at same
          have sameDigits := (append_cons_inj (brace_not_mem_toDigits _)
            (brace_not_mem_toDigits _) same).1
          exact Char.toNat_inj.mp (toDigits_inj (by decide) (by decide) sameDigits)

end IsWritten

/-! ## Quoted texts -/

theorem escapes_append_inj {first second rest other : List Char}
    (same :
      first.flatMap escapeChar ++ '"' :: rest = second.flatMap escapeChar ++ '"' :: other) :
    first = second ∧ rest = other := by
  induction first generalizing second with
  | nil =>
      cases second with
      | nil =>
          exact ⟨rfl, (List.cons_eq_cons.mp same).2⟩
      | cons character second =>
          obtain ⟨head, others, code, notQuote⟩ := (isWritten_escapeChar character).head
          rw [List.flatMap_cons, code] at same
          exact absurd (List.cons_eq_cons.mp same).1.symm notQuote
  | cons character first inductionHypothesis =>
      cases second with
      | nil =>
          obtain ⟨head, others, code, notQuote⟩ := (isWritten_escapeChar character).head
          rw [List.flatMap_cons, code] at same
          exact absurd (List.cons_eq_cons.mp same).1 notQuote
      | cons otherCharacter second =>
          rw [List.flatMap_cons, List.flatMap_cons, List.append_assoc, List.append_assoc] at same
          have sameCharacter :=
            (isWritten_escapeChar character).append_inj (isWritten_escapeChar otherCharacter) same
          rw [sameCharacter] at same
          obtain ⟨sameText, sameRest⟩ := inductionHypothesis (List.append_cancel_left same)
          exact ⟨by rw [sameCharacter, sameText], sameRest⟩

/-- A quoted text can be told from what follows it, and the text from its quotation. -/
theorem quote_append_inj {first second rest other : String}
    (same : quote first ++ rest = quote second ++ other) : first = second ∧ rest = other := by
  have characters := congrArg String.toList same
  simp only [quote, String.toList_append, String.toList_ofList, List.cons_append,
    List.append_assoc, List.nil_append] at characters
  obtain ⟨sameText, sameRest⟩ := escapes_append_inj (List.cons_eq_cons.mp characters).2
  exact ⟨String.toList_inj.mp sameText, String.toList_inj.mp sameRest⟩

theorem quote_inj {first second : String} (same : quote first = quote second) : first = second :=
  (quote_append_inj (congrArg (· ++ "") same)).1

end PocketCalc.Text
