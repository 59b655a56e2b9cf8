/-!
# Removing blanks and copies

Blank characters are those with the Unicode property `White_Space`; they are trimmed from both ends
of a text.

Every copy of a given text can be removed from another.  Copies are found from left to right and do
not overlap: the search goes on behind a copy that was removed, and text that comes together by a
removal is not searched again.
-/

namespace PocketCalc.Text

/-! ## Blanks -/

/-- The code points with the property `White_Space`, as inclusive ranges in order. -/
def blankRanges : List (Nat × Nat) :=
  [(0x9, 0xd), (0x20, 0x20), (0x85, 0x85), (0xa0, 0xa0), (0x1680, 0x1680), (0x2000, 0x200a),
    (0x2028, 0x2029), (0x202f, 0x202f), (0x205f, 0x205f), (0x3000, 0x3000)]

def isBlank (character : Char) : Bool :=
  blankRanges.any fun (first, last) => first ≤ character.toNat && character.toNat ≤ last

/-- Remove the blank characters at both ends. -/
def trim (text : List Char) : List Char :=
  ((text.dropWhile isBlank).reverse.dropWhile isBlank).reverse

/-- A text is blank when trimming leaves nothing of it. -/
def isBlankText (text : List Char) : Bool :=
  text.all isBlank

/-! ## Copies -/

/-- Remove every copy of a non-empty text from what follows the next `skipped` characters, and
those characters too. -/
def removeFrom (copy : List Char) : (skipped : Nat) → List Char → List Char
  | _, [] => []
  | skipped + 1, _ :: rest => removeFrom copy skipped rest
  | 0, character :: rest =>
      if copy.isPrefixOf (character :: rest) then
        removeFrom copy (copy.length - 1) rest
      else
        character :: removeFrom copy 0 rest

/-- Remove every copy of a text; an empty text has no copies to remove. -/
def removeCopies (copy text : List Char) : List Char :=
  if copy.isEmpty then text else removeFrom copy 0 text

theorem removeFrom_skipped (copy skippedText rest : List Char) :
    removeFrom copy skippedText.length (skippedText ++ rest) = removeFrom copy 0 rest := by
  induction skippedText with
  | nil =>
      rfl
  | cons character skippedText inductionHypothesis =>
      simpa [removeFrom] using inductionHypothesis

/-- A copy at the start of a text is removed, and the search goes on behind it. -/
theorem removeCopies_copy_append {copy : List Char} (nonempty : copy ≠ []) (rest : List Char) :
    removeCopies copy (copy ++ rest) = removeCopies copy rest := by
  cases copy with
  | nil =>
      exact absurd rfl nonempty
  | cons first others =>
      have starts : (first :: others).isPrefixOf (first :: (others ++ rest)) := by
        simp
      simp only [removeCopies, List.isEmpty_cons, List.cons_append, Bool.false_eq_true, if_false]
      rw [removeFrom, if_pos starts]
      exact removeFrom_skipped (first :: others) others rest

end PocketCalc.Text
