import PocketCalc.Proofs.NumberFormat.KeyedNumber
import PocketCalc.Screen.Basic

/-!
# Keying in a number

A number is keyed in digit by digit, with the decimal mark at most once among the digits.  The first
key replaces what was shown, the others are appended, and an operation key then makes the entry an
operand: the number nearest to the decimal that was keyed in.
-/

namespace PocketCalc

/-- The keys of the entry: one for each character. -/
def KeyedNumber.keys (mark : Char) (number : KeyedNumber) : List Key :=
  (number.characters mark).map fun character => .entry (String.singleton character)

namespace Screen

open KeyedNumber

/-! ## The entry on the screen -/

theorem type_character
    {screen : Screen} {shown : List Char} {character : Char}
    (display : screen.display = String.ofList shown) (typing : screen.typing = true)
    (once : (shown ++ [character]).count screen.format.decimalMark ≤ 1) :
    screen.type (String.singleton character) =
      { screen with display := String.ofList (shown ++ [character]) } := by
  have notRefused :
      ¬((String.singleton character).toList = [screen.format.decimalMark] ∧
        screen.format.decimalMark ∈ screen.display.toList) := by
    rintro ⟨isMark, already⟩
    rw [String.toList_singleton, List.singleton_inj] at isMark
    rw [display, String.toList_ofList] at already
    have shownOnce := List.count_pos_iff.mpr already
    rw [List.count_append, isMark, List.count_singleton_self] at once
    omega
  have appended : screen.display ++ String.singleton character =
      String.ofList (shown ++ [character]) := by
    rw [display, String.ofList_append]
    rfl
  rw [type, if_pos typing]
  dsimp only
  rw [if_neg notRefused, appended]

theorem pressAll_while_typing
    (screen : Screen) (shown characters : List Char)
    (display : screen.display = String.ofList shown) (typing : screen.typing = true)
    (once : (shown ++ characters).count screen.format.decimalMark ≤ 1) :
    screen.pressAll (characters.map fun character => .entry (String.singleton character)) =
      { screen with display := String.ofList (shown ++ characters) } := by
  induction characters generalizing screen shown with
  | nil =>
      rw [List.append_nil, ← display]
      rfl
  | cons character characters inductionHypothesis =>
      rw [List.append_cons] at once
      -- Counting the mark in what will be shown at the end rules out that this key is refused.
      have onceSoFar : (shown ++ [character]).count screen.format.decimalMark ≤ 1 := by
        rw [List.count_append] at once
        omega
      rw [List.map_cons, pressAll, List.foldl_cons, press, type_character display typing onceSoFar]
      rw [List.append_cons shown character characters]
      exact inductionHypothesis { screen with display := String.ofList (shown ++ [character]) }
        (shown ++ [character]) rfl typing once

/-- Keying in a number shows its characters and changes nothing else. -/
theorem pressAll_keys {screen : Screen} (idle : screen.typing = false) (number : KeyedNumber) :
    screen.pressAll (number.keys screen.format.decimalMark) =
      { screen with
        display := String.ofList (number.characters screen.format.decimalMark)
        typing := true } := by
  have once := count_mark_characters screen.format number
  cases characters : number.characters screen.format.decimalMark with
  | nil =>
      exact absurd characters (number.characters_ne_nil _)
  | cons first others =>
      rw [characters] at once
      have typed :
          screen.type (String.singleton first) =
            { screen with display := String.ofList [first], typing := true } := by
        rw [type, if_neg (ne_true_of_eq_false idle)]
        rfl
      rw [keys, characters, List.map_cons, pressAll, List.foldl_cons, press, typed]
      exact pressAll_while_typing
        { screen with display := String.ofList [first], typing := true } [first] others
        rfl rfl once

/-- An operation key makes the entry an operand before its own symbol. -/
theorem operate_entry
    {screen : Screen} {symbol : String} {value : Float}
    (typing : screen.typing = true) (available : screen.isAvailable symbol = true)
    (shown : screen.shownValue? = some value) :
    screen.operate symbol =
      refresh
        { screen with
          session :=
            (screen.session.edit (.append (.operand value))).edit (.append (.symbol symbol))
          typing := false } := by
  rw [operate, if_pos available, commit]
  simp only [typing, if_true, shown]
  rfl

/-- A number and an operation key behind it. -/
theorem pressAll_number
    {screen : Screen} (idle : screen.typing = false) (readable : screen.format.Readable)
    (number : KeyedNumber) {symbol : String} (available : screen.isAvailable symbol = true) :
    screen.pressAll (number.keys screen.format.decimalMark ++ [.operation symbol]) =
      refresh
        { screen with
          session :=
            (screen.session.edit (.append (.operand number.value))).edit
              (.append (.symbol symbol))
          display := String.ofList (number.characters screen.format.decimalMark)
          typing := false } := by
  have shown :
      shownValue?
          { screen with
            display := String.ofList (number.characters screen.format.decimalMark)
            typing := true } =
        some number.value :=
    number.read?_characters readable
  rw [pressAll_append, pressAll_keys idle number]
  exact operate_entry rfl available shown

end Screen

end PocketCalc
