import PocketCalc.Proofs.Screen.Entry
import PocketCalc.Screen.Keypad

/-!
# The keys of the keypad

On the keypad a key is known by its place; which character the key of the decimal mark types depends
on the locale.  An entry is a list of keys of digits and of the mark, read as the same number under
every format whose separator shares no character with it.
-/

namespace PocketCalc

/-- A key that types one character. -/
inductive EntryKey where
  | digit (digit : Fin 10)
  | mark
  deriving DecidableEq, Repr

namespace EntryKey

open NumberFormat

def character (mark : Char) : EntryKey → Char
  | .digit number => KeyedNumber.digitCharacter number
  | .mark => mark

/-- The text of an entry. -/
def text (mark : Char) (entry : List EntryKey) : String :=
  String.ofList (entry.map (character mark))

/-- The entry after one more key.  A second mark is refused. -/
def extend (entry : List EntryKey) (key : EntryKey) : List EntryKey :=
  if key = .mark ∧ .mark ∈ entry then entry else entry ++ [key]

theorem extend_ne_nil (entry : List EntryKey) (key : EntryKey) : extend entry key ≠ [] := by
  unfold extend
  split
  · next refused =>
      exact List.ne_nil_of_mem refused.2
  · exact List.append_ne_nil_of_right_ne_nil entry (List.cons_ne_nil key [])

variable {format : NumberFormat}

theorem character_eq_decimalMark (key : EntryKey) :
    key.character format.decimalMark = format.decimalMark ↔ key = .mark := by
  constructor
  · intro isMark
    cases key with
    | digit digit =>
        have digits : ∀ character ∈ [KeyedNumber.digitCharacter digit], character.isDigit := by
          intro character member
          rw [List.mem_singleton.mp member]
          exact KeyedNumber.isDigit_digitCharacter digit
        have member : format.decimalMark ∈ [KeyedNumber.digitCharacter digit] := by
          rw [List.mem_singleton]
          exact isMark.symm
        exact absurd member (decimalMark_not_mem_digits digits)
    | mark =>
        rfl
  · rintro rfl
    rfl

theorem decimalMark_mem_text (entry : List EntryKey) :
    format.decimalMark ∈ (text format.decimalMark entry).toList ↔ .mark ∈ entry := by
  rw [text, String.toList_ofList, List.mem_map]
  constructor
  · rintro ⟨key, member, isMark⟩
    exact (character_eq_decimalMark key).mp isMark ▸ member
  · intro member
    exact ⟨.mark, member, rfl⟩

theorem isNumeralCharacter (key : EntryKey) :
    format.IsNumeralCharacter (key.character format.decimalMark) := by
  cases key with
  | digit digit =>
      exact Or.inl (KeyedNumber.isDigit_digitCharacter digit)
  | mark =>
      exact Or.inr (Or.inr rfl)

theorem pointForMark_character (key : EntryKey) :
    format.pointForMark (key.character format.decimalMark) = key.character '.' := by
  unfold pointForMark
  by_cases mark : key = .mark
  · subst mark
    exact if_pos rfl
  · rw [if_neg (mt (character_eq_decimalMark key).mp mark)]
    cases key with
    | digit digit =>
        rw [character, character]
    | mark =>
        exact absurd rfl mark

theorem isEmpty_text {mark : Char} {entry : List EntryKey} :
    (text mark entry).isEmpty = true ↔ entry = [] := by
  rw [String.isEmpty_iff, text, ← String.toList_eq_nil_iff, String.toList_ofList,
    List.map_eq_nil_iff]

/-- An entry is read as it would be with a point for the mark. -/
theorem read?_text (readable : format.Readable) (entry : List EntryKey) :
    format.read? (text format.decimalMark entry) = Literal.read? (entry.map (character '.')) := by
  have numeral (character : Char)
      (member : character ∈ entry.map (EntryKey.character format.decimalMark)) :
      format.IsNumeralCharacter character := by
    obtain ⟨key, _, rfl⟩ := List.mem_map.mp member
    exact key.isNumeralCharacter
  have kept := Text.removeCopies_eq_self fun character member =>
    (numeral character member).not_mem_separator readable
  have pointed :
      (entry.map (character format.decimalMark)).map format.pointForMark =
        entry.map (character '.') := by
    rw [List.map_map]
    apply List.map_congr_left
    intro key _
    rw [Function.comp_apply, pointForMark_character]
  rw [read?, text, String.toList_ofList, plain_of_removed numeral kept, pointed]

end EntryKey

/-- A key of the keypad. -/
inductive KeypadKey where
  | entry (key : EntryKey)
  | operation (symbol : String)
  | storeMemory
  | recallMemory
  | clear
  | back
  deriving DecidableEq, Repr

namespace KeypadKey

/-- What the key does where the decimal mark is the given one. -/
def key (mark : Char) : KeypadKey → Key
  | .entry entryKey => .entry (String.singleton (entryKey.character mark))
  | .operation symbol => .operation symbol
  | .storeMemory => .storeMemory
  | .recallMemory => .recallMemory
  | .clear => .clear
  | .back => .back

end KeypadKey

namespace Screen

variable {screen : Screen}

theorem type_idle (idle : screen.typing = false) (key : EntryKey) :
    screen.type (String.singleton (key.character screen.format.decimalMark)) =
      { screen with
        display := EntryKey.text screen.format.decimalMark [key]
        typing := true } := by
  rw [type, if_neg (ne_true_of_eq_false idle)]
  rfl

theorem type_typing
    {entry : List EntryKey} (typing : screen.typing = true)
    (display : screen.display = EntryKey.text screen.format.decimalMark entry)
    (key : EntryKey) :
    screen.type (String.singleton (key.character screen.format.decimalMark)) =
      { screen with
        display := EntryKey.text screen.format.decimalMark (EntryKey.extend entry key)
        typing := true } := by
  have isMark :
      (String.singleton (key.character screen.format.decimalMark)).toList =
          [screen.format.decimalMark] ↔
        key = .mark := by
    rw [String.toList_singleton, List.singleton_inj]
    exact EntryKey.character_eq_decimalMark key
  have alreadyMarked :
      screen.format.decimalMark ∈ screen.display.toList ↔ .mark ∈ entry := by
    rw [display]
    exact EntryKey.decimalMark_mem_text entry
  have appended :
      screen.display ++ String.singleton (key.character screen.format.decimalMark) =
        EntryKey.text screen.format.decimalMark (entry ++ [key]) := by
    rw [display, EntryKey.text, EntryKey.text, List.map_append, String.ofList_append]
    rfl
  have sameCondition :
      (String.singleton (key.character screen.format.decimalMark)).toList =
            [screen.format.decimalMark] ∧
          screen.format.decimalMark ∈ screen.display.toList ↔
        key = .mark ∧ .mark ∈ entry :=
    and_congr isMark alreadyMarked
  rw [type, if_pos typing, EntryKey.extend]
  dsimp only
  by_cases refused : key = .mark ∧ .mark ∈ entry
  · rw [if_pos (sameCondition.mpr refused), if_pos refused, ← display, ← typing]
  · rw [if_neg (mt sameCondition.mp refused), if_neg refused, appended, typing]

theorem back_typing
    {entry : List EntryKey} (typing : screen.typing = true)
    (display : screen.display = EntryKey.text screen.format.decimalMark entry)
    (nonempty : entry ≠ []) :
    screen.back =
      if entry.dropLast = [] then
        refresh { screen with display := screen.format.display 0.0, typing := false }
      else
        { screen with
          display := EntryKey.text screen.format.decimalMark entry.dropLast
          typing := true } := by
  have shorter :
      String.ofList screen.display.toList.dropLast =
        EntryKey.text screen.format.decimalMark entry.dropLast := by
    rw [display, EntryKey.text, EntryKey.text, String.toList_ofList, List.map_dropLast]
  have shown : ¬screen.display.isEmpty = true := by
    rw [display]
    exact mt EntryKey.isEmpty_text.mp nonempty
  rw [back, if_pos typing, if_neg shown]
  dsimp only
  rw [shorter]
  by_cases last : entry.dropLast = []
  · rw [if_pos (EntryKey.isEmpty_text.mpr last), if_pos last]
  · rw [if_neg (mt EntryKey.isEmpty_text.mp last), if_neg last, typing]

end Screen

end PocketCalc
