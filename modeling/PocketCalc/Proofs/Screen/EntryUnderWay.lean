import PocketCalc.Proofs.Screen.KeypadKeys
import PocketCalc.Proofs.Screen.Reflection

/-!
# The entry under way

While a number is typed on the keypad, the screen shows the keys of the entry and nothing else: at
least one, and the decimal mark at most once.  The first key replaces whatever was shown before, and
when the last one is taken back the typing is over, so that results, separators and error tokens are
never part of an entry.

Such an entry is the lone mark or a keyed number.  An operation key makes an operand of the number,
and of the lone mark nothing.
-/

namespace PocketCalc

namespace EntryKey

/-- The keys of an entry under way. -/
structure IsEntry (entry : List EntryKey) : Prop where
  nonempty : entry ≠ []
  markOnce : entry.count .mark ≤ 1

theorem isEntry_singleton (key : EntryKey) : IsEntry [key] where
  nonempty := List.cons_ne_nil key []
  markOnce := List.count_le_length

variable {entry : List EntryKey}

theorem IsEntry.extend (isEntry : IsEntry entry) (key : EntryKey) :
    IsEntry (EntryKey.extend entry key) where
  nonempty := extend_ne_nil entry key
  markOnce := by
    unfold EntryKey.extend
    split
    · exact isEntry.markOnce
    · next accepted =>
        by_cases isMark : key = .mark
        · have noMark : .mark ∉ entry := fun already => accepted ⟨isMark, already⟩
          rw [List.count_append, List.count_eq_zero.mpr noMark, Nat.zero_add]
          exact List.count_le_length
        · rw [List.count_append, List.count_singleton, if_neg (by simpa using isMark)]
          exact isEntry.markOnce

theorem IsEntry.dropLast (isEntry : IsEntry entry) (more : entry.dropLast ≠ []) :
    IsEntry entry.dropLast where
  nonempty := more
  markOnce := ((List.dropLast_sublist entry).count_le .mark).trans isEntry.markOnce

theorem exists_digits (noMark : .mark ∉ entry) :
    ∃ digits : List (Fin 10), digits.map EntryKey.digit = entry := by
  induction entry with
  | nil =>
      exact ⟨[], rfl⟩
  | cons key entry inductionHypothesis =>
      obtain ⟨digits, rfl⟩ := inductionHypothesis (List.not_mem_of_not_mem_cons noMark)
      cases key with
      | digit digit =>
          exact ⟨digit :: digits, rfl⟩
      | mark =>
          exact absurd List.mem_cons_self noMark

theorem map_character_digits (mark : Char) (digits : List (Fin 10)) :
    (digits.map EntryKey.digit).map (character mark) = digits.map KeyedNumber.digitCharacter := by
  rw [List.map_map]
  rfl

/-- An entry is the lone mark or has a digit, and is then a number. -/
theorem IsEntry.mark_or_number (isEntry : IsEntry entry) (mark : Char) :
    entry = [.mark] ∨
      ∃ number : KeyedNumber, number.characters mark = entry.map (character mark) := by
  by_cases marked : .mark ∈ entry
  · obtain ⟨before, after, rfl⟩ := List.append_of_mem marked
    have once := isEntry.markOnce
    rw [List.count_append, List.count_cons_self] at once
    have noneBefore : before.count .mark = 0 := by omega
    have noneAfter : after.count .mark = 0 := by omega
    obtain ⟨whole, rfl⟩ := exists_digits (List.count_eq_zero.mp noneBefore)
    obtain ⟨fraction, rfl⟩ := exists_digits (List.count_eq_zero.mp noneAfter)
    by_cases noDigit : whole ++ fraction = []
    · obtain ⟨rfl, rfl⟩ := List.append_eq_nil_iff.mp noDigit
      exact Or.inl rfl
    · refine Or.inr ⟨⟨whole, some fraction, noDigit⟩, ?_⟩
      rw [List.map_append, List.map_cons, map_character_digits, map_character_digits]
      rfl
  · obtain ⟨whole, rfl⟩ := exists_digits marked
    have someDigit : whole ++ [] ≠ [] := by
      intro noDigit
      rw [List.append_nil] at noDigit
      exact isEntry.nonempty (by rw [noDigit]; rfl)
    refine Or.inr ⟨⟨whole, none, someDigit⟩, ?_⟩
    rw [map_character_digits]
    exact List.append_nil _

variable {format : NumberFormat}

theorem isDigit_or_mark_of_mem_text
    {character : Char} (member : character ∈ (text format.decimalMark entry).toList) :
    character.isDigit = true ∨ character = format.decimalMark := by
  rw [text, String.toList_ofList] at member
  obtain ⟨key, _, rfl⟩ := List.mem_map.mp member
  cases key with
  | digit digit =>
      exact Or.inl (KeyedNumber.isDigit_digitCharacter digit)
  | mark =>
      exact Or.inr rfl

theorem count_mark_text (entry : List EntryKey) :
    (text format.decimalMark entry).toList.count format.decimalMark = entry.count .mark := by
  rw [text, String.toList_ofList, List.count, List.countP_map, List.count]
  apply List.countP_congr
  intro key _
  rw [Function.comp_apply, beq_iff_eq, beq_iff_eq]
  exact character_eq_decimalMark key

end EntryKey

namespace Screen

open EntryKey

/-- While a number is typed, the screen shows the keys of an entry. -/
def ShowsEntry (screen : Screen) : Prop :=
  screen.typing = true →
    ∃ entry, IsEntry entry ∧ screen.display = EntryKey.text screen.format.decimalMark entry

variable {screen : Screen}

/-! ## Every key -/

theorem showsEntry_of_idle (idle : screen.typing = false) : screen.ShowsEntry :=
  fun typing => absurd (typing.symm.trans idle) (by decide)

theorem showsEntry_of_text
    {entry : List EntryKey} (isEntry : IsEntry entry) (typing : Bool) :
    ShowsEntry
      { screen with
        display := EntryKey.text screen.format.decimalMark entry
        typing := typing } :=
  fun _ => ⟨entry, isEntry, rfl⟩

theorem ShowsEntry.type (showsEntry : screen.ShowsEntry) (key : EntryKey) :
    (screen.type (String.singleton (key.character screen.format.decimalMark))).ShowsEntry := by
  cases typing : screen.typing with
  | false =>
      rw [type_idle typing]
      exact showsEntry_of_text (isEntry_singleton key) true
  | true =>
      obtain ⟨entry, isEntry, shown⟩ := showsEntry typing
      rw [type_typing typing shown]
      exact showsEntry_of_text (isEntry.extend key) true

theorem ShowsEntry.operate (showsEntry : screen.ShowsEntry) (symbol : String) :
    (screen.operate symbol).ShowsEntry := by
  unfold Screen.operate
  split
  · exact showsEntry_of_idle (commit_typing screen)
  · exact showsEntry

theorem ShowsEntry.back (showsEntry : screen.ShowsEntry) : screen.back.ShowsEntry := by
  cases typing : screen.typing with
  | false =>
      rw [Screen.back, if_neg (ne_true_of_eq_false typing)]
      exact showsEntry_of_idle typing
  | true =>
      obtain ⟨entry, isEntry, shown⟩ := showsEntry typing
      rw [back_typing typing shown isEntry.nonempty]
      by_cases last : entry.dropLast = []
      · rw [if_pos last]
        exact showsEntry_of_idle rfl
      · rw [if_neg last]
        exact showsEntry_of_text (isEntry.dropLast last) true

theorem ShowsEntry.press (showsEntry : screen.ShowsEntry) (key : KeypadKey) :
    (screen.press (key.key screen.format.decimalMark)).ShowsEntry := by
  cases key with
  | entry key =>
      exact showsEntry.type key
  | operation symbol =>
      exact showsEntry.operate symbol
  | storeMemory =>
      exact showsEntry_of_idle rfl
  | recallMemory =>
      exact showsEntry_of_idle rfl
  | clear =>
      exact showsEntry_of_idle rfl
  | back =>
      exact showsEntry.back

theorem ShowsEntry.pressAll (showsEntry : screen.ShowsEntry) (keys : List KeypadKey) :
    (screen.pressAll (keys.map (KeypadKey.key screen.format.decimalMark))).ShowsEntry := by
  induction keys generalizing screen with
  | nil =>
      exact showsEntry
  | cons key keys inductionHypothesis =>
      have later := inductionHypothesis (showsEntry.press key)
      rw [press_format] at later
      exact later

/-! ## What an operation key takes over -/

/-- Without an entry, or with one that is not a number, only the symbol is entered. -/
theorem operate_symbol_alone
    {symbol : String} (available : screen.isAvailable symbol = true)
    (nothing : screen.typing = true → screen.shownValue? = none) :
    (screen.operate symbol).session.program = screen.session.program ++ [.symbol symbol] := by
  have committed : screen.commit = { screen with typing := false } := by
    unfold commit
    split
    · next typing =>
        rw [nothing typing]
    · rfl
  rw [operate, if_pos available, committed]
  rfl

/-- A lone mark is not a number. -/
theorem shownValue?_mark
    (readable : screen.format.Readable)
    (shown : screen.display = EntryKey.text screen.format.decimalMark [.mark]) :
    screen.shownValue? = none := by
  rw [shownValue?, shown, read?_text readable]
  decide

theorem operate_number
    (readable : screen.format.Readable) {symbol : String}
    (available : screen.isAvailable symbol = true) (typing : screen.typing = true)
    {number : KeyedNumber}
    (shown : screen.display = String.ofList (number.characters screen.format.decimalMark)) :
    (screen.operate symbol).session.program =
      screen.session.program ++ [.operand number.value, .symbol symbol] := by
  have value : screen.shownValue? = some number.value := by
    rw [shownValue?, shown]
    exact number.read?_characters readable
  rw [operate_entry typing available value]
  exact List.append_assoc _ _ _

/-- An entry is always a number under way, and an operation key takes it over as it was typed.
After any keys of the keypad the text of an entry consists of digits with at most one mark and is
not empty.  An operation key of the table then enters the number nearest to the decimal that is
shown, and behind it its own symbol; the symbol alone if only the mark is shown or nothing is
typed. -/
theorem pressAll_showsEntry
    (format : NumberFormat) (sound : format.fault? = none)
    (table : OperationTable) (draws : Draws) (keys : List KeypadKey) :
    let screen :=
      (start format table draws).pressAll (keys.map (KeypadKey.key format.decimalMark))
    let shown := screen.display.toList
    (screen.typing = true →
        shown ≠ [] ∧
          (∀ character ∈ shown, character.isDigit = true ∨ character = format.decimalMark) ∧
          shown.count format.decimalMark ≤ 1) ∧
      ∀ symbol, table.contains symbol = true →
        let program := (screen.press (.operation symbol)).session.program
        (screen.typing = false → program = screen.session.program ++ [.symbol symbol]) ∧
          (screen.typing = true → shown = [format.decimalMark] →
            program = screen.session.program ++ [.symbol symbol]) ∧
          (screen.typing = true → shown ≠ [format.decimalMark] →
            ∃ (number : KeyedNumber) (value : Float),
              shown = number.characters format.decimalMark ∧
                Binary64.IsNearestNumber number.decimal value ∧
                Binary64.isNegative value = false ∧
                program = screen.session.program ++ [.operand value, .symbol symbol]) := by
  intro screen shown
  have showsEntry : screen.ShowsEntry := ShowsEntry.pressAll (showsEntry_of_idle rfl) keys
  obtain ⟨former, session⟩ :=
    pressAll_session (start format table draws) (keys.map (KeypadKey.key format.decimalMark))
  have sameTable : screen.session.table = table := congrArg Session.table session
  have sameFormat : screen.format = format := congrArg Session.format session
  have readable : screen.format.Readable := by
    rw [sameFormat]
    exact (NumberFormat.fault?_eq_none_iff format).mp sound
  rw [← sameFormat]
  constructor
  · intro typing
    obtain ⟨entry, isEntry, display⟩ := showsEntry typing
    have text : shown = (EntryKey.text screen.format.decimalMark entry).toList :=
      congrArg String.toList display
    rw [text, count_mark_text]
    refine ⟨?_, fun _ => isDigit_or_mark_of_mem_text, isEntry.markOnce⟩
    rw [ne_eq, String.toList_eq_nil_iff, ← String.isEmpty_iff, isEmpty_text]
    exact isEntry.nonempty
  · intro symbol known program
    have available : screen.isAvailable symbol = true := by
      rw [isAvailable, sameTable]
      exact known
    refine ⟨?_, ?_, ?_⟩
    · intro idle
      exact operate_symbol_alone available fun typing => absurd (typing.symm.trans idle) (by decide)
    · intro _ lone
      refine operate_symbol_alone available fun _ => shownValue?_mark readable ?_
      rw [← String.toList_inj]
      exact lone.trans String.toList_ofList.symm
    · intro typing notLone
      obtain ⟨entry, isEntry, display⟩ := showsEntry typing
      have text : shown = entry.map (character screen.format.decimalMark) :=
        (congrArg String.toList display).trans String.toList_ofList
      rcases isEntry.mark_or_number screen.format.decimalMark with rfl | ⟨number, characters⟩
      · exact absurd text notLone
      · refine ⟨number, number.value, text.trans characters.symm, number.value_isNearestNumber,
          number.isNegative_value, operate_number readable available typing ?_⟩
        rw [display, characters]
        rfl

/-- The mark is taken back, typed again and refused when it is typed once more. -/
theorem pressAll_showsEntry_markAgain :
    let format : NumberFormat := { locale := "fr_FR" }
    let keys : List KeypadKey :=
      [.operation "=", .entry (.digit 7), .entry .mark, .back, .entry .mark, .entry .mark,
        .entry (.digit 5)]
    let screen :=
      (start format .standard (Draws.ofSeed 0)).pressAll
        (keys.map (KeypadKey.key format.decimalMark))
    format.fault? = none ∧ OperationTable.standard.contains "+" = true ∧
      screen.typing = true ∧ screen.display = "7,5" ∧
      ∃ (number : KeyedNumber) (value : Float),
        screen.display.toList = number.characters format.decimalMark ∧
          Binary64.IsNearestNumber number.decimal value ∧ Binary64.isNegative value = false ∧
          (screen.press (.operation "+")).session.program =
            [.symbol "=", .operand value, .symbol "+"] := by
  intro format keys screen
  have sound : format.fault? = none := by
    decide
  have known : OperationTable.standard.contains "+" = true := by
    decide
  have typing : screen.typing = true := by
    decide +kernel
  have display : screen.display = "7,5" := by
    decide +kernel
  have notLone : screen.display.toList ≠ [format.decimalMark] := by
    rw [display]
    decide
  have former : screen.session.program = [.symbol "="] := by
    decide +kernel
  have pressed := (pressAll_showsEntry format sound .standard (Draws.ofSeed 0) keys).2 "+" known
  obtain ⟨number, value, shown, nearest, positive, program⟩ := pressed.2.2 typing notLone
  refine ⟨sound, known, typing, display, number, value, shown, nearest, positive, ?_⟩
  rw [program, former]
  rfl

end Screen

end PocketCalc
