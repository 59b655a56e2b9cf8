import PocketCalc.Proofs.NumberFormat.Stability
import PocketCalc.Proofs.Screen.Renewal

/-!
# The memory

Setting the memory evaluates the program again, and where the program names the memory this may
change the number that is shown.  The history stays, because the text of a program has no values of
names in it; and the number in memory is the one that was shown, so that its text is the one that
was stored and that a recall brings back.
-/

namespace PocketCalc.Screen

variable {screen : Screen}

theorem lookup_bindings (screen : Screen) (name : String) :
    screen.bindings.lookup name = if name = memoryName then screen.memory? else none := by
  unfold bindings
  cases screen.memory? with
  | none =>
      rw [List.lookup_nil, ite_self]
  | some value =>
      by_cases isMemory : name = memoryName
      · rw [isMemory, List.lookup_cons_self, if_pos rfl]
      · have differs : (name == memoryName) = false := beq_eq_false_iff_ne.mpr isMemory
        rw [List.lookup_cons, differs, if_neg isMemory]
        rfl

/-- The history does not depend on the number in memory. -/
theorem Reflects.refresh_withMemory
    (reflects : screen.Reflects) (memory? : Option Float) (typing : Bool) :
    (refresh { screen with memory? := memory?, typing := typing }).history = screen.history := by
  have sameTable :
      (screen.session.context (bindings { screen with memory? := memory? })).table =
        (screen.session.context screen.bindings).table :=
    rfl
  rw [reflects.history screen.draws]
  exact historyText_congr
    (Program.evaluate_description_congr sameTable _ _ screen.draws rfl)
    (Program.evaluate_pending_congr sameTable _ _ screen.draws)

theorem storeMemory_memory? (screen : Screen) :
    screen.storeMemory.memory? = screen.shownValue? := by
  rw [storeMemory, refresh_memory?]

/-- A recall shows the memory, whatever the program was about. -/
theorem display_recallMemory (screen : Screen) :
    screen.recallMemory.display = screen.format.display (screen.memory?.getD 0.0) := by
  apply refresh_display_of_result
  rw [finalState, edit, Session.edit_program, Program.apply, Program.finalState_append]
  exact congrArg some (bindings_value_memoryName screen)

/-- A shown number has the same text in memory and when it is recalled from there. -/
theorem display_storeMemory
    (readable : screen.format.Readable) {value : Float} (finite : Binary64.isFinite value = true)
    (shown : screen.display = screen.format.display value) :
    screen.storeMemory.memoryDisplay = screen.display ∧
      screen.storeMemory.recallMemory.display = screen.display := by
  have again : screen.format.display (screen.shownValue?.getD 0.0) = screen.display := by
    rw [shownValue?, shown, NumberFormat.read?_display_eq readable finite, Option.getD_some,
      NumberFormat.display_readBack finite]
  have sameFormat : screen.storeMemory.format = screen.format := press_format screen .storeMemory
  constructor
  · refine (refresh_memoryDisplay _).trans ?_
    rw [← storeMemory, storeMemory_memory?, sameFormat, again]
  · rw [display_recallMemory, storeMemory_memory?, sameFormat, again]

/-- The memory keeps what is shown, and only that.  After any keys, setting the memory leaves the
program and the history as they are and ends the entry, and the memory is then the number that the
shown text is read as, or empty if it is read as none.  If the text was that of a finite number, it
is also the text of the memory, and of the number that a recall shows, even where setting the memory
changed what the program shows. -/
theorem pressAll_storeMemory
    (format : NumberFormat) (sound : format.fault? = none)
    (table : OperationTable) (draws : Draws) (keys : List Key) :
    let screen := (start format table draws).pressAll keys
    let stored := screen.press .storeMemory
    stored.session.program = screen.session.program ∧
      stored.history = screen.history ∧
      stored.typing = false ∧
      stored.bindings.lookup memoryName = format.read? screen.display ∧
      (∀ name, name ≠ memoryName →
        stored.bindings.lookup name = screen.bindings.lookup name) ∧
      ∀ value, Binary64.isFinite value = true → screen.display = format.display value →
        stored.memoryDisplay = screen.display ∧
          (stored.press .recallMemory).display = screen.display := by
  intro screen stored
  have reflects : screen.Reflects := (start_reflects format table draws).pressAll keys
  have sameFormat : screen.format = format := pressAll_format _ keys
  have readable : screen.format.Readable := by
    rw [sameFormat]
    exact (NumberFormat.fault?_eq_none_iff format).mp sound
  rw [← sameFormat]
  refine ⟨rfl, reflects.refresh_withMemory _ false, rfl, ?_, ?_, ?_⟩
  · rw [lookup_bindings, if_pos rfl]
    exact storeMemory_memory? screen
  · intro name other
    rw [lookup_bindings, lookup_bindings, if_neg other, if_neg other]
  · intro value finite shown
    exact display_storeMemory readable finite shown

/-- The program names the memory itself: setting it doubles the result that is shown. -/
theorem pressAll_storeMemory_doubled :
    let format : NumberFormat := { locale := "fr_FR" }
    let keys : List Key :=
      [.entry "1234", .entry ",5", .operation "+", .recallMemory, .operation "="]
    let screen := (start format .standard (Draws.ofSeed 0)).pressAll keys
    let stored := screen.press .storeMemory
    format.fault? = none ∧ Binary64.isFinite 1234.5 = true ∧
      screen.display = format.display 1234.5 ∧ screen.display = "1 234,5" ∧
      stored.display = "2 469" ∧
      stored.history = "1 234,5 + M =" ∧
      stored.bindings.lookup memoryName = some 1234.5 ∧
      stored.memoryDisplay = "1 234,5" ∧
      (stored.press .recallMemory).display = "1 234,5" := by
  intro format keys screen stored
  have sound : format.fault? = none := by
    decide
  have finite : Binary64.isFinite 1234.5 = true := by
    decide +kernel
  have shown : screen.display = format.display 1234.5 := by
    decide +kernel
  have text : screen.display = "1 234,5" := by
    decide +kernel
  have doubled : stored.display = "2 469" := by
    decide +kernel
  have history : screen.history = "1 234,5 + M =" := by
    decide +kernel
  have value : format.read? "1 234,5" = some 1234.5 := by
    decide +kernel
  obtain ⟨_, kept, _, bound, _, again⟩ :=
    pressAll_storeMemory format sound .standard (Draws.ofSeed 0) keys
  obtain ⟨memory, recalled⟩ := again 1234.5 finite shown
  refine ⟨sound, finite, shown, text, doubled, kept.trans history, ?_, memory.trans text,
    recalled.trans text⟩
  rw [bound, ← value, ← text]

end PocketCalc.Screen
