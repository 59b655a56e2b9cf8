import PocketCalc.Proofs.Number.WrittenNumber
import PocketCalc.Proofs.Screen.Memory

/-!
# Errors on the screen

A number that is not finite is shown as the error token, which is any text that is not blank.  The
screen does not remember that it shows an error: a key that uses the shown number reads the text
again.  If the token is not a written number, an error is told from all numbers, and the memory is
emptied by storing it.  But a token that happens to be a written number is accepted too, and an
error is then stored as that number.
-/

namespace PocketCalc

namespace NumberFormat

variable {format : NumberFormat}

/-- Is the error token read as a number? -/
def TokenIsNumber (format : NumberFormat) : Prop :=
  Literal.IsWrittenNumber (format.plain format.errorToken.toList)

instance (format : NumberFormat) : Decidable format.TokenIsNumber :=
  inferInstanceAs (Decidable (Literal.IsWrittenNumber (format.plain format.errorToken.toList)))

theorem read?_errorToken : format.read? format.errorToken = none ↔ ¬format.TokenIsNumber :=
  Literal.read?_eq_none_iff _

/-- What is read as no number is not the text of a finite number. -/
theorem display_ne_of_unread
    (readable : format.Readable) {text : String} (unread : format.read? text = none)
    {value : Float} (finite : Binary64.isFinite value) :
    text ≠ format.display value := by
  rintro rfl
  rw [read?_display_eq readable finite] at unread
  exact absurd unread (Option.some_ne_none _)

end NumberFormat

namespace Screen

theorem bindings_eq_nil_iff (screen : Screen) : screen.bindings = [] ↔ screen.memory? = none := by
  unfold bindings
  cases screen.memory? with
  | none =>
      simp
  | some value =>
      simp

/-- Storing a text that is read as no number empties the memory. -/
theorem bindings_storeMemory_eq_nil_iff (screen : Screen) :
    screen.storeMemory.bindings = [] ↔ screen.format.read? screen.display = none := by
  rw [bindings_eq_nil_iff, storeMemory_memory?, shownValue?]

/-- An error is told from numbers if and only if the token is none.  In a sound format, what is
shown for an infinity or for NaN is read as no number, and storing it empties the memory, if and
only if the error token, read as a shown text, is not a written number.  It is then also different
from the texts of all finite numbers. -/
theorem pressAll_storeMemory_error
    (format : NumberFormat) (sound : format.fault? = none)
    (value : Float) (notFinite : Binary64.isFinite value = false) :
    (format.read? (format.display value) = none ↔ ¬format.TokenIsNumber) ∧
      (¬format.TokenIsNumber → ∀ number, Binary64.isFinite number = true →
        format.display value ≠ format.display number) ∧
      ∀ (table : OperationTable) (draws : Draws) (keys : List Key),
        let screen := (start format table draws).pressAll keys
        screen.display = format.display value →
          ((screen.press .storeMemory).bindings = [] ↔ ¬format.TokenIsNumber) := by
  have readable := (NumberFormat.fault?_eq_none_iff format).mp sound
  rw [NumberFormat.display_of_not_isFinite notFinite]
  refine ⟨NumberFormat.read?_errorToken, ?_, ?_⟩
  · intro noNumber number finite
    exact NumberFormat.display_ne_of_unread readable (NumberFormat.read?_errorToken.mpr noNumber)
      finite
  · intro table draws keys screen shown
    have sameFormat : screen.format = format := pressAll_format _ keys
    rw [← NumberFormat.read?_errorToken, ← shown, ← sameFormat]
    exact bindings_storeMemory_eq_nil_iff screen

/-- The separator goes when the token is read, and what is left only begins like a number. -/
theorem pressAll_storeMemory_error_almostNumber :
    let format : NumberFormat := { errorToken := "-1 E" }
    let keys : List Key :=
      [.entry "8", .storeMemory, .entry "1", .operation "÷", .entry "0", .operation "="]
    let screen := (start format .standard (Draws.ofSeed 0)).pressAll keys
    format.fault? = none ∧ Binary64.isFinite (1.0 / 0.0) = false ∧ ¬format.TokenIsNumber ∧
      format.plain format.errorToken.toList = "-1E".toList ∧
      screen.display = format.display (1.0 / 0.0) ∧ screen.bindings = [(memoryName, 8.0)] ∧
      format.read? (format.display (1.0 / 0.0)) = none ∧
      (screen.press .storeMemory).bindings = [] := by
  intro format keys screen
  have sound : format.fault? = none := by
    decide
  have notFinite : Binary64.isFinite (1.0 / 0.0) = false := by
    decide +kernel
  have noNumber : ¬format.TokenIsNumber := by
    decide
  have shown : screen.display = format.display (1.0 / 0.0) := by
    decide +kernel
  have memory : screen.bindings = [(memoryName, 8.0)] := by
    decide +kernel
  obtain ⟨reads, _, stores⟩ := pressAll_storeMemory_error format sound (1.0 / 0.0) notFinite
  exact ⟨sound, notFinite, noNumber, by decide, shown, memory, reads.mpr noNumber,
    (stores .standard (Draws.ofSeed 0) keys shown).mpr noNumber⟩

/-- With a number for its token, a sound format shows an error as it shows this number, and stores
it as this number. -/
theorem storeMemory_error_five :
    let format : NumberFormat := { errorToken := "5" }
    let keys : List Key := [.entry "1", .operation "÷", .entry "0", .operation "="]
    let screen := (start format .standard (Draws.ofSeed 0)).pressAll keys
    format.fault? = none ∧ Binary64.isFinite (1.0 / 0.0) = false ∧ Binary64.isFinite 5.0 = true ∧
      format.read? (format.display (1.0 / 0.0)) = some 5.0 ∧
      format.display (1.0 / 0.0) = format.display 5.0 ∧
      screen.display = format.display (1.0 / 0.0) ∧
      (screen.press .storeMemory).bindings = [(memoryName, 5.0)] := by
  decide +kernel

end Screen

end PocketCalc
