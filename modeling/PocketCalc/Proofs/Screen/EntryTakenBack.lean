import PocketCalc.Proofs.Screen.KeypadKeys
import PocketCalc.Proofs.Screen.Renewal

/-!
# An entry that is taken back

An entry shows itself and nothing else: program, memory, history and the text of the memory wait for
the key that makes an operand of it.  So an entry can be taken back key by key.  The press that
takes back the last one ends the typing without going on to the program, and what the program has to
show is shown again.

Marks that were refused are not part of the entry, and it takes no press to take them back.
-/

namespace PocketCalc

namespace EntryKey

/-- The keys that type an entry. -/
def keys (mark : Char) (entered : List EntryKey) : List Key :=
  entered.map fun key => .entry (String.singleton (key.character mark))

/-- The entry that keys make: every mark but the first is refused. -/
def accepted (entered : List EntryKey) : List EntryKey :=
  entered.foldl extend []

theorem accepted_cons (key : EntryKey) (entered : List EntryKey) :
    accepted (key :: entered) = entered.foldl extend [key] := by
  cases key with
  | digit digit =>
      rfl
  | mark =>
      rfl

theorem length_foldl_extend (entry entered : List EntryKey) :
    (entered.foldl extend entry).length =
      entry.length + entered.countP (· ≠ .mark) +
        if .mark ∈ entry then 0 else min 1 (entered.count .mark) := by
  induction entered generalizing entry with
  | nil =>
      simp
  | cons key entered inductionHypothesis =>
      rw [List.foldl_cons, inductionHypothesis, extend]
      cases key with
      | digit digit =>
          simp
          omega
      | mark =>
          by_cases marked : .mark ∈ entry
          · simp [marked]
          · simp [marked]
            omega

/-- All digits are accepted, and a mark if there is one. -/
theorem length_accepted (entered : List EntryKey) :
    (accepted entered).length = entered.countP (· ≠ .mark) + min 1 (entered.count .mark) := by
  rw [accepted, length_foldl_extend, List.length_nil, Nat.zero_add, if_neg List.not_mem_nil]

theorem accepted_ne_nil {entered : List EntryKey} (someKey : entered ≠ []) :
    accepted entered ≠ [] := by
  cases entered with
  | nil =>
      exact absurd rfl someKey
  | cons key entered =>
      rw [← List.length_pos_iff, accepted_cons, length_foldl_extend, List.length_singleton]
      omega

end EntryKey

namespace Screen

open EntryKey

/-- The screen while an entry is typed. -/
def showing (screen : Screen) (entry : List EntryKey) : Screen :=
  { screen with
    display := EntryKey.text screen.format.decimalMark entry
    typing := true }

variable (screen : Screen)

/-! ## Typing -/

theorem pressAll_extend (entry entered : List EntryKey) :
    (screen.showing entry).pressAll (EntryKey.keys screen.format.decimalMark entered) =
      screen.showing (entered.foldl extend entry) := by
  induction entered generalizing entry with
  | nil =>
      rfl
  | cons key entered inductionHypothesis =>
      have typed :
          (screen.showing entry).press
              (.entry (String.singleton (key.character screen.format.decimalMark))) =
            screen.showing (extend entry key) :=
        @type_typing (screen.showing entry) entry rfl rfl key
      rw [EntryKey.keys, List.map_cons, pressAll, List.foldl_cons, typed]
      exact inductionHypothesis (extend entry key)

/-- The first key replaces what was shown. -/
theorem pressAll_accepted
    (idle : screen.typing = false) {entered : List EntryKey} (someKey : entered ≠ []) :
    screen.pressAll (EntryKey.keys screen.format.decimalMark entered) =
      screen.showing (accepted entered) := by
  cases entered with
  | nil =>
      exact absurd rfl someKey
  | cons key entered =>
      have typed :
          screen.press (.entry (String.singleton (key.character screen.format.decimalMark))) =
            screen.showing [key] :=
        type_idle idle key
      rw [EntryKey.keys, List.map_cons, pressAll, List.foldl_cons, typed, accepted_cons]
      exact pressAll_extend screen [key] entered

/-! ## Taking back -/

theorem back_showing {entry : List EntryKey} (nonempty : entry ≠ []) :
    (screen.showing entry).press .back =
      if entry.dropLast = [] then
        refresh { screen with display := screen.format.display 0.0, typing := false }
      else
        screen.showing entry.dropLast :=
  @back_typing (screen.showing entry) entry rfl rfl nonempty

/-- As long as keys are left, they stay as they were typed. -/
theorem pressAll_back {entry : List EntryKey} {presses : Nat} (fewer : presses < entry.length) :
    (screen.showing entry).pressAll (List.replicate presses .back) =
      screen.showing (entry.take (entry.length - presses)) := by
  induction presses with
  | zero =>
      rw [Nat.sub_zero, List.take_length]
      rfl
  | succ presses inductionHypothesis =>
      have nonempty {count : Nat} (positive : 0 < count) : entry.take count ≠ [] := by
        rw [← List.length_pos_iff, List.length_take]
        omega
      have shorter :
          (entry.take (entry.length - presses)).dropLast =
            entry.take (entry.length - (presses + 1)) := by
        rw [List.dropLast_eq_take, List.take_take, List.length_take]
        congr 1
        omega
      rw [List.replicate_succ', pressAll_append, inductionHypothesis (by omega)]
      refine (back_showing screen (nonempty (by omega))).trans ?_
      rw [shorter, if_neg (nonempty (by omega))]

/-- The press that takes back the last key ends the typing. -/
theorem pressAll_back_all {entry : List EntryKey} (nonempty : entry ≠ []) :
    (screen.showing entry).pressAll (List.replicate entry.length .back) =
      refresh { screen with display := screen.format.display 0.0, typing := false } := by
  cases entry with
  | nil =>
      exact absurd rfl nonempty
  | cons first others =>
      have others_lt : others.length < (first :: others).length := Nat.lt_succ_self _
      have single : (first :: others).length - others.length = 1 := by
        rw [List.length_cons]
        omega
      rw [List.length_cons, List.replicate_succ', pressAll_append, pressAll_back screen others_lt,
        single]
      exact back_showing screen (List.cons_ne_nil first [])

/-! ## The rest of the screen -/

/-- The screens differ at most in the shown number and in whether it is being typed. -/
structure SameBesidesNumber (first second : Screen) : Prop where
  program : first.session.program = second.session.program
  bindings : first.bindings = second.bindings
  history : first.history = second.history
  memoryDisplay : first.memoryDisplay = second.memoryDisplay

theorem sameBesidesNumber (shown : String) (typing : Bool) :
    SameBesidesNumber { screen with display := shown, typing := typing } screen :=
  ⟨rfl, rfl, rfl, rfl⟩

theorem sameBesidesNumber_typed
    (idle : screen.typing = false) (entered : List EntryKey) :
    SameBesidesNumber (screen.pressAll (EntryKey.keys screen.format.decimalMark entered))
      screen := by
  by_cases someKey : entered = []
  · rw [someKey]
    exact ⟨rfl, rfl, rfl, rfl⟩
  · rw [pressAll_accepted screen idle someKey]
    exact sameBesidesNumber screen _ true

theorem displayText_zero (format : NumberFormat) (evaluation : Evaluation) :
    displayText format evaluation (format.display 0.0) =
      format.display (evaluation.result?.getD 0.0) := by
  unfold displayText
  cases evaluation.result? with
  | none =>
      exact ite_self _
  | some value =>
      rfl

variable {screen}

/-- When the entry is taken back, the screen shows what the program has to show. -/
theorem Reflects.pressAll_back_all
    (reflects : screen.Reflects)
    (drawsNothing : screen.session.program.DrawsNothing screen.session.table)
    {entry : List EntryKey} (nonempty : entry ≠ []) :
    (screen.showing entry).pressAll (List.replicate entry.length .back) =
      { screen with
        display := screen.format.display ((screen.evaluation screen.draws).result?.getD 0.0)
        typing := false } := by
  rw [Screen.pressAll_back_all screen nonempty, reflects.refresh_withDisplay drawsNothing,
    displayText_zero]

/-- Typing leaves everything but the number as it is, and can be taken back.  After any keys that
end without an entry under way, digits and marks change neither program nor memory nor the texts of
the two.  Of the marks only the first is accepted, and there are as many presses to take back as
keys were accepted.  Fewer presses leave the first keys of the entry.  So many end the typing
without taking back anything from the program, and show its result, or zero if it has none. -/
theorem pressAll_takenBack
    (format : NumberFormat) (table : OperationTable) (draws : Draws) (former : List Key)
    (entered : List EntryKey) (someKey : entered ≠ []) :
    let screen := (start format table draws).pressAll former
    let evaluation :=
      screen.session.program.evaluate
        { table := table, bindings := screen.bindings, display := format.display }
    let entry := EntryKey.accepted entered
    let typed := screen.pressAll (EntryKey.keys format.decimalMark entered)
    screen.typing = false → screen.session.program.DrawsNothing table →
      entry.length = entered.countP (· ≠ .mark) + min 1 (entered.count .mark) ∧
        (∀ count,
          SameBesidesNumber
            (screen.pressAll (EntryKey.keys format.decimalMark (entered.take count))) screen) ∧
        (∀ presses < entry.length,
          let shortened := typed.pressAll (List.replicate presses .back)
          SameBesidesNumber shortened screen ∧ shortened.typing = true ∧
            shortened.display =
              EntryKey.text format.decimalMark (entry.take (entry.length - presses))) ∧
        let emptied := typed.pressAll (List.replicate entry.length .back)
        SameBesidesNumber emptied screen ∧ emptied.typing = false ∧
          ∀ supply,
            emptied.display = format.display ((evaluation supply).result?.getD 0.0) := by
  intro screen evaluation entry typed idle drawsNothing
  have reflects : screen.Reflects := (start_reflects format table draws).pressAll former
  have sameTable : screen.session.table = table := pressAll_table _ former
  have sameFormat : screen.format = format := pressAll_format _ former
  have sameEvaluation : screen.evaluation = evaluation := evaluation_eq sameTable sameFormat
  have entryShown : typed = screen.showing entry := by
    rw [← pressAll_accepted screen idle someKey, sameFormat]
  rw [entryShown, ← sameFormat]
  rw [← sameTable] at drawsNothing
  refine ⟨EntryKey.length_accepted entered, ?_, ?_, ?_⟩
  · intro count
    exact sameBesidesNumber_typed screen idle (entered.take count)
  · intro presses fewer
    rw [pressAll_back screen fewer]
    exact ⟨sameBesidesNumber screen _ true, rfl, rfl⟩
  · rw [reflects.pressAll_back_all drawsNothing (EntryKey.accepted_ne_nil someKey)]
    refine ⟨sameBesidesNumber screen _ false, rfl, ?_⟩
    intro supply
    rw [← sameEvaluation, evaluation_eq_of_drawsNothing drawsNothing supply screen.draws]

/-- The mark is pressed again in the middle of the entry, behind an operation that waits. -/
theorem pressAll_takenBack_refusedMark :
    let format : NumberFormat := { locale := "fr_FR" }
    let table := OperationTable.standard.erase "Ran"
    let former : List Key := [.entry "7", .operation "x²", .operation "+", .operation "="]
    let entered : List EntryKey := [.digit 4, .mark, .mark, .digit 2]
    let screen := (start format table (Draws.ofSeed 0)).pressAll former
    let typed := screen.pressAll (EntryKey.keys format.decimalMark entered)
    let shortened := typed.pressAll (List.replicate 1 .back)
    let emptied := typed.pressAll (List.replicate 3 .back)
    screen.typing = false ∧ screen.session.program.DrawsNothing table ∧
      typed.display = "4,2" ∧ typed.history = "(7)² +  …" ∧
      shortened.display = "4," ∧ shortened.typing = true ∧
      emptied.session.program = screen.session.program ∧
      emptied.typing = false ∧ emptied.display = "0" := by
  intro format table former entered screen typed shortened emptied
  have idle : screen.typing = false := by
    decide +kernel
  have tableDrawsNothing : table.DrawsNothing :=
    OperationTable.drawsNothing_of_entries (by decide)
  have three : (EntryKey.accepted entered).length = 3 := by
    decide
  obtain ⟨_, sameWhileTyping, fewer, all⟩ :=
    pressAll_takenBack format table (Draws.ofSeed 0) former entered (by decide) idle
      (tableDrawsNothing.program _)
  rw [three] at fewer all
  have sameTyped : SameBesidesNumber typed screen := sameWhileTyping entered.length
  obtain ⟨_, unfinished, shorter⟩ := fewer 1 (by decide)
  have sameEmptied : SameBesidesNumber emptied screen := all.1
  obtain ⟨_, finished, shown⟩ := all
  have display : typed.display = "4,2" := by
    decide +kernel
  have history : screen.history = "(7)² +  …" := by
    decide +kernel
  have mark : EntryKey.text format.decimalMark ((EntryKey.accepted entered).take 2) = "4," := by
    decide
  refine ⟨idle, tableDrawsNothing.program _, display, sameTyped.history.trans history,
    shorter.trans mark, unfinished, sameEmptied.program, finished,
    (shown (Draws.ofSeed 0)).trans ?_⟩
  decide +kernel

end Screen

end PocketCalc
