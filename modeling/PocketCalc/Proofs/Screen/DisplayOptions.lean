import PocketCalc.Proofs.Evaluation.Blank
import PocketCalc.Proofs.Evaluation.Dependence
import PocketCalc.Proofs.NumberFormat.RoundTrip
import PocketCalc.Proofs.Screen.KeypadKeys
import PocketCalc.Proofs.Screen.Reflection

/-!
# Display options and the calculation

What is shown feeds back into the calculation: the shown text is read when an operation follows an
entry and when the memory is set.  Two formats that keep equally many decimals show different texts,
but texts that are read alike, be it an entry, a result, an error token or an entry that stayed on
the screen while an operation waits.  So the same keys make the same program under both.
-/

namespace PocketCalc

/-- Two formats that keep equally many decimals and do not read their error tokens as numbers. -/
structure NumberFormat.KeepAlike (first second : NumberFormat) : Prop where
  firstReadable : first.Readable
  secondReadable : second.Readable
  fractionMax : first.fractionMax = second.fractionMax
  firstToken : first.read? first.errorToken = none
  secondToken : second.read? second.errorToken = none

/-- A shown number is read alike under both formats, and none where an error is shown. -/
theorem NumberFormat.KeepAlike.read?_shown
    {first second : NumberFormat} (alike : first.KeepAlike second) (value : Float) :
    first.read? (first.display value) = second.read? (second.display value) := by
  cases finite : Binary64.isFinite value with
  | true =>
      have places : first.places = second.places := by
        rw [places, places, alike.fractionMax]
      rw [read?_display_eq alike.firstReadable finite, read?_display_eq alike.secondReadable finite,
        places]
  | false =>
      rw [display_of_not_isFinite finite, display_of_not_isFinite finite, alike.firstToken,
        alike.secondToken]

namespace Screen

/-- Two screens in the same state of calculation under different formats.  What they show is read
alike. -/
structure CalculateAlike (config : Config) (first second : Screen) : Prop where
  formats : first.format.KeepAlike second.format
  firstTable : first.session.table = config.table
  secondTable : second.session.table = config.table
  program : first.session.program = second.session.program
  memory? : first.memory? = second.memory?
  draws : first.draws = second.draws
  shownValue? : first.shownValue? = second.shownValue?

/-- While a number is typed, the two screens show the same entry, each with its own mark. -/
def TypeAlike (first second : Screen) : Prop :=
  ∃ entry, entry ≠ [] ∧
    first.display = EntryKey.text first.format.decimalMark entry ∧
    second.display = EntryKey.text second.format.decimalMark entry

/-- The two screens calculate alike and are in the same phase of the entry. -/
structure InStep (config : Config) (first second : Screen) : Prop where
  calculate : CalculateAlike config first second
  typing : first.typing = second.typing
  entry : first.typing = true → TypeAlike first second

variable {config : Config} {first second : Screen}

theorem CalculateAlike.inStep
    (alike : CalculateAlike config first second)
    (firstIdle : first.typing = false) (secondIdle : second.typing = false) :
    InStep config first second where
  calculate := alike
  typing := firstIdle.trans secondIdle.symm
  entry typing := absurd (typing.symm.trans firstIdle) (by decide)

/-! ## A renewed screen -/

theorem CalculateAlike.refresh (alike : CalculateAlike config first second) :
    CalculateAlike config first.refresh second.refresh := by
  have sameBindings : first.bindings = second.bindings := by
    rw [Screen.bindings, Screen.bindings, alike.memory?]
  have sameTable :
      (first.session.context first.bindings).table =
        (second.session.context second.bindings).table :=
    alike.firstTable.trans alike.secondTable.symm
  have sameValue : first.finalState.value? = second.finalState.value? := by
    rw [finalState, finalState, ← alike.program, ← alike.draws]
    exact Program.finalState_value?_congr sameTable _ _ sameBindings
  have sameDraws : first.finalState.draws = second.finalState.draws := by
    rw [finalState, finalState, ← alike.program, ← alike.draws]
    exact Program.finalState_draws_congr sameTable _ _
  have shown {screen : Screen} :
      screen.refresh.shownValue? =
        screen.format.read?
          (displayText screen.format (Evaluation.ofState screen.finalState) screen.display) :=
    rfl
  refine ⟨alike.formats, alike.firstTable, alike.secondTable, alike.program, alike.memory?,
    sameDraws, ?_⟩
  rw [shown, shown]
  cases result : first.finalState.value? with
  | some value =>
      rw [displayText_result result, displayText_result (sameValue.symm.trans result)]
      exact alike.formats.read?_shown value
  | none =>
      -- Without a result the old text stays or zero is shown, and that on both screens.
      have firstNone : (Evaluation.ofState first.finalState).result? = none := result
      have secondNone : (Evaluation.ofState second.finalState).result? = none :=
        sameValue.symm.trans result
      have firstBlank := Program.isBlank_evaluate alike.firstTable _ _ firstNone
      have secondBlank := Program.isBlank_evaluate alike.secondTable _ _ secondNone
      have sameTrees :
          second.session.program.expressions config.table =
            first.session.program.expressions config.table := by
        rw [alike.program]
      have sameBlank :
          (Evaluation.ofState second.finalState).isBlank =
            (Evaluation.ofState first.finalState).isBlank := by
        rw [sameTrees] at secondBlank
        exact secondBlank.trans firstBlank.symm
      rw [displayText_noResult firstNone, displayText_noResult secondNone, sameBlank]
      split
      · exact alike.formats.read?_shown 0.0
      · exact alike.shownValue?

/-! ## Every key -/

theorem CalculateAlike.edit (alike : CalculateAlike config first second) (change : Edit) :
    CalculateAlike config (first.edit change) (second.edit change) :=
  { alike with program := congrArg (Program.apply · change) alike.program }

theorem CalculateAlike.withMemory
    (alike : CalculateAlike config first second) {firstMemory? secondMemory? : Option Float}
    (sameMemory : firstMemory? = secondMemory?) (typing : Bool) :
    CalculateAlike config { first with memory? := firstMemory?, typing := typing }
      { second with memory? := secondMemory?, typing := typing } :=
  { alike with memory? := sameMemory }

theorem CalculateAlike.withDisplay
    (alike : CalculateAlike config first second) {firstDisplay secondDisplay : String}
    (readAlike : first.format.read? firstDisplay = second.format.read? secondDisplay)
    (typing : Bool) :
    CalculateAlike config { first with display := firstDisplay, typing := typing }
      { second with display := secondDisplay, typing := typing } :=
  { alike with shownValue? := readAlike }

theorem CalculateAlike.withEntry
    (alike : CalculateAlike config first second) {entry : List EntryKey} (nonempty : entry ≠ []) :
    InStep config
      { first with display := EntryKey.text first.format.decimalMark entry, typing := true }
      { second with display := EntryKey.text second.format.decimalMark entry, typing := true } where
  calculate := by
    apply alike.withDisplay
    rw [EntryKey.read?_text alike.formats.firstReadable,
      EntryKey.read?_text alike.formats.secondReadable]
  typing := rfl
  entry _ := ⟨entry, nonempty, rfl, rfl⟩

theorem InStep.type (inStep : InStep config first second) (key : EntryKey) :
    InStep config
      (first.type (String.singleton (key.character first.format.decimalMark)))
      (second.type (String.singleton (key.character second.format.decimalMark))) := by
  cases typing : first.typing with
  | false =>
      rw [type_idle typing, type_idle (inStep.typing.symm.trans typing)]
      exact inStep.calculate.withEntry (List.cons_ne_nil key [])
  | true =>
      obtain ⟨entry, _, firstShown, secondShown⟩ := inStep.entry typing
      have secondTyping := inStep.typing.symm.trans typing
      rw [type_typing typing firstShown, type_typing secondTyping secondShown]
      exact inStep.calculate.withEntry (EntryKey.extend_ne_nil entry key)

theorem InStep.commit (inStep : InStep config first second) :
    CalculateAlike config first.commit second.commit := by
  have ended := inStep.calculate.withMemory inStep.calculate.memory? false
  unfold Screen.commit
  rw [← inStep.typing, ← inStep.calculate.shownValue?]
  split
  · split
    · next value _ =>
        exact ended.edit (.append (.operand value))
    · exact ended
  · exact ended

theorem InStep.operate (inStep : InStep config first second) (symbol : String) :
    InStep config (first.operate symbol) (second.operate symbol) := by
  have sameKey : second.isAvailable symbol = first.isAvailable symbol := by
    rw [isAvailable, isAvailable, inStep.calculate.firstTable, inStep.calculate.secondTable]
  unfold Screen.operate
  rw [sameKey]
  split
  · exact (inStep.commit.edit (.append (.symbol symbol))).refresh.inStep
      (commit_typing first) (commit_typing second)
  · exact inStep

theorem InStep.back (inStep : InStep config first second) :
    InStep config first.back second.back := by
  cases typing : first.typing with
  | false =>
      have secondTyping := inStep.typing.symm.trans typing
      rw [Screen.back, Screen.back, if_neg (ne_true_of_eq_false typing),
        if_neg (ne_true_of_eq_false secondTyping)]
      exact (inStep.calculate.edit .undo).refresh.inStep typing secondTyping
  | true =>
      obtain ⟨entry, nonempty, firstShown, secondShown⟩ := inStep.entry typing
      have secondTyping := inStep.typing.symm.trans typing
      rw [back_typing typing firstShown nonempty, back_typing secondTyping secondShown nonempty]
      by_cases last : entry.dropLast = []
      · rw [if_pos last, if_pos last]
        have emptied := inStep.calculate.withDisplay
          (inStep.calculate.formats.read?_shown 0.0) false
        exact emptied.refresh.inStep rfl rfl
      · rw [if_neg last, if_neg last]
        exact inStep.calculate.withEntry last

theorem InStep.press (inStep : InStep config first second) (key : KeypadKey) :
    InStep config
      (first.press (key.key first.format.decimalMark))
      (second.press (key.key second.format.decimalMark)) := by
  cases key with
  | entry key =>
      exact inStep.type key
  | operation symbol =>
      exact inStep.operate symbol
  | storeMemory =>
      have stored := inStep.calculate.withMemory inStep.calculate.shownValue? false
      exact stored.refresh.inStep rfl rfl
  | recallMemory =>
      have named := inStep.calculate.edit (.append (.reference memoryName))
      exact (named.withMemory named.memory? false).refresh.inStep rfl rfl
  | clear =>
      have emptied := inStep.calculate.edit .clear
      have noMemory : (none : Option Float) = none := rfl
      exact (emptied.withMemory noMemory false).refresh.inStep rfl rfl
  | back =>
      exact inStep.back

theorem InStep.pressAll (inStep : InStep config first second) (keys : List KeypadKey) :
    InStep config
      (first.pressAll (keys.map (KeypadKey.key first.format.decimalMark)))
      (second.pressAll (keys.map (KeypadKey.key second.format.decimalMark))) := by
  induction keys generalizing first second with
  | nil =>
      exact inStep
  | cons key keys inductionHypothesis =>
      have later := inductionHypothesis (inStep.press key)
      rw [press_format, press_format] at later
      exact later

theorem start_inStep
    (config : Config) {first second : NumberFormat} (alike : first.KeepAlike second)
    (draws : Draws) :
    InStep config (start first config.table draws) (start second config.table draws) := by
  have nothingTyped (format : NumberFormat) (readable : format.Readable) :
      format.read? "" = Literal.read? [] :=
    EntryKey.read?_text readable []
  have blank :
      CalculateAlike config
        { session := { table := config.table, format := first }, draws := draws }
        { session := { table := config.table, format := second }, draws := draws } := by
    refine ⟨alike, rfl, rfl, rfl, rfl, rfl, ?_⟩
    exact (nothingTyped first alike.firstReadable).trans
      (nothingTyped second alike.secondReadable).symm
  exact blank.refresh.inStep rfl rfl

/-- Display options have no part in the calculation.  Under two formats that keep equally many
decimals and do not read their error tokens as numbers, the same keys of the keypad lead to the same
program and the same memory, and leave an entry under way on both screens or on neither; locale,
group separator and error token may be different. -/
theorem pressAll_inStep
    (config : Config) (first second : NumberFormat)
    (firstSound : first.fault? = none) (secondSound : second.fault? = none)
    (fractionMax : first.fractionMax = second.fractionMax)
    (firstToken : first.read? first.errorToken = none)
    (secondToken : second.read? second.errorToken = none)
    (draws : Draws) (keys : List KeypadKey) :
    let firstScreen :=
      (start first config.table draws).pressAll (keys.map (KeypadKey.key first.decimalMark))
    let secondScreen :=
      (start second config.table draws).pressAll (keys.map (KeypadKey.key second.decimalMark))
    firstScreen.session.program = secondScreen.session.program ∧
      firstScreen.bindings = secondScreen.bindings ∧
      firstScreen.typing = secondScreen.typing := by
  intro firstScreen secondScreen
  have alike : first.KeepAlike second :=
    { firstReadable := (NumberFormat.fault?_eq_none_iff first).mp firstSound
      secondReadable := (NumberFormat.fault?_eq_none_iff second).mp secondSound
      fractionMax := fractionMax
      firstToken := firstToken
      secondToken := secondToken }
  have inStep : InStep config firstScreen secondScreen :=
    (start_inStep config alike draws).pressAll keys
  refine ⟨inStep.calculate.program, ?_, inStep.typing⟩
  rw [bindings, bindings, inStep.calculate.memory?]

/-- The entry `1.5` of one screen is the entry `1,5` of the other.  Here it stays on the screen when
the memory is set, because an operation waits. -/
theorem pressAll_inStep_memory :
    let config : Config := { disabled := ["Ran"] }
    let first : NumberFormat := {}
    let second : NumberFormat :=
      { groupSeparator := "e+ .", locale := "fr_FR", errorToken := "Erreur" }
    let keys : List KeypadKey :=
      [.entry (.digit 7), .operation "+", .entry (.digit 1), .entry .mark, .entry (.digit 5),
        .storeMemory, .storeMemory]
    let firstScreen :=
      (start first config.table (Draws.ofSeed 0)).pressAll
        (keys.map (KeypadKey.key first.decimalMark))
    let secondScreen :=
      (start second config.table (Draws.ofSeed 0)).pressAll
        (keys.map (KeypadKey.key second.decimalMark))
    first.fault? = none ∧ second.fault? = none ∧ first.fractionMax = second.fractionMax ∧
      first.read? first.errorToken = none ∧ second.read? second.errorToken = none ∧
      firstScreen.session.program = secondScreen.session.program ∧
      firstScreen.bindings = secondScreen.bindings ∧
      firstScreen.typing = secondScreen.typing ∧
      firstScreen.memoryDisplay = "1.5" ∧ secondScreen.memoryDisplay = "1,5" := by
  intro config first second keys firstScreen secondScreen
  have firstSound : first.fault? = none := by
    decide +kernel
  have secondSound : second.fault? = none := by
    decide +kernel
  have sameDecimals : first.fractionMax = second.fractionMax := by
    decide
  have firstToken : first.read? first.errorToken = none := by
    decide +kernel
  have secondToken : second.read? second.errorToken = none := by
    decide +kernel
  obtain ⟨program, bindings, typing⟩ :=
    pressAll_inStep config first second firstSound secondSound sameDecimals firstToken secondToken
      (Draws.ofSeed 0) keys
  have firstMemory : firstScreen.memoryDisplay = "1.5" := by
    decide +kernel
  have secondMemory : secondScreen.memoryDisplay = "1,5" := by
    decide +kernel
  exact ⟨firstSound, secondSound, sameDecimals, firstToken, secondToken, program, bindings, typing,
    firstMemory, secondMemory⟩

end Screen

end PocketCalc
