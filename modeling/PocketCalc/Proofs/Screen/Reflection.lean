import PocketCalc.Proofs.Evaluation.Dependence
import PocketCalc.Proofs.Evaluation.Draws
import PocketCalc.Screen.Basic

/-!
# The screen reflects the program

Whatever keys were pressed, history and memory are shown as the present program and memory have
them, and so is the number unless one is being typed.  Every key either leaves program and memory as
they are or renews all three texts, and a renewed screen reflects its program whatever it showed
before.
-/

namespace PocketCalc

/-- An entry of a program that a keypad with this table can have made. -/
def Instruction.IsKnown (table : OperationTable) : Instruction → Prop
  | .operand _ => True
  | .reference name => name = memoryName
  | .symbol key => table.contains key = true

namespace Screen

/-! ## Only the program changes in a session -/

theorem commit_session (screen : Screen) :
    ∃ program, screen.commit.session = { screen.session with program := program } := by
  unfold commit
  split
  · split
    · exact ⟨_, rfl⟩
    · exact ⟨_, rfl⟩
  · exact ⟨_, rfl⟩

theorem commit_typing (screen : Screen) : screen.commit.typing = false := by
  unfold commit
  split
  · split
    · rfl
    · rfl
  · rfl

theorem press_session (screen : Screen) (key : Key) :
    ∃ program, (screen.press key).session = { screen.session with program := program } := by
  cases key with
  | entry text =>
      refine ⟨screen.session.program, ?_⟩
      simp only [press, type]
      split
      · split <;> rfl
      · rfl
  | operation symbol =>
      simp only [press, operate]
      split
      · obtain ⟨program, committed⟩ := commit_session screen
        refine ⟨program.apply (.append (.symbol symbol)), ?_⟩
        rw [refresh_session, edit, committed]
        rfl
      · exact ⟨_, rfl⟩
  | storeMemory =>
      exact ⟨_, rfl⟩
  | recallMemory =>
      exact ⟨_, rfl⟩
  | clear =>
      exact ⟨_, rfl⟩
  | back =>
      simp only [press, back]
      split
      · refine ⟨screen.session.program, ?_⟩
        split
        · rfl
        · split <;> rfl
      · exact ⟨_, rfl⟩

theorem press_format (screen : Screen) (key : Key) : (screen.press key).format = screen.format := by
  obtain ⟨program, session⟩ := press_session screen key
  rw [format, session]
  rfl

theorem pressAll_session (screen : Screen) (keys : List Key) :
    ∃ program, (screen.pressAll keys).session = { screen.session with program := program } := by
  induction keys generalizing screen with
  | nil =>
      exact ⟨_, rfl⟩
  | cons key keys inductionHypothesis =>
      obtain ⟨pressed, afterKey⟩ := press_session screen key
      obtain ⟨program, afterAll⟩ := inductionHypothesis (screen.press key)
      refine ⟨program, ?_⟩
      rw [pressAll, List.foldl_cons]
      rw [pressAll] at afterAll
      rw [afterAll, afterKey]

/-- The table stays that of the first screen. -/
theorem pressAll_table (screen : Screen) (keys : List Key) :
    (screen.pressAll keys).session.table = screen.session.table := by
  obtain ⟨program, session⟩ := pressAll_session screen keys
  rw [session]

theorem pressAll_format (screen : Screen) (keys : List Key) :
    (screen.pressAll keys).format = screen.format := by
  obtain ⟨program, session⟩ := pressAll_session screen keys
  rw [format, session]
  rfl

/-! ## What is shown belongs to the program -/

/-- The program's evaluation with other draws. -/
def evaluation (screen : Screen) (draws : Draws) : Evaluation :=
  screen.session.evaluate screen.bindings draws

/-- Every entry of the program can have been made with this table. -/
def ProgramIsKnown (screen : Screen) : Prop :=
  ∀ instruction ∈ screen.session.program, instruction.IsKnown screen.session.table

/-- The texts are those that the present program and memory give. -/
structure Reflects (screen : Screen) : Prop where
  known : screen.ProgramIsKnown
  history : ∀ draws, screen.history = historyText (screen.evaluation draws)
  memoryDisplay :
    screen.memoryDisplay = screen.format.display (screen.bindings.value memoryName)
  display :
    screen.session.program.DrawsNothing screen.session.table → screen.typing = false →
      ∀ draws,
        screen.display = displayText screen.format (screen.evaluation draws) screen.display

@[simp]
theorem bindings_value_memoryName (screen : Screen) :
    screen.bindings.value memoryName = screen.memory?.getD 0.0 := by
  unfold bindings
  cases screen.memory? with
  | none =>
      rfl
  | some value =>
      simp [Bindings.value]

theorem historyText_congr
    {first second : Evaluation} (sameDescription : first.description = second.description)
    (samePending : first.pending = second.pending) :
    historyText first = historyText second := by
  unfold historyText Evaluation.isBlank
  rw [sameDescription, samePending]

theorem historyText_evaluation (screen : Screen) (first second : Draws) :
    historyText (screen.evaluation first) = historyText (screen.evaluation second) :=
  historyText_congr (Program.evaluate_description_congr rfl _ first second rfl)
    (Program.evaluate_pending_congr rfl _ first second)

@[simp]
theorem displayText_displayText
    (format : NumberFormat) (evaluation : Evaluation) (shown : String) :
    displayText format evaluation (displayText format evaluation shown) =
      displayText format evaluation shown := by
  unfold displayText
  cases evaluation.result? with
  | some value =>
      rfl
  | none =>
      dsimp only
      split <;> rfl

theorem displayText_result
    {evaluation : Evaluation} {value : Float} (result : evaluation.result? = some value)
    (format : NumberFormat) (shown : String) :
    displayText format evaluation shown = format.display value := by
  rw [displayText, result]

theorem displayText_noResult
    {evaluation : Evaluation} (noResult : evaluation.result? = none)
    (format : NumberFormat) (shown : String) :
    displayText format evaluation shown =
      if evaluation.isBlank then format.display 0.0 else shown := by
  rw [displayText, noResult]

theorem displayText_blank
    {evaluation : Evaluation} (noResult : evaluation.result? = none)
    (blank : evaluation.description = " ") (format : NumberFormat) (shown : String) :
    displayText format evaluation shown = format.display 0.0 := by
  have isBlank : evaluation.isBlank = true := by
    rw [Evaluation.isBlank, blank]
    rfl
  rw [displayText, noResult]
  exact if_pos isBlank

/-- A renewed screen reflects its program. -/
theorem reflects_refresh {screen : Screen} (known : screen.ProgramIsKnown) :
    screen.refresh.Reflects where
  known := known
  history draws := historyText_evaluation screen screen.draws draws
  memoryDisplay := by
    rw [bindings_value_memoryName]
    rfl
  display drawsNothing _ draws := by
    -- Only without chance is the shown result that of every evaluation.
    have same : screen.evaluation draws = screen.evaluation screen.draws :=
      Program.evaluate_eq_of_drawsNothing (screen.session.context screen.bindings) draws
        screen.draws drawsNothing
    have shown :
        screen.refresh.display =
          displayText screen.format (screen.evaluation screen.draws) screen.display :=
      rfl
    have unchanged : screen.refresh.evaluation draws = screen.evaluation draws :=
      rfl
    rw [unchanged, same, shown]
    exact (displayText_displayText _ _ _).symm

/-- While a number is typed, any text may be shown. -/
theorem Reflects.retype
    {screen : Screen} (reflects : screen.Reflects)
    (text : String) {typing : Bool} (unfinished : typing = true) :
    Reflects { screen with display := text, typing := typing } where
  known := reflects.known
  history := reflects.history
  memoryDisplay := reflects.memoryDisplay
  display _ finished := absurd (finished.symm.trans unfinished) Bool.false_ne_true

/-! ## Every key -/

theorem ProgramIsKnown.append
    {screen : Screen} (known : screen.ProgramIsKnown)
    {instruction : Instruction} (entryKnown : instruction.IsKnown screen.session.table) :
    (screen.edit (.append instruction)).ProgramIsKnown := by
  intro entry member
  rcases List.mem_append.mp member with former | new
  · exact known entry former
  · rw [List.mem_singleton.mp new]
    exact entryKnown

theorem ProgramIsKnown.undo {screen : Screen} (known : screen.ProgramIsKnown) :
    (screen.edit .undo).ProgramIsKnown :=
  fun entry member => known entry (List.dropLast_subset _ member)

theorem ProgramIsKnown.commit {screen : Screen} (known : screen.ProgramIsKnown) :
    screen.commit.ProgramIsKnown := by
  have ended : ProgramIsKnown { screen with typing := false } := known
  unfold Screen.commit
  split
  · split
    · exact ended.append trivial
    · exact ended
  · exact ended

theorem Reflects.type {screen : Screen} (reflects : screen.Reflects) (text : String) :
    (screen.type text).Reflects := by
  unfold Screen.type
  split
  · next unfinished =>
      dsimp only
      split
      · exact reflects
      · exact reflects.retype _ unfinished
  · exact reflects.retype text rfl

theorem Reflects.operate {screen : Screen} (reflects : screen.Reflects) (symbol : String) :
    (screen.operate symbol).Reflects := by
  unfold Screen.operate
  split
  · next available =>
      obtain ⟨program, committed⟩ := commit_session screen
      have stillAvailable : screen.commit.session.table.contains symbol = true := by
        rw [committed]
        exact available
      exact reflects_refresh (reflects.known.commit.append stillAvailable)
  · exact reflects

theorem Reflects.back {screen : Screen} (reflects : screen.Reflects) : screen.back.Reflects := by
  unfold Screen.back
  split
  · next unfinished =>
      dsimp only
      split
      · exact reflects
      · split
        · exact reflects_refresh reflects.known
        · exact reflects.retype _ unfinished
  · exact reflects_refresh reflects.known.undo

theorem Reflects.press {screen : Screen} (reflects : screen.Reflects) (key : Key) :
    (screen.press key).Reflects := by
  cases key with
  | entry text =>
      exact reflects.type text
  | operation symbol =>
      exact reflects.operate symbol
  | storeMemory =>
      exact reflects_refresh reflects.known
  | recallMemory =>
      exact reflects_refresh (reflects.known.append rfl)
  | clear =>
      exact reflects_refresh fun _ member => absurd member List.not_mem_nil
  | back =>
      exact reflects.back

theorem start_reflects (format : NumberFormat) (table : OperationTable) (draws : Draws) :
    (start format table draws).Reflects :=
  reflects_refresh fun _ member => absurd member List.not_mem_nil

theorem Reflects.pressAll {screen : Screen} (reflects : screen.Reflects) (keys : List Key) :
    (screen.pressAll keys).Reflects := by
  induction keys generalizing screen with
  | nil =>
      exact reflects
  | cons key keys inductionHypothesis =>
      exact inductionHypothesis (reflects.press key)

/-- In every state the history is the description of the program with its closing mark, the memory
is shown, every symbol of the program is in the table and every name is that of the memory.  If
nothing is drawn and no number is being typed, the result is shown, or zero if there is nothing to
describe. -/
theorem pressAll_reflects
    (format : NumberFormat) (table : OperationTable) (draws : Draws) (keys : List Key) :
    let screen := (start format table draws).pressAll keys
    let evaluation :=
      screen.session.program.evaluate
        { table := table, bindings := screen.bindings, display := format.display }
    (∀ supply, screen.history =
        if (evaluation supply).description = " " then
          (evaluation supply).description
        else if (evaluation supply).pending then
          (evaluation supply).description ++ " …"
        else
          (evaluation supply).description ++ " =") ∧
      screen.memoryDisplay = format.display (screen.bindings.value memoryName) ∧
      (∀ symbol, .symbol symbol ∈ screen.session.program → table.contains symbol) ∧
      (∀ name, .reference name ∈ screen.session.program → name = memoryName) ∧
      (table.DrawsNothing → screen.typing = false → ∀ supply,
        (∀ value, (evaluation supply).result? = some value →
          screen.display = format.display value) ∧
        ((evaluation supply).result? = none → (evaluation supply).description = " " →
          screen.display = format.display 0.0)) := by
  intro screen evaluation
  have reflects : screen.Reflects := (start_reflects format table draws).pressAll keys
  obtain ⟨program, session⟩ := pressAll_session (start format table draws) keys
  have sameTable : screen.session.table = table := congrArg Session.table session
  have sameFormat : screen.format = format := congrArg Session.format session
  have sameEvaluation : screen.evaluation = evaluation := by
    funext supply
    simp only [Screen.evaluation, Session.evaluate, Session.context, evaluation, sameTable]
    rw [← sameFormat]
    rfl
  refine ⟨?_, ?_, ?_, ?_, ?_⟩
  · intro supply
    rw [reflects.history supply, sameEvaluation]
    unfold historyText Evaluation.isBlank Evaluation.blankDescription
    simp only [beq_iff_eq]
  · rw [reflects.memoryDisplay, sameFormat]
  · intro symbol member
    have known := reflects.known _ member
    rw [sameTable] at known
    exact known
  · intro name member
    exact reflects.known _ member
  · intro drawsNothing finished supply
    have shown := reflects.display (sameTable ▸ drawsNothing.program _) finished supply
    rw [sameEvaluation, sameFormat] at shown
    constructor
    · intro value result
      exact shown.trans (displayText_result result format _)
    · intro noResult blank
      exact shown.trans (displayText_blank noResult blank format _)

/-- Without the drawn values an empty memory that was recalled is shown as zero. -/
theorem recalled_reflects :
    let table := OperationTable.standard.erase "Ran"
    let screen :=
      (start {} table (Draws.ofSeed 0)).pressAll [.entry "7", .recallMemory, .operation "="]
    table.DrawsNothing ∧ screen.typing = false ∧
      screen.history = "M =" ∧ screen.display = "0" := by
  intro table screen
  have drawsNothing : table.DrawsNothing :=
    OperationTable.drawsNothing_of_entries (by decide)
  have finished : screen.typing = false :=
    rfl
  obtain ⟨history, _, _, _, shown⟩ :=
    pressAll_reflects {} table (Draws.ofSeed 0) [.entry "7", .recallMemory, .operation "="]
  have zero : ({} : NumberFormat).display 0.0 = "0" := by
    decide +kernel
  have display := (shown drawsNothing finished (Draws.ofSeed 0)).1 0.0 rfl
  rw [zero] at display
  exact ⟨drawsNothing, finished, history (Draws.ofSeed 0), display⟩

end Screen

end PocketCalc
