import PocketCalc.Proofs.Evaluation.Blank
import PocketCalc.Proofs.Evaluation.LastSymbol
import PocketCalc.Proofs.Screen.Memory

/-!
# A key that is taken back

Taking back the last entry of the program gives the program as it was, and with it the history.
Whether the number is as it was depends on where it came from.  The number of a program with a
result is the result, and comes back.  A program whose last operation waits for its second operand
has no number to show, and what was shown before stays.  The keys that do nothing there leave it,
so nothing has to come back; but a constant or the memory brings a number of its own, which then
stays in its turn.
-/

namespace PocketCalc

/-- There is no result, because an operation waits for its second operand. -/
def Evaluation.LacksOperand (evaluation : Evaluation) : Prop :=
  evaluation.result? = none ∧ evaluation.pending = true

/-- Without a value only an operation that brings one itself makes a difference. -/
theorem EvaluationState.perform_of_noValue
    {state : EvaluationState} (noValue : state.value? = none) (symbol : String)
    {operation : Operation} (drawsNothing : operation.draws = false)
    (noConstant : ∀ value, operation ≠ .constant value) :
    state.perform symbol operation = state := by
  cases operation with
  | nullary compute label =>
      exact absurd drawsNothing.symm Bool.false_ne_true
  | constant value =>
      exact absurd rfl (noConstant value)
  | unary operation =>
      exact applyUnary_of_noValue noValue symbol operation
  | binary operation =>
      rw [perform, resolve_of_noValue noValue, suspend_of_noValue noValue]
  | equals =>
      exact resolve_of_noValue noValue

namespace Screen

variable {screen : Screen}

/-! ## What the number goes back to -/

/-- The number stays where an operand is missing. -/
theorem display_of_lacksOperand
    {config : Config} (sameTable : screen.session.table = config.table)
    (lacks : (screen.evaluation screen.draws).LacksOperand) (shown : String) :
    displayText screen.format (screen.evaluation screen.draws) shown = shown := by
  have notBlank : (screen.evaluation screen.draws).isBlank = false := by
    rw [evaluation, Session.evaluate,
      Program.isBlank_eq_not_pending sameTable _ _ lacks.1]
    exact congrArg not lacks.2
  rw [displayText_noResult lacks.1, notBlank]
  rfl

/-- Otherwise the program has a number to show, and shows it whatever was shown before. -/
theorem Reflects.display_of_not_lacksOperand
    (reflects : screen.Reflects) (idle : screen.typing = false)
    (drawsNothing : screen.session.program.DrawsNothing screen.session.table)
    {config : Config} (sameTable : screen.session.table = config.table)
    (complete : ¬(screen.evaluation screen.draws).LacksOperand) (shown : String) :
    displayText screen.format (screen.evaluation screen.draws) shown = screen.display := by
  rw [reflects.display drawsNothing idle screen.draws]
  cases result : (screen.evaluation screen.draws).result? with
  | some value =>
      rw [displayText_result result, displayText_result result]
  | none =>
      have notPending : (screen.evaluation screen.draws).pending = false := by
        rw [← Bool.not_eq_true]
        exact fun pending => complete ⟨result, pending⟩
      have blank : (screen.evaluation screen.draws).isBlank = true := by
        rw [evaluation, Session.evaluate,
          Program.isBlank_eq_not_pending sameTable _ _ result]
        exact congrArg not notPending
      rw [displayText_noResult result, displayText_noResult result, if_pos blank, if_pos blank]

/-! ## An entry and its undo -/

/-- The program is evaluated as it was; only the number has passed through the entry. -/
theorem Reflects.undo_append
    (reflects : screen.Reflects)
    (drawsNothing : screen.session.program.DrawsNothing screen.session.table)
    {instruction : Instruction}
    (entryDrawsNothing : Program.DrawsNothing screen.session.table [instruction]) :
    ((screen.edit (.append instruction)).refresh.edit .undo).refresh =
      { screen with
        display :=
          displayText screen.format (screen.evaluation screen.draws)
            (screen.edit (.append instruction)).refresh.display } := by
  have sameDraws : (screen.edit (.append instruction)).refresh.draws = screen.draws :=
    Program.finalState_draws (drawsNothing.append entryDrawsNothing) screen.draws
  have sameSession : (screen.session.edit (.append instruction)).edit .undo = screen.session := by
    simp only [Session.edit, Program.apply_append_undo]
  have undone :
      ((screen.edit (.append instruction)).refresh.edit .undo).refresh =
        refresh
          { screen with
            display := (screen.edit (.append instruction)).refresh.display
            session := (screen.session.edit (.append instruction)).edit .undo
            draws := (screen.edit (.append instruction)).refresh.draws } :=
    rfl
  rw [undone, sameSession, sameDraws]
  exact reflects.refresh_withDisplay drawsNothing _ screen.typing

/-- If the program has a number to show, it shows it again. -/
theorem Reflects.undo_append_complete
    (reflects : screen.Reflects) (idle : screen.typing = false)
    (drawsNothing : screen.session.program.DrawsNothing screen.session.table)
    {config : Config} (sameTable : screen.session.table = config.table)
    {instruction : Instruction}
    (entryDrawsNothing : Program.DrawsNothing screen.session.table [instruction])
    (complete : ¬(screen.evaluation screen.draws).LacksOperand) :
    ((screen.edit (.append instruction)).refresh.edit .undo).refresh = screen := by
  rw [reflects.undo_append drawsNothing entryDrawsNothing,
    reflects.display_of_not_lacksOperand idle drawsNothing sameTable complete]

/-- If it has none, the number stays that of the entry. -/
theorem Reflects.undo_append_lacking
    (reflects : screen.Reflects)
    (drawsNothing : screen.session.program.DrawsNothing screen.session.table)
    {config : Config} (sameTable : screen.session.table = config.table)
    {instruction : Instruction}
    (entryDrawsNothing : Program.DrawsNothing screen.session.table [instruction])
    (lacks : (screen.evaluation screen.draws).LacksOperand) :
    ((screen.edit (.append instruction)).refresh.edit .undo).refresh =
      { screen with display := (screen.edit (.append instruction)).refresh.display } := by
  rw [reflects.undo_append drawsNothing entryDrawsNothing, display_of_lacksOperand sameTable lacks]

/-! ## The number of the entry -/

theorem finalState_append_symbol
    {symbol : String} {operation : Operation}
    (known : screen.session.table.get? symbol = some operation) :
    (screen.edit (.append (.symbol symbol))).finalState =
      screen.finalState.perform symbol operation :=
  Program.finalState_append_known screen.session.program screen.draws known

theorem display_append_constant
    {symbol : String} {value : Float}
    (known : screen.session.table.get? symbol = some (.constant value)) :
    (screen.edit (.append (.symbol symbol))).refresh.display = screen.format.display value := by
  apply refresh_display_of_result
  rw [finalState_append_symbol known]
  rfl

/-- An operation without an operand does nothing. -/
theorem display_append_of_lacksOperand
    {config : Config} (sameTable : screen.session.table = config.table)
    (lacks : (screen.evaluation screen.draws).LacksOperand)
    {symbol : String} {operation : Operation}
    (known : screen.session.table.get? symbol = some operation)
    (drawsNothing : operation.draws = false)
    (noConstant : ∀ value, operation ≠ .constant value) :
    (screen.edit (.append (.symbol symbol))).refresh.display = screen.display := by
  have noValue : screen.finalState.value? = none := lacks.1
  have sameState : (screen.edit (.append (.symbol symbol))).finalState = screen.finalState := by
    rw [finalState_append_symbol known,
      EvaluationState.perform_of_noValue noValue symbol drawsNothing noConstant]
  have renewed :
      (screen.edit (.append (.symbol symbol))).refresh.display =
        displayText screen.format
          (Evaluation.ofState (screen.edit (.append (.symbol symbol))).finalState)
          screen.display :=
    rfl
  rw [renewed, sameState]
  exact display_of_lacksOperand sameTable lacks screen.display

/-! ## The keys -/

theorem press_operation_of_idle
    (idle : screen.typing = false) {symbol : String}
    (available : screen.isAvailable symbol = true) :
    screen.press (.operation symbol) = (screen.edit (.append (.symbol symbol))).refresh := by
  have committed : screen.commit = screen := by
    rw [commit, if_neg (ne_true_of_eq_false idle), ← idle]
  rw [press, operate, if_pos available, committed]

theorem press_recallMemory_of_idle (idle : screen.typing = false) :
    screen.press .recallMemory = (screen.edit (.append (.reference memoryName))).refresh := by
  rw [press, recallMemory, ← idle]
  rfl

theorem press_back_of_idle (idle : screen.typing = false) :
    screen.press .back = (screen.edit .undo).refresh := by
  rw [press, back, if_neg (ne_true_of_eq_false idle)]

section Keys

variable (reflects : screen.Reflects) (idle : screen.typing = false)
  (drawsNothing : screen.session.program.DrawsNothing screen.session.table)
  {config : Config} (sameTable : screen.session.table = config.table)
include reflects idle drawsNothing sameTable

theorem Reflects.operation_back
    {symbol : String} {operation : Operation}
    (known : screen.session.table.get? symbol = some operation)
    (operationDrawsNothing : operation.draws = false) :
    let undone := (screen.press (.operation symbol)).press .back
    let lacks := (screen.evaluation screen.draws).LacksOperand
    (¬(lacks ∧ ∃ value, operation = .constant value) → undone = screen) ∧
      ∀ value, lacks → operation = .constant value →
        undone = { screen with display := screen.format.display value } := by
  intro undone lacks
  have available : screen.isAvailable symbol = true := by
    rw [isAvailable, OperationTable.contains, known]
    rfl
  have entryDrawsNothing := Program.drawsNothing_symbol known operationDrawsNothing
  have edited : undone = ((screen.edit (.append (.symbol symbol))).refresh.edit .undo).refresh := by
    show (screen.press (.operation symbol)).press .back = _
    rw [press_operation_of_idle idle available]
    exact press_back_of_idle idle
  rw [edited]
  constructor
  · intro notBoth
    by_cases lacking : lacks
    · rw [reflects.undo_append_lacking drawsNothing sameTable entryDrawsNothing lacking,
        display_append_of_lacksOperand sameTable lacking known operationDrawsNothing
          fun value constant => notBoth ⟨lacking, value, constant⟩]
    · exact reflects.undo_append_complete idle drawsNothing sameTable entryDrawsNothing lacking
  · intro value lacking constant
    rw [reflects.undo_append_lacking drawsNothing sameTable entryDrawsNothing lacking,
      display_append_constant (constant ▸ known)]

theorem Reflects.recallMemory_back :
    let undone := (screen.press .recallMemory).press .back
    let lacks := (screen.evaluation screen.draws).LacksOperand
    (¬lacks → undone = screen) ∧
      (lacks → undone = { screen with display := screen.memoryDisplay }) := by
  intro undone lacks
  have entryDrawsNothing :
      Program.DrawsNothing screen.session.table [.reference memoryName] :=
    Program.drawsNothing_of_noSymbol _ fun _ => Instruction.noConfusion
  have edited :
      undone = ((screen.edit (.append (.reference memoryName))).refresh.edit .undo).refresh := by
    show (screen.press .recallMemory).press .back = _
    rw [press_recallMemory_of_idle idle]
    exact press_back_of_idle idle
  have recalled :
      (screen.edit (.append (.reference memoryName))).refresh.display = screen.memoryDisplay := by
    rw [← press_recallMemory_of_idle idle, reflects.memoryDisplay, bindings_value_memoryName]
    exact display_recallMemory screen
  rw [edited]
  constructor
  · intro complete
    exact reflects.undo_append_complete idle drawsNothing sameTable entryDrawsNothing complete
  · intro lacking
    rw [reflects.undo_append_lacking drawsNothing sameTable entryDrawsNothing lacking, recalled]

end Keys

/-- A key of an operation or of the memory can be taken back.  After any keys that end without an
entry under way, the next key and its undo leave program, memory and all texts as they were, unless
the program has no number to show because an operation waits for its second operand, and the key
brings a number of its own: a constant, or the memory.  Then this number stays, and everything else
is as it was. -/
theorem pressAll_back_afterOperation
    (config : Config) (draws : Draws) (keys : List Key) (supply : Draws) :
    let screen := (start config.format config.table draws).pressAll keys
    let evaluation :=
      screen.session.program.evaluate
        { table := config.table, bindings := screen.bindings, display := config.format.display }
        supply
    screen.typing = false → screen.session.program.DrawsNothing config.table →
      (∀ symbol operation, config.table.get? symbol = some operation → operation.draws = false →
        let undone := (screen.press (.operation symbol)).press .back
        (¬(evaluation.LacksOperand ∧ ∃ value, operation = .constant value) → undone = screen) ∧
          ∀ value, evaluation.LacksOperand → operation = .constant value →
            undone = { screen with display := config.format.display value }) ∧
      let undone := (screen.press .recallMemory).press .back
      (¬evaluation.LacksOperand → undone = screen) ∧
        (evaluation.LacksOperand → undone = { screen with display := screen.memoryDisplay }) := by
  intro screen evaluation idle drawsNothing
  have reflects : screen.Reflects :=
    (start_reflects config.format config.table draws).pressAll keys
  have sameTable : screen.session.table = config.table := pressAll_table _ keys
  have sameFormat : screen.format = config.format := pressAll_format _ keys
  rw [← sameTable] at drawsNothing
  have sameEvaluation : screen.evaluation screen.draws = evaluation := by
    rw [evaluation_eq_of_drawsNothing drawsNothing screen.draws supply,
      evaluation_eq sameTable sameFormat]
  rw [← sameEvaluation, ← sameTable, ← sameFormat]
  constructor
  · intro symbol operation known operationDrawsNothing
    exact reflects.operation_back idle drawsNothing sameTable known operationDrawsNothing
  · exact reflects.recallMemory_back idle drawsNothing sameTable

/-- The sum waits: a root leaves no trace, the memory leaves its number. -/
theorem pressAll_back_afterOperation_waitingSum :
    let config : Config := { disabled := ["Ran"] }
    let keys : List Key := [.entry "2", .storeMemory, .entry "5", .operation "+"]
    let screen := (start config.format config.table (Draws.ofSeed 0)).pressAll keys
    config.IsSound ∧ screen.typing = false ∧ screen.session.program.DrawsNothing config.table ∧
      screen.display = "5" ∧ screen.history = "5 +  …" ∧
      (screen.press (.operation "√")).press .back = screen ∧
      ((screen.press .recallMemory).press .back).display = "2" ∧
      ((screen.press .recallMemory).press .back).history = "5 +  …" := by
  intro config keys screen
  have idle : screen.typing = false := by
    decide +kernel
  have tableDrawsNothing : config.table.DrawsNothing :=
    OperationTable.drawsNothing_of_entries (by decide)
  have display : screen.display = "5" := by
    decide +kernel
  have history : screen.history = "5 +  …" := by
    decide +kernel
  have memory : screen.memoryDisplay = "2" := by
    decide +kernel
  have noResult :
      (screen.session.program.evaluate
        { table := config.table, bindings := screen.bindings, display := config.format.display }
        (Draws.ofSeed 0)).result? = none := by
    decide +kernel
  have pending :
      (screen.session.program.evaluate
        { table := config.table, bindings := screen.bindings, display := config.format.display }
        (Draws.ofSeed 0)).pending = true := by
    decide +kernel
  have root : config.table.get? "√" = some (.unary { compute := Float.sqrt }) :=
    rfl
  obtain ⟨operations, _, recalled⟩ :=
    pressAll_back_afterOperation config (Draws.ofSeed 0) keys (Draws.ofSeed 0) idle
      (tableDrawsNothing.program _)
  have stays := recalled ⟨noResult, pending⟩
  have noConstant (value : Float) :
      Operation.unary { compute := Float.sqrt } ≠ .constant value :=
    Operation.noConfusion
  have restored : (screen.press (.operation "√")).press .back = screen :=
    (operations "√" _ root rfl).1 fun ⟨_, value, constant⟩ => noConstant value constant
  refine ⟨by decide, idle, tableDrawsNothing.program _, display, history, restored, ?_, ?_⟩
  -- The fields are read off before anything is compared, so that no screen is evaluated.
  · rw [stays]
    dsimp only
    exact memory
  · rw [stays]
    dsimp only
    exact history

/-- A constant stays on the screen when its key is taken back. -/
theorem back_afterConstant_differs :
    let config : Config := {}
    let keys : List Key := [.entry "5", .operation "+"]
    let screen := (start config.format config.table (Draws.ofSeed 0)).pressAll keys
    let undone := (screen.press (.operation "π")).press .back
    config.IsSound ∧ screen.typing = false ∧ screen.session.program.DrawsNothing config.table ∧
      (∃ operation, config.table.get? "π" = some operation ∧ operation.draws = false) ∧
      screen.display = "5" ∧ undone.display = "3.141593" := by
  intro config keys screen undone
  have program : screen.session.program = [.operand 5.0] ++ [.symbol "+"] := by
    decide +kernel
  have sum :
      config.table.get? "+" = some (Operation.usualBinary fun first second => first + second) :=
    rfl
  have drawsNothing : Program.DrawsNothing config.table ([.operand 5.0] ++ [.symbol "+"]) :=
    (Program.drawsNothing_of_noSymbol _ fun _ => Instruction.noConfusion).append
      (Program.drawsNothing_symbol sum rfl)
  refine ⟨by decide, by decide +kernel, program ▸ drawsNothing, ⟨_, rfl, rfl⟩, ?_, ?_⟩
  · decide +kernel
  · decide +kernel

end Screen

end PocketCalc
