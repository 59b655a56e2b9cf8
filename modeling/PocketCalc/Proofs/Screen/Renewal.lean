import PocketCalc.Proofs.Screen.Reflection

/-!
# Renewing the texts

A screen that reflects its program has little to renew: history, memory and draws stay as they are,
and the number becomes the result, if there is one.  What an entry at the end of the program changes
is read off the step that it adds to the pass.
-/

namespace PocketCalc

namespace Program

/-- A program that draws nothing leaves the draws to come as they were. -/
theorem finalState_draws
    {program : Program} {context : Context} (drawsNothing : program.DrawsNothing context.table)
    (draws : Draws) :
    (program.finalState context draws).draws = draws := by
  rw [finalState, EvaluationState.run_draws context { draws := draws } draws program drawsNothing]

end Program

namespace Screen

variable {screen : Screen}

/-- The evaluation in terms of the table and the format that the screen was started with. -/
theorem evaluation_eq
    {table : OperationTable} {format : NumberFormat}
    (sameTable : screen.session.table = table) (sameFormat : screen.format = format) :
    screen.evaluation =
      screen.session.program.evaluate
        { table := table, bindings := screen.bindings, display := format.display } := by
  rw [← sameTable, ← sameFormat]
  rfl

/-- Without a symbol that draws, all draws lead to the same evaluation. -/
theorem evaluation_eq_of_drawsNothing
    (drawsNothing : screen.session.program.DrawsNothing screen.session.table)
    (first second : Draws) :
    screen.evaluation first = screen.evaluation second :=
  Program.evaluate_eq_of_drawsNothing (screen.session.context screen.bindings) first second
    drawsNothing

theorem refresh_memoryDisplay (screen : Screen) :
    screen.refresh.memoryDisplay =
      screen.refresh.format.display (screen.refresh.memory?.getD 0.0) := by
  unfold refresh
  rfl

/-- A result is shown whatever was shown before. -/
theorem refresh_display_of_result {value : Float} (result : screen.finalState.value? = some value) :
    screen.refresh.display = screen.format.display value :=
  displayText_result result screen.format screen.display

/-- Without a symbol that draws, only the number may be out of date. -/
theorem Reflects.refresh_withDisplay
    (reflects : screen.Reflects)
    (drawsNothing : screen.session.program.DrawsNothing screen.session.table)
    (shown : String) (typing : Bool) :
    refresh { screen with display := shown, typing := typing } =
      { screen with
        display := displayText screen.format (screen.evaluation screen.draws) shown
        typing := typing } := by
  have history : historyText (Evaluation.ofState screen.finalState) = screen.history :=
    (reflects.history screen.draws).symm
  have memoryDisplay :
      screen.format.display (screen.memory?.getD 0.0) = screen.memoryDisplay := by
    rw [reflects.memoryDisplay, bindings_value_memoryName]
  have draws : screen.finalState.draws = screen.draws :=
    Program.finalState_draws drawsNothing screen.draws
  show Screen.mk _ _ _ (historyText (Evaluation.ofState screen.finalState))
      (screen.format.display (screen.memory?.getD 0.0)) _ screen.finalState.draws = _
  rw [history, memoryDisplay, draws]
  rfl

end Screen

end PocketCalc
