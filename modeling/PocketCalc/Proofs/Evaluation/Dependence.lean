import PocketCalc.Proofs.Evaluation.Expressions

/-!
# What an evaluation depends on

A table matters only at the symbols of the program: tables that agree on those give the same
evaluation.  The way numbers are shown matters only for the text: it has no part in the result, in
what is pending or in how many values are drawn.  The values of names and of draws matter only for
the result: they have no part in the text.
-/

namespace PocketCalc

/-! ## Tables -/

namespace OperationTable

/-- The tables know the symbols of the program alike. -/
def AgreeOn (first second : OperationTable) (program : Program) : Prop :=
  ∀ symbol, .symbol symbol ∈ program → first.get? symbol = second.get? symbol

end OperationTable

namespace EvaluationState

/-- Where each entry of the program does the same in both contexts, so does the program. -/
theorem run_congr
    {first second : Context} {program : Program}
    (sameSteps : ∀ instruction ∈ program, ∀ state,
      step first state instruction = step second state instruction)
    (state : EvaluationState) :
    run first state program = run second state program := by
  induction program generalizing state with
  | nil =>
      rfl
  | cons instruction program inductionHypothesis =>
      rw [List.forall_mem_cons] at sameSteps
      rw [run_cons, run_cons, sameSteps.1, inductionHypothesis sameSteps.2]

theorem run_congr_table
    {first second : OperationTable} {bindings : Bindings} {display : Float → String}
    {program : Program} (agree : first.AgreeOn second program) (state : EvaluationState) :
    run ⟨first, bindings, display⟩ state program =
      run ⟨second, bindings, display⟩ state program := by
  apply run_congr
  intro instruction member state
  cases instruction with
  | operand value =>
      rfl
  | reference name =>
      rfl
  | symbol symbol =>
      simp only [step, agree symbol member]

end EvaluationState

/-! ## Number formats, names and draws -/

theorem Expression.value_congr
    {first second : Context} (sameBindings : first.bindings = second.bindings)
    (draws : Draws) (expression : Expression) :
    expression.value first draws = expression.value second draws := by
  induction expression with
  | operand value =>
      rfl
  | reference name =>
      rw [Expression.value, Expression.value, sameBindings]
  | constant symbol value =>
      rfl
  | drawn compute label index =>
      rfl
  | unary symbol operation inner inductionHypothesis =>
      rw [Expression.value, Expression.value, inductionHypothesis]
  | binary symbol operation left right leftHypothesis rightHypothesis =>
      rw [Expression.value, Expression.value, leftHypothesis, rightHypothesis]

theorem Expression.text_congr
    {first second : Context} (sameDisplay : first.display = second.display)
    (expression : Expression) :
    expression.text first = expression.text second := by
  induction expression with
  | operand value =>
      rw [Expression.text, Expression.text, sameDisplay]
  | reference name =>
      rfl
  | constant symbol value =>
      rfl
  | drawn compute label index =>
      rfl
  | unary symbol operation inner inductionHypothesis =>
      rw [Expression.text, Expression.text, inductionHypothesis]
  | binary symbol operation left right leftHypothesis rightHypothesis =>
      rw [Expression.text, Expression.text, leftHypothesis, rightHypothesis]

theorem ExpressionState.description_congr
    {first second : Context} (sameDisplay : first.display = second.display)
    (state : ExpressionState) :
    state.description first = state.description second := by
  have sameText : Expression.text first = Expression.text second :=
    funext (Expression.text_congr sameDisplay)
  obtain ⟨current?, waiting?, drawn⟩ := state
  cases waiting? with
  | none =>
      cases current? with
      | none =>
          rfl
      | some current =>
          exact congrFun sameText current
  | some node =>
      cases current? with
      | none =>
          simp only [description, WaitingNode.describe, sameText]
      | some second =>
          simp only [description, WaitingNode.describe, sameText]

namespace Program

section Display

variable
  {first second : Context} (sameTable : first.table = second.table)
  (program : Program) (draws : Draws)
include sameTable

theorem finalState_value?_congr (sameBindings : first.bindings = second.bindings) :
    (program.finalState first draws).value? = (program.finalState second draws).value? := by
  have sameValue : Expression.value first draws = Expression.value second draws :=
    funext (Expression.value_congr sameBindings draws)
  rw [finalState_eq_denote, finalState_eq_denote, ExpressionState.denote, ExpressionState.denote,
    sameTable, sameValue]

theorem finalState_draws_congr :
    (program.finalState first draws).draws = (program.finalState second draws).draws := by
  rw [finalState_eq_denote, finalState_eq_denote, ExpressionState.denote, ExpressionState.denote,
    sameTable]

theorem evaluate_pending_congr (otherDraws : Draws) :
    (program.evaluate first draws).pending = (program.evaluate second otherDraws).pending := by
  rw [evaluate, evaluate, finalState_eq_denote, finalState_eq_denote,
    ExpressionState.ofState_denote, ExpressionState.ofState_denote, sameTable]

theorem evaluate_hasResult_congr (otherDraws : Draws) :
    (program.evaluate first draws).result?.isSome =
      (program.evaluate second otherDraws).result?.isSome := by
  rw [evaluate, evaluate, finalState_eq_denote, finalState_eq_denote,
    ExpressionState.ofState_denote, ExpressionState.ofState_denote, sameTable, Option.isSome_map,
    Option.isSome_map]

theorem evaluate_description_congr
    (otherDraws : Draws) (sameDisplay : first.display = second.display) :
    (program.evaluate first draws).description =
      (program.evaluate second otherDraws).description := by
  rw [evaluate, evaluate, finalState_eq_denote, finalState_eq_denote,
    ExpressionState.ofState_denote, ExpressionState.ofState_denote, sameTable]
  exact ExpressionState.description_congr sameDisplay _

end Display

end Program

end PocketCalc
