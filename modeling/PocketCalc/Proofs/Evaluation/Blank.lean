import PocketCalc.Proofs.Evaluation.Expressions
import PocketCalc.Proofs.Operation.Lookup

/-!
# Nothing to describe

The blank description stands for nothing at all.  An operation that waits is never described as
blank under the table of a configuration, because every binary symbol is written between its
operands, even when there is no second one.
-/

namespace PocketCalc

namespace ExpressionState

/-- The operation that waits, if any, is one that the table has. -/
def WaitingIsKnown (table : OperationTable) (state : ExpressionState) : Prop :=
  ∀ node, state.waiting? = some node →
    table.get? node.symbol = some (.binary node.operation)

variable {table : OperationTable} {state : ExpressionState}

theorem WaitingIsKnown.close (known : state.WaitingIsKnown table) :
    state.close.WaitingIsKnown table := by
  unfold ExpressionState.close
  split
  · intro node waiting
    exact absurd waiting (by simp)
  · exact known

theorem WaitingIsKnown.perform
    (known : state.WaitingIsKnown table) {symbol : String} {operation : Operation}
    (entry : table.get? symbol = some operation) :
    (state.perform symbol operation).WaitingIsKnown table := by
  cases operation with
  | nullary compute label =>
      exact known
  | constant value =>
      exact known
  | unary operation =>
      rw [ExpressionState.perform, wrap]
      split
      · exact known
      · exact known
  | binary operation =>
      rw [ExpressionState.perform, suspend]
      split
      · intro node waiting
        cases waiting
        exact entry
      · exact known.close
  | equals =>
      exact known.close

theorem WaitingIsKnown.step (known : state.WaitingIsKnown table) (instruction : Instruction) :
    (state.step table instruction).WaitingIsKnown table := by
  cases instruction with
  | operand value =>
      exact known
  | reference name =>
      exact known
  | symbol symbol =>
      rw [ExpressionState.step]
      split
      · next operation entry =>
          exact known.perform entry
      · exact known

theorem WaitingIsKnown.run (known : state.WaitingIsKnown table) (program : Program) :
    (state.run table program).WaitingIsKnown table := by
  induction program generalizing state with
  | nil =>
      exact known
  | cons instruction program inductionHypothesis =>
      exact inductionHypothesis (known.step instruction)

end ExpressionState

namespace Program

theorem waitingIsKnown_expressions (program : Program) (table : OperationTable) :
    (program.expressions table).WaitingIsKnown table := by
  apply ExpressionState.WaitingIsKnown.run
  intro node waiting
  exact absurd waiting (by simp)

/-- An evaluation without a result is blank unless an operation is pending. -/
theorem isBlank_evaluate
    {config : Config} {context : Context} (sameTable : context.table = config.table)
    (program : Program) (draws : Draws)
    (noResult : (program.evaluate context draws).result? = none) :
    (program.evaluate context draws).isBlank =
      ((program.expressions config.table).waiting?.isNone) := by
  have known := program.waitingIsKnown_expressions config.table
  rw [evaluate, finalState_eq_denote, ExpressionState.ofState_denote, sameTable] at noResult ⊢
  have noTree := Option.map_eq_none_iff.mp noResult
  rw [Evaluation.isBlank, ExpressionState.description, noTree]
  cases waiting : (program.expressions config.table).waiting? with
  | none =>
      rfl
  | some node =>
      obtain ⟨_, describes⟩ := Config.table_binary (known node waiting)
      rw [Option.isNone_some, beq_eq_false_iff_ne]
      dsimp only
      rw [WaitingNode.describe, describes]
      exact writtenBinary_ne_blank _ _ _

/-- Without a result there is nothing to describe, or an operand is missing. -/
theorem isBlank_eq_not_pending
    {config : Config} {context : Context} (sameTable : context.table = config.table)
    (program : Program) (draws : Draws)
    (noResult : (program.evaluate context draws).result? = none) :
    (program.evaluate context draws).isBlank = !(program.evaluate context draws).pending := by
  rw [program.isBlank_evaluate sameTable draws noResult, evaluate_eq_reading, sameTable,
    Option.not_isSome]

end Program

end PocketCalc
