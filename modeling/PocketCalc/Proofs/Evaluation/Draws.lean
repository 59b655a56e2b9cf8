import PocketCalc.Evaluation.Basic
import PocketCalc.Proofs.Operation.Lookup

/-!
# Programs that draw nothing

If no symbol of a program draws, the draws to come are left as they were and have no part in the
evaluation.
-/

namespace PocketCalc

/-- No symbol of the program draws, as the table has them. -/
def Program.DrawsNothing (table : OperationTable) (program : Program) : Prop :=
  ∀ symbol, .symbol symbol ∈ program →
    ∀ operation, table.get? symbol = some operation → operation.draws = false

theorem OperationTable.DrawsNothing.program
    {table : OperationTable} (drawsNothing : table.DrawsNothing) (program : Program) :
    program.DrawsNothing table :=
  fun symbol _ => drawsNothing symbol

namespace EvaluationState

theorem resolve_draws (state : EvaluationState) (draws : Draws) :
    resolve { state with draws := draws } = { state.resolve with draws := draws } := by
  obtain ⟨value?, text?, pending?, former⟩ := state
  cases value? with
  | none =>
      rfl
  | some second =>
      cases pending? with
      | none =>
          rfl
      | some pending =>
          rfl

theorem perform_draws
    (state : EvaluationState) (draws : Draws) (symbol : String) {operation : Operation}
    (drawsNothing : operation.draws = false) :
    perform { state with draws := draws } symbol operation =
      { state.perform symbol operation with draws := draws } := by
  cases operation with
  | nullary compute label =>
      exact absurd drawsNothing.symm Bool.false_ne_true
  | constant value =>
      rfl
  | unary operation =>
      obtain ⟨value?, text?, pending?, former⟩ := state
      cases value? with
      | none =>
          rfl
      | some operand =>
          rfl
  | binary operation =>
      rw [perform, perform, resolve_draws, suspend, suspend]
      cases state.resolve.value? with
      | none =>
          rfl
      | some first =>
          rfl
  | equals =>
      exact resolve_draws state draws

theorem step_draws
    (context : Context) (state : EvaluationState) (draws : Draws)
    {instruction : Instruction} {program : Program} (member : instruction ∈ program)
    (drawsNothing : program.DrawsNothing context.table) :
    step context { state with draws := draws } instruction =
      { step context state instruction with draws := draws } := by
  cases instruction with
  | operand value =>
      rfl
  | reference name =>
      rfl
  | symbol symbol =>
      cases known : context.table.get? symbol with
      | none =>
          simp only [step, known]
      | some operation =>
          simp only [step, known]
          exact perform_draws state draws symbol
            (drawsNothing symbol member operation known)

theorem run_draws
    (context : Context) (state : EvaluationState) (draws : Draws) (program : Program)
    (drawsNothing : program.DrawsNothing context.table) :
    run context { state with draws := draws } program =
      { run context state program with draws := draws } := by
  induction program generalizing state with
  | nil =>
      rfl
  | cons instruction program inductionHypothesis =>
      have tail : Program.DrawsNothing context.table program :=
        fun symbol member => drawsNothing symbol (List.mem_cons_of_mem instruction member)
      rw [run_cons, step_draws context state draws List.mem_cons_self drawsNothing,
        inductionHypothesis _ tail, run_cons]

end EvaluationState

namespace Program

theorem DrawsNothing.append
    {table : OperationTable} {program : Program} (drawsNothing : program.DrawsNothing table)
    {instruction : Instruction}
    (entryDrawsNothing : Program.DrawsNothing table [instruction]) :
    Program.DrawsNothing table (program ++ [instruction]) := by
  intro symbol member
  rcases List.mem_append.mp member with former | new
  · exact drawsNothing symbol former
  · exact entryDrawsNothing symbol new

theorem drawsNothing_symbol
    {table : OperationTable} {symbol : String} {operation : Operation}
    (known : table.get? symbol = some operation)
    (drawsNothing : operation.draws = false) :
    Program.DrawsNothing table [.symbol symbol] := by
  intro other member found looked
  obtain rfl : other = symbol := Instruction.symbol.inj (List.mem_singleton.mp member)
  obtain rfl : operation = found := Option.some.inj (known.symm.trans looked)
  exact drawsNothing

theorem drawsNothing_of_noSymbol
    (table : OperationTable) {instruction : Instruction}
    (noSymbol : ∀ symbol, instruction ≠ .symbol symbol) :
    Program.DrawsNothing table [instruction] := by
  intro symbol member
  exact absurd (List.mem_singleton.mp member).symm (noSymbol symbol)

theorem evaluate_eq_of_drawsNothing
    {program : Program} (context : Context) (first second : Draws)
    (drawsNothing : program.DrawsNothing context.table) :
    program.evaluate context first = program.evaluate context second := by
  unfold evaluate finalState
  rw [EvaluationState.run_draws context { draws := second } first program drawsNothing]
  rfl

end Program

end PocketCalc
