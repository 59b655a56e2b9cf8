import PocketCalc.Proofs.Evaluation.Expressions
import PocketCalc.Proofs.Evaluation.Kinds
import PocketCalc.Proofs.Evaluation.Redundancy

/-!
# One more symbol

What a symbol at the end of a program changes can be told from the evaluation before it:

* `equals` leaves the description alone, because an operation that waits is described in the same
  way before and after it is finished;
* a binary symbol puts the description in the place of its first operand, if there is a result;
* without a result neither does anything, nor does a symbol that the table does not know.

Before a binary symbol takes its first operand it finishes what waits.  That the description does
not change with it is what makes the second case follow from the first.
-/

namespace PocketCalc

namespace EvaluationState

variable {state : EvaluationState}

/-- An operation that waits is described as it will be when it is finished. -/
theorem description_resolve (state : EvaluationState) :
    (Evaluation.ofState state.resolve).description = (Evaluation.ofState state).description := by
  obtain ⟨value?, text?, pending?, draws⟩ := state
  rcases value? with _ | second
  · simp [resolve, Evaluation.ofState]
  · rcases pending? with _ | pending
    · simp [resolve, Evaluation.ofState]
    · simp [resolve, Evaluation.ofState]

theorem IsPaired.resolve (paired : state.IsPaired) : state.resolve.IsPaired := by
  rw [EvaluationState.resolve]
  split
  · rfl
  · exact paired

theorem resolve_of_idle (idle : state.pending?.isSome = false) : state.resolve = state := by
  rw [resolve]
  split
  · next waiting =>
      simp [waiting] at idle
  · rfl

/-- Nothing waits any longer and there is a value, if and only if there was a value before. -/
theorem finished_resolve_iff (state : EvaluationState) :
    state.resolve.pending?.isSome = false ∧ state.resolve.value?.isSome = true ↔
      state.value?.isSome = true := by
  have value : state.resolve.value?.isSome = state.value?.isSome :=
    congrArg Phase.hasValue (phase_resolve state)
  have waits : state.resolve.pending?.isSome = (state.pending?.isSome && !state.value?.isSome) :=
    congrArg Phase.waits (phase_resolve state)
  rw [value, waits]
  cases state.value?.isSome with
  | false =>
      simp
  | true =>
      simp

/-- With a value and nothing that waits, the value becomes the first operand. -/
theorem ofState_suspend
    (paired : state.IsPaired) (idle : state.pending?.isSome = false)
    (hasValue : state.value?.isSome = true) (symbol : String) (operation : BinaryOperation) :
    Evaluation.ofState (state.suspend symbol operation) =
      { result? := none
        pending := true
        description :=
          operation.describe symbol (Evaluation.ofState state).description "" } := by
  obtain ⟨first, value⟩ := Option.isSome_iff_exists.mp hasValue
  obtain ⟨text, shown⟩ := Option.isSome_iff_exists.mp (paired.trans hasValue)
  have nothingWaits : state.pending? = none := by
    simpa using idle
  rw [suspend, value, shown]
  simp only [Evaluation.ofState, Pending.describe, nothingWaits, shown, Option.getD_some,
    Option.getD_none, Option.isSome_some]

end EvaluationState

namespace Program

open EvaluationState

section Append

variable
  {context : Context} {symbol : String} (program : Program) (draws : Draws)

theorem finalState_append_known
    {operation : Operation} (known : context.table.get? symbol = some operation) :
    finalState (program ++ [.symbol symbol]) context draws =
      (program.finalState context draws).perform symbol operation := by
  rw [finalState_append, run_cons, run_nil, step_known known]

theorem finalState_append_unknown (unknown : context.table.get? symbol = none) :
    finalState (program ++ [.symbol symbol]) context draws = program.finalState context draws := by
  rw [finalState_append, run_cons, run_nil, step_unknown unknown]

end Append

/-- One more symbol changes the evaluation only as it should.  An `equals` never changes the
description; it leaves a result and nothing pending if and only if there was a result before, and
where there was none, or nothing was pending, it changes nothing.  A binary symbol makes of a result
the first operand of an operation that is pending, described by the former description and no second
operand; without a result it changes nothing, and what is pending stays the same operation.  A
symbol that the table does not know changes nothing. -/
theorem evaluate_append_symbol
    (program : Program) (context : Context) (draws : Draws) (symbol : String) :
    let before := program.evaluate context draws
    let after := evaluate (program ++ [.symbol symbol]) context draws
    (context.table.get? symbol = some .equals →
      after.description = before.description ∧
        (after.pending = false ∧ after.result?.isSome = true ↔ before.result?.isSome = true) ∧
        (before.result? = none ∨ before.pending = false → after = before)) ∧
    (∀ operation, context.table.get? symbol = some (.binary operation) →
      (before.result?.isSome = true →
        after =
          { result? := none
            pending := true
            description := operation.describe symbol before.description "" }) ∧
        (before.result? = none →
          after = before ∧
            (finalState (program ++ [.symbol symbol]) context draws).pending? =
              (program.finalState context draws).pending?)) ∧
    (context.table.get? symbol = none → after = before) := by
  intro before after
  have paired := program.isPaired_finalState context draws
  refine ⟨fun closes => ?_, fun operation known => ?_, fun unknown => ?_⟩
  · have final := program.finalState_append_known draws closes
    have afterwards : after = Evaluation.ofState (program.finalState context draws).resolve :=
      congrArg Evaluation.ofState final
    rw [afterwards]
    refine ⟨description_resolve _, finished_resolve_iff _, ?_⟩
    rintro (noResult | notPending)
    · rw [resolve_of_noValue noResult]
      rfl
    · rw [resolve_of_idle notPending]
      rfl
  · have final :
        finalState (program ++ [.symbol symbol]) context draws =
          (program.finalState context draws).resolve.suspend symbol operation :=
      program.finalState_append_known draws known
    have afterwards : after = Evaluation.ofState _ := congrArg Evaluation.ofState final
    refine ⟨fun hasResult => ?_, fun noResult => ?_⟩
    · -- What waited is finished first, and is described as before.
      obtain ⟨idle, hasValue⟩ := (finished_resolve_iff _).mpr hasResult
      rw [afterwards, ofState_suspend paired.resolve idle hasValue, description_resolve]
      rfl
    · rw [resolve_of_noValue noResult, suspend_of_noValue noResult] at final
      exact ⟨congrArg Evaluation.ofState final, congrArg EvaluationState.pending? final⟩
  · exact congrArg Evaluation.ofState (program.finalState_append_unknown draws unknown)

/-- A sum that waits is finished and becomes the base of a power, which then does not give way to a
product. -/
theorem evaluate_append_symbol_powerOfSum :
    let context : Context :=
      { table := .standard, bindings := [("M", 3.0)], display := ({} : NumberFormat).display }
    let draws := Draws.ofSeed 0
    let sum : Program := [.operand 2.0, .symbol "+", .reference "M"]
    let power : Program := sum ++ [.symbol "xʸ"]
    let before := sum.evaluate context draws
    let finished := evaluate (sum ++ [.symbol "="]) context draws
    let suspended := power.evaluate context draws
    context.table.get? "=" = some .equals ∧
      context.table.get? "?" = none ∧
      before = { result? := some 3.0, pending := true, description := "2 + M" } ∧
      finished.description = before.description ∧
      finished.pending = false ∧
      finished.result?.isSome = true ∧
      suspended = { result? := none, pending := true, description := "2 + M ^ " } ∧
      evaluate (power ++ [.symbol "×"]) context draws = suspended ∧
      evaluate (sum ++ [.symbol "?"]) context draws = before := by
  intro context draws sum power before finished suspended
  have closes : context.table.get? "=" = some .equals := rfl
  have unknown : context.table.get? "?" = none := rfl
  have value : before = { result? := some 3.0, pending := true, description := "2 + M" } := by
    decide +kernel
  have hasResult : before.result?.isSome = true := by
    rw [value]
    rfl
  obtain ⟨sameText, complete, _⟩ := (evaluate_append_symbol sum context draws "=").1 closes
  obtain ⟨notPending, stillResult⟩ := complete.mpr hasResult
  have powered := ((evaluate_append_symbol sum context draws "xʸ").2.1 _ rfl).1 hasResult
  have noResult : suspended.result? = none := congrArg Evaluation.result? powered
  have kept := (((evaluate_append_symbol power context draws "×").2.1 _ rfl).2 noResult).1
  have ignored := (evaluate_append_symbol sum context draws "?").2.2 unknown
  refine ⟨closes, unknown, value, sameText, notPending, stillResult, ?_, kept, ignored⟩
  refine powered.trans ?_
  decide +kernel

end Program

end PocketCalc
