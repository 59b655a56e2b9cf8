import PocketCalc.NumberFormat.ShownNumber
import PocketCalc.Operation.Standard
import PocketCalc.Proofs.Evaluation.Dependence

/-!
# Names stand for numbers

The numbers of a pass do not know how they are written.  Two states with the same numbers (the same
running value, the same computation that waits, the same draws to come) go on with the same numbers,
whatever their texts are.  Two things follow:

* a name can be replaced by its value, and a value by a name for it, without a change to any number;
* a computation that is complete has nothing left of it but a number and a text, so that a program
  goes on from it as from an operand, or as from a name for the number that reads like the text.
-/

namespace PocketCalc

namespace Bindings

@[simp]
theorem value_cons_self (name : String) (value : Float) (bindings : Bindings) :
    Bindings.value ((name, value) :: bindings) name = value := by
  simp [Bindings.value]

theorem value_cons_of_ne
    {name other : String} (differs : other ≠ name) (value : Float) (bindings : Bindings) :
    Bindings.value ((name, value) :: bindings) other = bindings.value other := by
  have unequal : (other == name) = false := by
    simpa using differs
  simp [Bindings.value, List.lookup_cons, unequal]

end Bindings

namespace Instruction

/-- The entry with the value of a name in the place of the name; a name without one counts as 0. -/
def withValue (bindings : Bindings) : Instruction → Instruction
  | .operand value => .operand value
  | .reference name => .operand ((bindings.lookup name).getD 0.0)
  | .symbol key => .symbol key

end Instruction

/-- The program with their values in the place of all names. -/
def Program.withValues (program : Program) (bindings : Bindings) : Program :=
  program.map (Instruction.withValue bindings)

namespace EvaluationState

/-- The states have the same running value, the same computation that waits and the same draws. -/
structure SameNumbers (first second : EvaluationState) : Prop where
  value? : first.value? = second.value?
  waiting? : first.pending?.map Pending.compute = second.pending?.map Pending.compute
  draws : first.draws = second.draws

/-! ## Numbers lead to numbers -/

/-- Finishing what waits applies the computation that waits, if there is one, to the value. -/
theorem resolve_value? (state : EvaluationState) :
    state.resolve.value? =
      state.value?.map ((state.pending?.map Pending.compute).getD id) := by
  obtain ⟨value?, text?, pending?, draws⟩ := state
  rcases value? with _ | second
  · simp [resolve]
  · rcases pending? with _ | pending
    · simp [resolve]
    · simp [resolve]

theorem resolve_waiting? (state : EvaluationState) :
    state.resolve.pending?.map Pending.compute =
      if state.value?.isSome then none else state.pending?.map Pending.compute := by
  obtain ⟨value?, text?, pending?, draws⟩ := state
  rcases value? with _ | second
  · simp [resolve]
  · rcases pending? with _ | pending
    · simp [resolve]
    · simp [resolve]

theorem draws_resolve (state : EvaluationState) : state.resolve.draws = state.draws := by
  rw [resolve]
  split
  · rfl
  · rfl

namespace SameNumbers

variable {first second third : EvaluationState}

theorem refl (state : EvaluationState) : state.SameNumbers state :=
  ⟨rfl, rfl, rfl⟩

theorem symm (same : first.SameNumbers second) : second.SameNumbers first :=
  ⟨same.value?.symm, same.waiting?.symm, same.draws.symm⟩

theorem trans (same : first.SameNumbers second) (also : second.SameNumbers third) :
    first.SameNumbers third :=
  ⟨same.value?.trans also.value?, same.waiting?.trans also.waiting?,
    same.draws.trans also.draws⟩

variable (same : first.SameNumbers second)
include same

theorem load (value : Float) (text otherText : String) :
    (first.load value text).SameNumbers (second.load value otherText) :=
  ⟨rfl, same.waiting?, same.draws⟩

theorem resolve : first.resolve.SameNumbers second.resolve where
  value? := by
    rw [resolve_value?, resolve_value?, same.value?, same.waiting?]
  waiting? := by
    rw [resolve_waiting?, resolve_waiting?, same.value?, same.waiting?]
  draws := by
    rw [draws_resolve, draws_resolve, same.draws]

theorem applyUnary (symbol : String) (operation : UnaryOperation) :
    (first.applyUnary symbol operation).SameNumbers (second.applyUnary symbol operation) := by
  rw [EvaluationState.applyUnary, EvaluationState.applyUnary, same.value?]
  cases second.value? with
  | none =>
      exact same
  | some operand =>
      exact same.load _ _ _

theorem suspend (symbol : String) (operation : BinaryOperation) :
    (first.suspend symbol operation).SameNumbers (second.suspend symbol operation) := by
  rw [EvaluationState.suspend, EvaluationState.suspend, same.value?]
  cases second.value? with
  | none =>
      exact same
  | some value =>
      exact ⟨rfl, rfl, same.draws⟩

theorem perform (symbol : String) (operation : Operation) :
    (first.perform symbol operation).SameNumbers (second.perform symbol operation) := by
  cases operation with
  | nullary compute label =>
      simp only [EvaluationState.perform, same.draws]
      exact ⟨rfl, same.waiting?, rfl⟩
  | constant value =>
      exact same.load value symbol symbol
  | unary operation =>
      exact same.applyUnary symbol operation
  | binary operation =>
      exact same.resolve.suspend symbol operation
  | equals =>
      exact same.resolve

/-- A name and its value lead to the same numbers. -/
theorem step
    {context other : Context} (sameTable : context.table = other.table)
    (instruction : Instruction) :
    (step context first instruction).SameNumbers
      (step other second (instruction.withValue context.bindings)) := by
  cases instruction with
  | operand value =>
      exact same.load value _ _
  | reference name =>
      -- The value is the same, but one text is the name and the other the value as it is shown.
      exact same.load _ _ _
  | symbol symbol =>
      rw [Instruction.withValue, EvaluationState.step, EvaluationState.step, sameTable]
      split
      · exact same.perform symbol _
      · exact same

theorem run
    {context other : Context} (sameTable : context.table = other.table) (program : Program) :
    (run context first program).SameNumbers
      (run other second (program.withValues context.bindings)) := by
  induction program generalizing first second with
  | nil =>
      exact same
  | cons instruction program inductionHypothesis =>
      exact inductionHypothesis (same.step sameTable instruction)

/-- Both go on alike under one program.  With the values in the place of its names the program leads
from either state to the numbers that it leads to from the second. -/
theorem run_both (context : Context) (program : Program) :
    (EvaluationState.run context first program).SameNumbers
      (EvaluationState.run context second program) :=
  (same.run rfl program).trans ((refl second).run rfl program).symm

theorem ofState :
    (Evaluation.ofState first).result? = (Evaluation.ofState second).result? ∧
      (Evaluation.ofState first).pending = (Evaluation.ofState second).pending := by
  have waits := congrArg Option.isSome same.waiting?
  rw [Option.isSome_map, Option.isSome_map] at waits
  exact ⟨same.value?, waits⟩

end SameNumbers

/-! ## Complete computations -/

/-- What is reported of a complete computation is all that is left of it. -/
theorem eq_load_of_complete
    {state : EvaluationState} (paired : state.IsPaired) {value : Float} {description : String}
    (complete :
      Evaluation.ofState state =
        { result? := some value, pending := false, description := description }) :
    state = load { draws := state.draws } value description := by
  have result : state.value? = some value := congrArg Evaluation.result? complete
  have idle : state.pending?.isSome = false := congrArg Evaluation.pending complete
  obtain ⟨text, shown⟩ : ∃ text, state.text? = some text := by
    rw [← Option.isSome_iff_exists, paired, result]
    rfl
  obtain ⟨value?, text?, pending?, draws⟩ := state
  obtain rfl : value? = some value := result
  obtain rfl : text? = some text := shown
  cases pending? with
  | some pending =>
      exact absurd idle (by simp)
  | none =>
      obtain rfl : text = description := congrArg Evaluation.description complete
      rfl

theorem step_withBinding
    (context : Context) (name : String) (value : Float) (state : EvaluationState) :
    step { context with bindings := (name, value) :: context.bindings } state (.reference name) =
      state.load value name := by
  rw [step, Bindings.value_cons_self]

/-- A name that the program does not mention may stand for anything. -/
theorem run_withBinding
    {context : Context} {name : String} {program : Program} (absent : .reference name ∉ program)
    (value : Float) (state : EvaluationState) :
    run { context with bindings := (name, value) :: context.bindings } state program =
      run context state program := by
  apply run_congr
  intro instruction member state
  cases instruction with
  | operand value =>
      rfl
  | reference other =>
      have differs : other ≠ name := by
        rintro rfl
        exact absent member
      rw [step, step, Bindings.value_cons_of_ne differs]
  | symbol key =>
      rfl

end EvaluationState

namespace Program

/-- A name is an operand that is described by the name.  With the values in the place of the names
there is the same result and the same is pending, whatever the names stand for then.  What the names
stand for, and what is drawn, has no part in the description, in what is pending or in whether there
is a result. -/
theorem evaluate_withValues (program : Program) (context : Context) (draws : Draws) :
    let original := program.evaluate context draws
    (∀ other : Bindings,
      let replaced :=
        (program.withValues context.bindings).evaluate { context with bindings := other } draws
      replaced.result? = original.result? ∧ replaced.pending = original.pending) ∧
    ∀ (other : Bindings) (otherDraws : Draws),
      let renewed := program.evaluate { context with bindings := other } otherDraws
      renewed.description = original.description ∧
        renewed.pending = original.pending ∧
        renewed.result?.isSome = original.result?.isSome := by
  intro original
  constructor
  · intro other replaced
    have sameTable : context.table = { context with bindings := other }.table := rfl
    exact ((EvaluationState.SameNumbers.refl { draws := draws }).run sameTable program).symm.ofState
  · intro other otherDraws renewed
    have sameTable : { context with bindings := other }.table = context.table := rfl
    exact
      ⟨evaluate_description_congr sameTable program otherDraws draws rfl,
        evaluate_pending_congr sameTable program otherDraws draws,
        evaluate_hasResult_congr sameTable program otherDraws draws⟩

/-- A name with a value, one without, and a drawn number: with their values in the place of the
names the sum is the same even where the names have other values, and these other values change the
sum without changing its description. -/
theorem evaluate_withValues_boundAndUnbound :
    let context : Context :=
      { table := .standard, bindings := [("M", 2.5)], display := ({} : NumberFormat).display }
    let draws : Draws := { value := fun _ => 0.5 }
    let other : Bindings := [("X", 7.0), ("M", 100.0)]
    let program : Program :=
      [.reference "M", .symbol "+", .reference "X", .symbol "+", .symbol "Ran", .symbol "="]
    let replaced := program.withValues context.bindings
    let renewed := program.evaluate { context with bindings := other } draws
    replaced =
        [.operand 2.5, .symbol "+", .operand 0.0, .symbol "+", .symbol "Ran", .symbol "="] ∧
      (replaced.evaluate { context with bindings := other } draws).result? = some 3.0 ∧
      renewed.result? = some 107.5 ∧
      renewed.description = "M + X + rand()" := by
  intro context draws other program replaced renewed
  have original :
      program.evaluate context draws =
        { result? := some 3.0, pending := false, description := "M + X + rand()" } := by
    decide +kernel
  obtain ⟨sameNumbers, sameText⟩ := evaluate_withValues program context draws
  rw [original] at sameNumbers sameText
  exact ⟨by decide, (sameNumbers other).1, by decide +kernel, (sameText other draws).1⟩

/-- A complete computation behaves as its value.  Whatever is entered behind it leads to the same
result as behind an operand of this value, and the same is pending; behind a name for the value that
reads like the description, and that is not used otherwise, the description is the same as well. -/
theorem evaluate_append_complete
    {program : Program} {context : Context} {draws : Draws} {value : Float} {description : String}
    (complete :
      program.evaluate context draws =
        { result? := some value, pending := false, description := description })
    (continuation : Program) :
    let remaining := (program.finalState context draws).draws
    let whole := evaluate (program ++ continuation) context draws
    let behindOperand := evaluate (.operand value :: continuation) context remaining
    let behindName :=
      evaluate (.reference description :: continuation)
        { context with bindings := (description, value) :: context.bindings } remaining
    behindOperand.result? = whole.result? ∧
      behindOperand.pending = whole.pending ∧
      (.reference description ∉ continuation → behindName = whole) := by
  intro remaining whole behindOperand behindName
  have final :
      program.finalState context draws =
        EvaluationState.load { draws := remaining } value description :=
    EvaluationState.eq_load_of_complete (program.isPaired_finalState context draws) complete
  have goesOn :
      whole =
        Evaluation.ofState
          (EvaluationState.run context
            (EvaluationState.load { draws := remaining } value description) continuation) := by
    rw [← final]
    exact congrArg Evaluation.ofState (program.finalState_append continuation context draws)
  have sameNumbers :
      (EvaluationState.load { draws := remaining } value (context.display value)).SameNumbers
        (EvaluationState.load { draws := remaining } value description) :=
    (EvaluationState.SameNumbers.refl { draws := remaining }).load value _ _
  -- Behind the operand only the text differs from that of the computation.
  obtain ⟨sameResult, samePending⟩ := (sameNumbers.run_both context continuation).ofState
  rw [goesOn]
  refine ⟨sameResult, samePending, fun unused => ?_⟩
  have named :
      behindName =
        Evaluation.ofState
          (EvaluationState.run
            { context with bindings := (description, value) :: context.bindings }
            (EvaluationState.load { draws := remaining } value description) continuation) := by
    rw [← EvaluationState.step_withBinding context description value { draws := remaining }]
    rfl
  rw [named, EvaluationState.run_withBinding unused]

/-- A sum with a drawn value goes on as its number does, and the next draw is the second one. -/
theorem evaluate_append_complete_drawnSum :
    let context : Context :=
      { table := .standard, bindings := [("M", 3.0)], display := ({} : NumberFormat).display }
    let draws : Draws := { value := fun index => if index = 0 then 0.5 else 0.25 }
    let sum : Program := [.operand 1.0, .symbol "+", .symbol "Ran", .symbol "="]
    let continuation : Program :=
      [.symbol "×", .reference "M", .symbol "+", .symbol "Ran", .symbol "="]
    let named : Context :=
      { context with bindings := ("1 + rand()", 1.5) :: context.bindings }
    sum.evaluate context draws =
        { result? := some 1.5, pending := false, description := "1 + rand()" } ∧
      .reference "1 + rand()" ∉ continuation ∧
      (evaluate (.operand 1.5 :: continuation) context (draws.advance 1)).result? = some 4.75 ∧
      evaluate (.reference "1 + rand()" :: continuation) named (draws.advance 1) =
        { result? := some 4.75, pending := false, description := "1 + rand() × M + rand()" } := by
  intro context draws sum continuation named
  have complete :
      sum.evaluate context draws =
        { result? := some 1.5, pending := false, description := "1 + rand()" } := by
    decide +kernel
  have unused : .reference "1 + rand()" ∉ continuation := by
    decide
  have whole :
      evaluate (sum ++ continuation) context draws =
        { result? := some 4.75, pending := false, description := "1 + rand() × M + rand()" } := by
    decide +kernel
  obtain ⟨sameResult, _, sameEvaluation⟩ := evaluate_append_complete complete continuation
  rw [whole] at sameResult sameEvaluation
  exact ⟨complete, unused, sameResult, sameEvaluation unused⟩

end Program

end PocketCalc
