import PocketCalc.Proofs.Evaluation.LastSymbol

/-!
# What is there after every entry

A pass has something in hand when there is a running value or an operation that waits.  Only a leaf
brings something into an empty hand, and no entry takes everything away again: a binary operation
takes the value, but waits with it from then on.

The running text comes and goes with the running value.  Wherever a step makes a longer text of the
running one, for a unary operation, for the operation that it finishes or for the one that it lets
wait, there is a running text, and the empty text that stands in for a missing one is never used.
-/

namespace PocketCalc

/-! ## A value or an operation that waits -/

namespace Phase

def isOccupied (phase : Phase) : Bool :=
  phase.hasValue || phase.waits

theorem step_isOccupied (phase : Phase) (kind : Kind) :
    (phase.step kind).isOccupied = true ↔ phase.isOccupied = true ∨ .leaf = kind := by
  obtain ⟨hasValue, waits⟩ := phase
  cases kind with
  | leaf =>
      simp [step, isOccupied]
  | unary =>
      simp [step, isOccupied]
  | binary =>
      simp [step, isOccupied]
  | equals =>
      -- What waits goes only if there is a value, which stays.
      cases hasValue with
      | false =>
          simp [step, isOccupied]
      | true =>
          simp [step, isOccupied]
  | unknown =>
      simp [step, isOccupied]

theorem run_isOccupied (phase : Phase) (kinds : List Kind) :
    (phase.run kinds).isOccupied = true ↔ phase.isOccupied = true ∨ .leaf ∈ kinds := by
  induction kinds generalizing phase with
  | nil =>
      simp [run]
  | cons kind kinds inductionHypothesis =>
      rw [run, List.foldl_cons, ← run, inductionHypothesis, step_isOccupied, List.mem_cons,
        or_assoc]

end Phase

namespace EvaluationState

variable {state : EvaluationState}

theorem isOccupied_phase (state : EvaluationState) :
    state.phase.isOccupied = true ↔
      state.value?.isSome = true ∨ state.pending?.isSome = true := by
  rw [Phase.isOccupied, phase, Bool.or_eq_true]

/-- What is there at some point of the pass is followed by something to the end. -/
theorem isOccupied_run (context : Context) (state : EvaluationState) (program : Program) :
    (run context state program).phase.isOccupied = true ↔
      state.phase.isOccupied = true ∨ .leaf ∈ program.kinds context.table := by
  rw [phase_run, Phase.run_isOccupied]

/-! ## The running text is there when it is needed -/

theorem IsPaired.exists_text
    (paired : state.IsPaired) {value : Float} (hasValue : state.value? = some value) :
    ∃ text, state.text? = some text := by
  apply Option.isSome_iff_exists.mp
  rw [paired, hasValue]
  rfl

/-- A unary operation wraps the running text. -/
theorem IsPaired.applyUnary_eq
    (paired : state.IsPaired) {operand : Float} (hasValue : state.value? = some operand)
    (symbol : String) (operation : UnaryOperation) :
    ∃ text, state.text? = some text ∧
      state.applyUnary symbol operation =
        state.load (operation.compute operand) (operation.describe symbol text) := by
  obtain ⟨text, hasText⟩ := paired.exists_text hasValue
  refine ⟨text, hasText, ?_⟩
  simp only [applyUnary, hasValue, hasText, Option.getD_some]

/-- The operation that is finished takes the running text as that of its second operand. -/
theorem IsPaired.resolve_eq
    (paired : state.IsPaired) {second : Float} (hasValue : state.value? = some second)
    {pending : Pending} (waiting : state.pending? = some pending) :
    ∃ text, state.text? = some text ∧
      state.resolve =
        { state with
          value? := some (pending.compute second)
          text? := some (pending.describe text)
          pending? := none } := by
  obtain ⟨text, hasText⟩ := paired.exists_text hasValue
  refine ⟨text, hasText, ?_⟩
  simp only [EvaluationState.resolve, hasValue, waiting, hasText, Option.getD_some]

/-- The operation that will wait takes the running text as that of its first operand. -/
theorem IsPaired.suspend_eq
    (paired : state.IsPaired) {first : Float} (hasValue : state.value? = some first)
    (symbol : String) (operation : BinaryOperation) :
    ∃ text, state.text? = some text ∧
      state.suspend symbol operation =
        { state with
          value? := none
          text? := none
          pending? := some ⟨symbol, operation, first, text⟩ } := by
  obtain ⟨text, hasText⟩ := paired.exists_text hasValue
  refine ⟨text, hasText, ?_⟩
  simp only [suspend, hasValue, hasText, Option.getD_some]

end EvaluationState

namespace Evaluation

/-- The description of a state when any text may stand for nothing at all. -/
def descriptionOr (blank : String) (state : EvaluationState) : String :=
  match state.pending? with
  | none => state.text?.getD blank
  | some pending => pending.describe (state.text?.getD "")

theorem descriptionOr_blankDescription (state : EvaluationState) :
    descriptionOr blankDescription state = (ofState state).description :=
  rfl

/-- The text for nothing is what is shown, whatever it is, just if nothing is there. -/
theorem descriptionOr_eq_blank_iff {state : EvaluationState} (paired : state.IsPaired) :
    (∀ blank, descriptionOr blank state = blank) ↔
      state.value? = none ∧ state.pending? = none := by
  have noTwoBlanks (text : String) : ¬∀ blank : String, text = blank := by
    intro always
    exact absurd ((always "").symm.trans (always " ")) (by decide)
  obtain ⟨value?, text?, pending?, draws⟩ := state
  cases pending? with
  | some pending =>
      simpa [descriptionOr] using noTwoBlanks _
  | none =>
      cases text? with
      | some text =>
          have hasValue : value?.isSome = true := paired.symm
          simpa [descriptionOr, Option.isSome_iff_ne_none.mp hasValue] using noTwoBlanks text
      | none =>
          have noValue : value? = none := Option.isNone_iff_eq_none.mp (by simpa using paired.symm)
          simp [descriptionOr, noValue]

end Evaluation

/-- Nothing at all is described by the text for it. -/
theorem EvaluationState.IsPaired.description_of_not_isOccupied
    {state : EvaluationState} (paired : state.IsPaired)
    (empty : ¬state.phase.isOccupied = true) :
    (Evaluation.ofState state).description = Evaluation.blankDescription := by
  rw [isOccupied_phase, not_or, Option.not_isSome_iff_eq_none,
    Option.not_isSome_iff_eq_none] at empty
  exact (Evaluation.descriptionOr_eq_blank_iff paired).mpr empty Evaluation.blankDescription

namespace Program

open EvaluationState

theorem isOccupied_finalState (program : Program) (context : Context) (draws : Draws) :
    (program.finalState context draws).phase.isOccupied = true ↔
      .leaf ∈ program.kinds context.table := by
  have nothing : ¬(phase { draws := draws }).isOccupied = true :=
    Bool.false_ne_true
  rw [finalState, isOccupied_run, or_iff_right nothing]

/-- Number and text are there together.  After any number of entries there is a running value if and
only if there is a running text.  A unary operation, an operation that is finished and a binary one
that will wait therefore always find the text that they take; none of them takes the empty text for
a missing one.  The text for nothing at all is shown just if there is neither a value nor an
operation that waits, and once there is one of these, there will be one after every later entry. -/
theorem valueAndText_together
    (program : Program) (context : Context) (draws : Draws) (count : Nat) :
    let state := finalState (program.take count) context draws
    (state.value?.isSome = true ↔ state.text?.isSome = true) ∧
      (∀ operand, state.value? = some operand → ∀ symbol operation,
        ∃ text, state.text? = some text ∧
          state.applyUnary symbol operation =
            state.load (operation.compute operand) (operation.describe symbol text)) ∧
      (∀ second pending, state.value? = some second → state.pending? = some pending →
        ∃ text, state.text? = some text ∧
          state.resolve =
            { state with
              value? := some (pending.compute second)
              text? := some (pending.describe text)
              pending? := none }) ∧
      (∀ first, state.resolve.value? = some first → ∀ symbol operation,
        ∃ text, state.resolve.text? = some text ∧
          state.resolve.suspend symbol operation =
            { state.resolve with
              value? := none
              text? := none
              pending? := some ⟨symbol, operation, first, text⟩ }) ∧
      (Evaluation.ofState state).description =
        Evaluation.descriptionOr Evaluation.blankDescription state ∧
      ((∀ blank, Evaluation.descriptionOr blank state = blank) ↔
        state.value? = none ∧ state.pending? = none) ∧
      (state.value?.isSome = true ∨ state.pending?.isSome = true →
        ∀ more,
          let later := finalState (program.take (count + more)) context draws
          later.value?.isSome = true ∨ later.pending?.isSome = true) := by
  intro state
  have paired : state.IsPaired := isPaired_finalState (program.take count) context draws
  refine ⟨?_, ?_, ?_, ?_, ?_, ?_, ?_⟩
  · rw [paired]
  · intro operand hasValue symbol operation
    exact paired.applyUnary_eq hasValue symbol operation
  · intro second pending hasValue waiting
    exact paired.resolve_eq hasValue waiting
  · intro first hasValue symbol operation
    exact paired.resolve.suspend_eq hasValue symbol operation
  · exact (Evaluation.descriptionOr_blankDescription state).symm
  · exact Evaluation.descriptionOr_eq_blank_iff paired
  · intro present more later
    have longer :
        later = run context state ((program.drop count).take more) := by
      show finalState (program.take (count + more)) context draws = _
      rw [List.take_add, finalState_append]
    rw [← isOccupied_phase, longer, isOccupied_run]
    exact Or.inl ((isOccupied_phase state).mpr present)

/-- A second operand, the root of which is taken before the sum is finished. -/
theorem valueAndText_together_secondOperand :
    let context : Context :=
      { table := .standard, bindings := [("M", 9.0)], display := ({} : NumberFormat).display }
    let root : UnaryOperation := { compute := Float.sqrt }
    let program : Program := [.operand 2.0, .symbol "+", .reference "M", .symbol "√", .symbol "×"]
    let state := finalState (program.take 3) context (Draws.ofSeed 0)
    let later := finalState (program.take (3 + 2)) context (Draws.ofSeed 0)
    state.value? = some 9.0 ∧
      (∃ text, state.text? = some text ∧
        state.applyUnary "√" root = state.load (Float.sqrt 9.0) (root.describe "√" text)) ∧
      (later.value?.isSome = true ∨ later.pending?.isSome = true) := by
  intro context root program state later
  have hasValue : state.value? = some 9.0 := rfl
  obtain ⟨_, takesText, _, _, _, _, stays⟩ :=
    valueAndText_together program context (Draws.ofSeed 0) 3
  refine ⟨hasValue, takesText 9.0 hasValue "√" root, stays (Or.inl ?_) 2⟩
  rfl

end Program

end PocketCalc
