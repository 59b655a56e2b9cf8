import PocketCalc.Proofs.Evaluation.Formulas

/-!
# Entries without effect

Beside certain neighbours an entry does nothing, and then it does nothing whatever comes before and
behind the two:

* an `=` in front of another `=` or of a binary symbol, both of which finish what waits themselves;
* an `=`, a binary symbol or a unary symbol behind a binary one, which has left no value for them;
* a leaf or a unary symbol in front of a leaf, which replaces the value.

In each case the two entries lead from any state to the same state as the one, the operation that
waits included, so that no entry behind them can make a difference.
-/

namespace PocketCalc

open EvaluationState

/-- A symbol that a table knows as `equals`. -/
abbrev EqualsSymbol (table : OperationTable) :=
  KnownSymbol table fun _ : Unit => Operation.equals

/-- Two entries and the one that does all they do. -/
inductive Redundant (table : OperationTable) : (long short : Program) → Prop where
  | equalsEquals (first second : EqualsSymbol table) :
      Redundant table [.symbol first.key, .symbol second.key] [.symbol second.key]
  | equalsBinary (equals : EqualsSymbol table) (binary : KnownSymbol table .binary) :
      Redundant table [.symbol equals.key, .symbol binary.key] [.symbol binary.key]
  | binaryEquals (binary : KnownSymbol table .binary) (equals : EqualsSymbol table) :
      Redundant table [.symbol binary.key, .symbol equals.key] [.symbol binary.key]
  | binaryBinary (first second : KnownSymbol table .binary) :
      Redundant table [.symbol first.key, .symbol second.key] [.symbol first.key]
  | binaryUnary (binary : KnownSymbol table .binary) (unary : KnownSymbol table .unary) :
      Redundant table [.symbol binary.key, .symbol unary.key] [.symbol binary.key]
  | leafLeaf (first second : Leaf table) :
      Redundant table [first.instruction, second.instruction] [second.instruction]
  | unaryLeaf (unary : KnownSymbol table .unary) (leaf : Leaf table) :
      Redundant table [.symbol unary.key, leaf.instruction] [leaf.instruction]

namespace EvaluationState

/-! ## States without a value -/

section NoValue

variable {state : EvaluationState} (noValue : state.value? = none)
include noValue

theorem resolve_of_noValue : state.resolve = state := by
  rw [resolve, noValue]

theorem suspend_of_noValue (symbol : String) (operation : BinaryOperation) :
    state.suspend symbol operation = state := by
  rw [suspend, noValue]

theorem applyUnary_of_noValue (symbol : String) (operation : UnaryOperation) :
    state.applyUnary symbol operation = state := by
  rw [applyUnary, noValue]

end NoValue

variable (state : EvaluationState)

/-- A binary operation leaves no value, whether there was one or not. -/
theorem suspend_value? (symbol : String) (operation : BinaryOperation) :
    (state.suspend symbol operation).value? = none := by
  rw [suspend]
  split
  · rfl
  · next noValue =>
      exact noValue

theorem resolve_resolve : state.resolve.resolve = state.resolve := by
  obtain ⟨value?, text?, pending?, draws⟩ := state
  cases value? with
  | none =>
      rfl
  | some second =>
      cases pending? with
      | none =>
          rfl
      | some pending =>
          rfl

theorem load_applyUnary
    (symbol : String) (operation : UnaryOperation) (value : Float) (text : String) :
    (state.applyUnary symbol operation).load value text = state.load value text := by
  rw [applyUnary]
  split
  · rfl
  · rfl

/-! ## Both ways lead to the same state -/

theorem run_redundant
    {context : Context} {long short : Program} (redundant : Redundant context.table long short) :
    run context state long = run context state short := by
  cases redundant with
  | equalsEquals first second =>
      simp only [run_cons, run_nil, step_equals first.known, step_equals second.known,
        resolve_resolve]
  | equalsBinary equals binary =>
      simp only [run_cons, run_nil, step_equals equals.known, step_symbol, perform,
        resolve_resolve]
  | binaryEquals binary equals =>
      have noValue := suspend_value? state.resolve binary.key binary.meaning
      simp only [run_cons, run_nil, step_symbol, step_equals equals.known, perform,
        resolve_of_noValue noValue]
  | binaryBinary first second =>
      have noValue := suspend_value? state.resolve first.key first.meaning
      simp only [run_cons, run_nil, step_symbol, perform, resolve_of_noValue noValue,
        suspend_of_noValue noValue]
  | binaryUnary binary unary =>
      have noValue := suspend_value? state.resolve binary.key binary.meaning
      simp only [run_cons, run_nil, step_symbol, perform, applyUnary_of_noValue noValue]
  | leafLeaf first second =>
      simp only [run_cons, run_nil, Leaf.step_instruction]
      rfl
  | unaryLeaf unary leaf =>
      simp only [run_cons, run_nil, step_symbol, Leaf.step_instruction, perform, load_applyUnary]

end EvaluationState

namespace Program

/-- Entries without effect have none in any context: the program with both entries and the program
with the one are evaluated alike, whatever stands before and behind them. -/
theorem evaluate_redundant
    {context : Context} {long short : Program} (redundant : Redundant context.table long short)
    (before after : Program) (draws : Draws) :
    evaluate (before ++ long ++ after) context draws =
      evaluate (before ++ short ++ after) context draws := by
  have same := run_redundant (run context { draws := draws } before) redundant
  simp only [evaluate, finalState, run_append, same]

/-- Of two binary symbols the first wins, and the values that are drawn before and behind them stay
the same. -/
theorem evaluate_redundant_firstWins :
    let context : Context :=
      { table := .standard, bindings := [], display := ({} : NumberFormat).display }
    let draws : Draws := { value := fun index => if index = 0 then 0.5 else 0.25 }
    let before : Program := [.symbol "Ran"]
    let after : Program := [.symbol "Ran", .symbol "="]
    Redundant context.table [.symbol "×", .symbol "+"] [.symbol "×"] ∧
      evaluate (before ++ [.symbol "×", .symbol "+"] ++ after) context draws =
        { result? := some 0.125, pending := false, description := "rand() × rand()" } := by
  intro context draws before after
  have redundant : Redundant context.table [.symbol "×", .symbol "+"] [.symbol "×"] :=
    .binaryBinary ⟨"×", _, rfl⟩ ⟨"+", _, rfl⟩
  refine ⟨redundant, ?_⟩
  rw [evaluate_redundant redundant before after draws]
  decide +kernel

end Program

end PocketCalc
