import PocketCalc.Evaluation.Basic
import PocketCalc.NumberFormat.ShownNumber
import PocketCalc.Operation.Standard

/-!
# Formulas, written from left to right

There is no precedence and there are no brackets.  A formula over the symbols of a table is

* a term: an operand, a name or a constant, with any number of unary symbols behind it, which apply
  to this term alone;
* a formula, a binary symbol and a term: the whole formula before the symbol is the first operand;
* a formula, `=` and a unary symbol, which applies to the whole formula before the `=`.

A formula has a value and a text by recursion on its parts.  The evaluation has no parts to recurse
on: it reads the entries once, in the order in which they are written, and puts off one binary
operation at a time.  It arrives at the same value and text.  The invariant is that the state after
a formula, once the operation that waits is finished, holds the value and the text of the whole.
-/

namespace PocketCalc

open EvaluationState

/-- A symbol that a table knows as an operation of one kind. -/
structure KnownSymbol (table : OperationTable) {Meaning : Type} (kind : Meaning → Operation) where
  key : String
  meaning : Meaning
  known : table.get? key = some (kind meaning)

inductive Leaf (table : OperationTable) where
  | operand (value : Float)
  | reference (name : String)
  | constant (symbol : KnownSymbol table .constant)

inductive Term (table : OperationTable) where
  | ofLeaf (leaf : Leaf table)
  | unary (inner : Term table) (symbol : KnownSymbol table .unary)

/-- A formula; `closed` is the one whose last unary symbol stands behind an `=`. -/
inductive Formula (table : OperationTable) where
  | ofTerm (term : Term table)
  | binary (first : Formula table) (symbol : KnownSymbol table .binary) (second : Term table)
  | closed (inner : Formula table) (symbol : KnownSymbol table .unary)

variable {table : OperationTable}

theorem step_symbol
    {context : Context} {Meaning : Type} {kind : Meaning → Operation}
    (symbol : KnownSymbol context.table kind) (state : EvaluationState) :
    step context state (.symbol symbol.key) = state.perform symbol.key (kind symbol.meaning) :=
  step_known symbol.known state

/-! ## Terms -/

namespace Leaf

def instruction : Leaf table → Instruction
  | .operand value => .operand value
  | .reference name => .reference name
  | .constant symbol => .symbol symbol.key

def value (context : Context) : Leaf table → Float
  | .operand value => value
  | .reference name => context.bindings.value name
  | .constant symbol => symbol.meaning

def text (context : Context) : Leaf table → String
  | .operand value => context.display value
  | .reference name => name
  | .constant symbol => symbol.key

theorem step_instruction
    (context : Context) (leaf : Leaf context.table) (state : EvaluationState) :
    step context state leaf.instruction = state.load (leaf.value context) (leaf.text context) := by
  cases leaf with
  | operand value =>
      rfl
  | reference name =>
      rfl
  | constant symbol =>
      exact step_symbol symbol state

end Leaf

namespace Term

def program : Term table → Program
  | .ofLeaf leaf => [leaf.instruction]
  | .unary inner symbol => inner.program ++ [.symbol symbol.key]

def value (context : Context) : Term table → Float
  | .ofLeaf leaf => leaf.value context
  | .unary inner symbol => symbol.meaning.compute (inner.value context)

def text (context : Context) : Term table → String
  | .ofLeaf leaf => leaf.text context
  | .unary inner symbol => symbol.meaning.describe symbol.key (inner.text context)

/-- A term replaces the running value and text, whatever waits. -/
theorem run_program
    (context : Context) (term : Term context.table) (state : EvaluationState) :
    run context state term.program = state.load (term.value context) (term.text context) := by
  induction term with
  | ofLeaf leaf =>
      rw [program, run_cons, run_nil]
      exact leaf.step_instruction context state
  | unary inner symbol inductionHypothesis =>
      rw [program, run_append, inductionHypothesis, run_cons, run_nil, step_symbol]
      rfl

end Term

/-! ## Formulas -/

namespace Formula

/-- The entries of a formula, in the order in which it is written. -/
def program : Formula table → Program
  | .ofTerm term => term.program
  | .binary first symbol second => first.program ++ .symbol symbol.key :: second.program
  | .closed inner symbol => inner.program ++ [.symbol "=", .symbol symbol.key]

def value (context : Context) : Formula table → Float
  | .ofTerm term => term.value context
  | .binary first symbol second =>
      symbol.meaning.compute (first.value context) (second.value context)
  | .closed inner symbol => symbol.meaning.compute (inner.value context)

def text (context : Context) : Formula table → String
  | .ofTerm term => term.text context
  | .binary first symbol second =>
      symbol.meaning.describe symbol.key (first.text context) (second.text context)
  | .closed inner symbol => symbol.meaning.describe symbol.key (inner.text context)

/-- A number with its text, and nothing that waits. -/
def whole (value : Float) (text : String) (draws : Draws) : EvaluationState where
  value? := some value
  text? := some text
  draws := draws

/-- The state behind a formula: its last binary operation still waits. -/
def state (context : Context) (draws : Draws) : Formula table → EvaluationState
  | .binary first symbol second =>
      { whole (second.value context) (second.text context) draws with
        pending? := some
          { symbol := symbol.key
            operation := symbol.meaning
            first := first.value context
            firstText := first.text context } }
  | formula => whole (formula.value context) (formula.text context) draws

/-- Finishing what waits makes one number of the formula. -/
theorem resolve_state (context : Context) (draws : Draws) (formula : Formula table) :
    (formula.state context draws).resolve =
      whole (formula.value context) (formula.text context) draws := by
  cases formula with
  | ofTerm term =>
      rfl
  | binary first symbol second =>
      rfl
  | closed inner symbol =>
      rfl

section Run

variable {context : Context} (closes : context.table.get? "=" = some .equals)
include closes

theorem run_program (formula : Formula context.table) (draws : Draws) :
    run context { draws := draws } formula.program = formula.state context draws := by
  induction formula with
  | ofTerm term =>
      exact term.run_program context { draws := draws }
  | binary first symbol second inductionHypothesis =>
      -- The symbol finishes what waits in the first formula and then waits itself.
      have suspended :
          step context (first.state context draws) (.symbol symbol.key) =
            (whole (first.value context) (first.text context) draws).suspend symbol.key
              symbol.meaning := by
        rw [step_symbol, perform, resolve_state]
      rw [program, run_append, inductionHypothesis, run_cons, suspended, second.run_program]
      rfl
  | closed inner symbol inductionHypothesis =>
      rw [program, run_append, inductionHypothesis, run_cons, step_equals closes, resolve_state,
        run_cons, run_nil, step_symbol]
      rfl

/-- A formula is evaluated to its meaning.  With `=` behind it, it gives its value and its text and
nothing is pending.  Without, its text is the same; if it ends in a binary symbol and a term, that
operation is pending and the result is that of the term, and otherwise the result is its value. -/
theorem evaluate_eq_meaning (formula : Formula context.table) (draws : Draws) :
    Program.evaluate (formula.program ++ [.symbol "="]) context draws =
        { result? := some (formula.value context)
          pending := false
          description := formula.text context } ∧
      (formula.program.evaluate context draws).description = formula.text context ∧
      ((formula.program.evaluate context draws).pending = true ↔
        ∃ first symbol second, formula = .binary first symbol second) ∧
      (∀ first symbol second, formula = .binary first symbol second →
        (formula.program.evaluate context draws).result? = some (second.value context)) ∧
      ((∀ first symbol second, formula ≠ .binary first symbol second) →
        (formula.program.evaluate context draws).result? = some (formula.value context)) := by
  have ends : formula.program.finalState context draws = formula.state context draws :=
    run_program closes formula draws
  have closedEnds :
      Program.finalState (formula.program ++ [.symbol "="]) context draws =
        whole (formula.value context) (formula.text context) draws := by
    rw [Program.finalState, run_append, run_program closes, run_cons, run_nil, step_equals closes,
      resolve_state]
  rw [Program.evaluate, Program.evaluate, ends, closedEnds]
  refine ⟨rfl, ?_⟩
  cases formula with
  | ofTerm term =>
      refine ⟨rfl, ?_, ?_, fun _ => rfl⟩
      · simp [Evaluation.ofState, state, whole]
      · intro first symbol second same
        exact absurd same (by simp)
  | binary first symbol second =>
      refine ⟨rfl, ?_, ?_, ?_⟩
      · simp [Evaluation.ofState, state]
      · rintro _ _ _ ⟨rfl, rfl, rfl⟩
        rfl
      · intro other
        exact absurd rfl (other first symbol second)
  | closed inner symbol =>
      refine ⟨rfl, ?_, ?_, fun _ => rfl⟩
      · simp [Evaluation.ofState, state, whole]
      · intro first other second same
        exact absurd same (by simp)

end Run

/-- A unary symbol behind `=` applies to the whole sum, one behind the last term to that alone. -/
theorem evaluate_eq_meaning_squareOfSum :
    let context : Context :=
      { table := .standard, bindings := [("M", 8.0)], display := ({} : NumberFormat).display }
    let sum : Formula OperationTable.standard :=
      .binary (.ofTerm (.ofLeaf (.operand 1.0))) ⟨"+", _, rfl⟩ (.ofLeaf (.reference "M"))
    let formula : Formula OperationTable.standard :=
      .binary (.closed sum ⟨"x²", _, rfl⟩) ⟨"×", _, rfl⟩
        (.unary (.ofLeaf (.operand 2.0)) ⟨"±", _, rfl⟩)
    context.table.get? "=" = some .equals ∧
      Program.evaluate (formula.program ++ [.symbol "="]) context (Draws.ofSeed 0) =
        { result? := some (-162.0), pending := false, description := "(1 + M)² × ±(2)" } ∧
      (formula.program.evaluate context (Draws.ofSeed 0)).result? = some (-2.0) := by
  intro context sum formula
  have closes : context.table.get? "=" = some .equals := rfl
  obtain ⟨closed, _, _, last, _⟩ := evaluate_eq_meaning closes formula (Draws.ofSeed 0)
  have value : formula.value context = -162.0 := by
    decide +kernel
  have text : formula.text context = "(1 + M)² × ±(2)" := by
    decide +kernel
  rw [value, text] at closed
  exact ⟨closes, closed, last _ _ _ rfl⟩

end Formula

end PocketCalc
