import PocketCalc.Draws
import PocketCalc.Operation.Table
import PocketCalc.Program

/-!
# Evaluating a program

One pass over the program, from left to right, carries a running value and a running text side by
side, and at most one binary operation that waits for its second operand:

* an operand, a named value, a constant or a drawn value replaces both;
* a unary operation transforms both, if there is a value;
* a binary operation first finishes the one that waits, then takes value and text as its own first
  operand and leaves none;
* `equals` finishes the operation that waits, if there is a value to finish it with;
* a symbol that the table does not know does nothing.

An operation that still waits at the end of the program is reported as pending, not finished.
-/

namespace PocketCalc

/-- Names and the values they stand for. -/
abbrev Bindings :=
  List (String × Float)

/-- The value of a name; names without one stand for zero. -/
def Bindings.value (bindings : Bindings) (name : String) : Float :=
  (bindings.lookup name).getD 0.0

/-- What a pass over a program depends on besides the program. -/
structure Context where
  table : OperationTable
  bindings : Bindings
  display : Float → String

/-- A binary operation that waits for its second operand. -/
structure Pending where
  symbol : String
  operation : BinaryOperation
  first : Float
  firstText : String

namespace Pending

def compute (pending : Pending) (second : Float) : Float :=
  pending.operation.compute pending.first second

def describe (pending : Pending) (secondText : String) : String :=
  pending.operation.describe pending.symbol pending.firstText secondText

end Pending

/-- What the pass carries along. -/
structure EvaluationState where
  value? : Option Float := none
  text? : Option String := none
  pending? : Option Pending := none
  draws : Draws

namespace EvaluationState

/-- Put a new value and its text in place of the running ones. -/
def load (state : EvaluationState) (value : Float) (text : String) : EvaluationState :=
  { state with value? := some value, text? := some text }

/-- Finish the operation that waits, if there is one and a second operand for it. -/
def resolve (state : EvaluationState) : EvaluationState :=
  match state.value?, state.pending? with
  | some second, some pending =>
      { state with
        value? := some (pending.compute second)
        text? := some (pending.describe (state.text?.getD ""))
        pending? := none }
  | _, _ => state

/-- Apply a unary operation to the running value, if there is one. -/
def applyUnary
    (state : EvaluationState) (symbol : String) (operation : UnaryOperation) :
    EvaluationState :=
  match state.value? with
  | some operand =>
      state.load (operation.compute operand)
        (operation.describe symbol (state.text?.getD ""))
  | none => state

/-- Make the running value the first operand of a binary operation, if there is one. -/
def suspend
    (state : EvaluationState) (symbol : String) (operation : BinaryOperation) :
    EvaluationState :=
  match state.value? with
  | some first =>
      { state with
        value? := none
        text? := none
        pending? := some
          { symbol := symbol
            operation := operation
            first := first
            firstText := state.text?.getD "" } }
  | none => state

def perform (state : EvaluationState) (symbol : String) : Operation → EvaluationState
  | .nullary compute label =>
      { state.load (compute state.draws.next) label with draws := state.draws.advance 1 }
  | .constant value => state.load value symbol
  | .unary operation => state.applyUnary symbol operation
  | .binary operation => state.resolve.suspend symbol operation
  | .equals => state.resolve

def step (context : Context) (state : EvaluationState) : Instruction → EvaluationState
  | .operand value => state.load value (context.display value)
  | .reference name => state.load (context.bindings.value name) name
  | .symbol symbol =>
      match context.table.get? symbol with
      | some operation => state.perform symbol operation
      | none => state

def run (context : Context) (state : EvaluationState) (program : Program) : EvaluationState :=
  program.foldl (step context) state

@[simp]
theorem run_nil (context : Context) (state : EvaluationState) :
    run context state [] = state :=
  rfl

@[simp]
theorem run_cons
    (context : Context) (state : EvaluationState)
    (instruction : Instruction) (program : Program) :
    run context state (instruction :: program) =
      run context (step context state instruction) program :=
  rfl

@[simp]
theorem run_append
    (context : Context) (state : EvaluationState) (first second : Program) :
    run context state (first ++ second) =
      run context (run context state first) second :=
  List.foldl_append

section Symbol

variable {context : Context} {symbol : String}

theorem step_known
    {operation : Operation} (known : context.table.get? symbol = some operation)
    (state : EvaluationState) :
    step context state (.symbol symbol) = state.perform symbol operation := by
  rw [step, known]

theorem step_unknown
    (unknown : context.table.get? symbol = none) (state : EvaluationState) :
    step context state (.symbol symbol) = state := by
  rw [step, unknown]

theorem step_equals
    (closes : context.table.get? symbol = some .equals) (state : EvaluationState) :
    step context state (.symbol symbol) = state.resolve :=
  step_known closes state

end Symbol

end EvaluationState

/-! ## The outcome -/

structure Evaluation where
  result? : Option Float
  pending : Bool
  description : String
  deriving DecidableEq, Repr

namespace Evaluation

/-- The description that stands for nothing at all. -/
def blankDescription : String :=
  " "

def isBlank (evaluation : Evaluation) : Bool :=
  evaluation.description == blankDescription

/-- What a state reports when the program ends in it. -/
def ofState (state : EvaluationState) : Evaluation where
  result? := state.value?
  pending := state.pending?.isSome
  description :=
    match state.pending? with
    | none => state.text?.getD blankDescription
    | some pending => pending.describe (state.text?.getD "")

end Evaluation

namespace Program

/-- The state at the end of a program that starts from nothing. -/
def finalState (program : Program) (context : Context) (draws : Draws) : EvaluationState :=
  EvaluationState.run context { draws := draws } program

def evaluate (program : Program) (context : Context) (draws : Draws) : Evaluation :=
  Evaluation.ofState (program.finalState context draws)

/-- An empty program has no result and nothing that is pending. -/
@[simp]
theorem evaluate_nil (context : Context) (draws : Draws) :
    evaluate [] context draws = { result? := none, pending := false, description := " " } :=
  rfl

theorem finalState_append
    (program continuation : Program) (context : Context) (draws : Draws) :
    finalState (program ++ continuation) context draws =
      EvaluationState.run context (program.finalState context draws) continuation :=
  EvaluationState.run_append context { draws := draws } program continuation

end Program

end PocketCalc
