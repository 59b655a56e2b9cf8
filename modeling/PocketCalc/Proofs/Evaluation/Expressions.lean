import PocketCalc.Evaluation.Basic

/-!
# Programs spell expressions

A program can be passed over with expression trees in place of numbers and texts:

* an operand, a named value, a constant or a drawn value is a leaf that replaces the current tree;
* a unary operation wraps the current tree, if there is one;
* a binary operation closes the node that waits, if there is a current tree to close it with, and
  makes the current tree the first child of a new waiting node;
* `equals` closes the node that waits, if there is a current tree;
* a symbol that the table does not know does nothing.

Only the table decides which trees arise.  Names, draws and the way numbers are shown come in when
the trees are read, once as numbers and once as texts.  The evaluation carries the two readings
along instead of the trees, so that number and text can never come apart.
-/

namespace PocketCalc

/-- What a program spells.  A drawn value is known by the number of its draw. -/
inductive Expression where
  | operand (value : Float)
  | reference (name : String)
  | constant (symbol : String) (value : Float)
  | drawn (compute : Float → Float) (label : String) (index : Nat)
  | unary (symbol : String) (operation : UnaryOperation) (inner : Expression)
  | binary (symbol : String) (operation : BinaryOperation) (first second : Expression)

namespace Expression

def value (context : Context) (draws : Draws) : Expression → Float
  | .operand value => value
  | .reference name => context.bindings.value name
  | .constant _ value => value
  | .drawn compute _ index => compute (draws.advance index).next
  | .unary _ operation inner => operation.compute (inner.value context draws)
  | .binary _ operation first second =>
      operation.compute (first.value context draws) (second.value context draws)

def text (context : Context) : Expression → String
  | .operand value => context.display value
  | .reference name => name
  | .constant symbol _ => symbol
  | .drawn _ label _ => label
  | .unary symbol operation inner => operation.describe symbol (inner.text context)
  | .binary symbol operation first second =>
      operation.describe symbol (first.text context) (second.text context)

end Expression

/-- A binary node that waits for its second child. -/
structure WaitingNode where
  symbol : String
  operation : BinaryOperation
  first : Expression

namespace WaitingNode

def close (node : WaitingNode) (second : Expression) : Expression :=
  .binary node.symbol node.operation node.first second

def describe (node : WaitingNode) (context : Context) (secondText : String) : String :=
  node.operation.describe node.symbol (node.first.text context) secondText

/-- The operation that waits in the evaluation. -/
def denote (context : Context) (draws : Draws) (node : WaitingNode) : Pending where
  symbol := node.symbol
  operation := node.operation
  first := node.first.value context draws
  firstText := node.first.text context

end WaitingNode

/-- What a pass over a program carries along when it builds trees. -/
structure ExpressionState where
  current? : Option Expression := none
  waiting? : Option WaitingNode := none
  drawn : Nat := 0

namespace ExpressionState

def load (state : ExpressionState) (expression : Expression) : ExpressionState :=
  { state with current? := some expression }

def close (state : ExpressionState) : ExpressionState :=
  match state.current?, state.waiting? with
  | some second, some node =>
      { state with current? := some (node.close second), waiting? := none }
  | _, _ => state

/-- Wrap the current tree, if there is one. -/
def wrap
    (state : ExpressionState) (symbol : String) (operation : UnaryOperation) :
    ExpressionState :=
  match state.current? with
  | some inner => state.load (.unary symbol operation inner)
  | none => state

/-- Make the current tree, if there is one, the first child of a waiting node. -/
def suspend
    (state : ExpressionState) (symbol : String) (operation : BinaryOperation) :
    ExpressionState :=
  match state.current? with
  | some first => { state with current? := none, waiting? := some ⟨symbol, operation, first⟩ }
  | none => state

def perform (state : ExpressionState) (symbol : String) : Operation → ExpressionState
  | .nullary compute label =>
      { state.load (.drawn compute label state.drawn) with drawn := state.drawn + 1 }
  | .constant value => state.load (.constant symbol value)
  | .unary operation => state.wrap symbol operation
  | .binary operation => state.close.suspend symbol operation
  | .equals => state.close

def step (table : OperationTable) (state : ExpressionState) : Instruction → ExpressionState
  | .operand value => state.load (.operand value)
  | .reference name => state.load (.reference name)
  | .symbol symbol =>
      match table.get? symbol with
      | some operation => state.perform symbol operation
      | none => state

def run (table : OperationTable) (state : ExpressionState) (program : Program) :
    ExpressionState :=
  program.foldl (step table) state

/-- The text of the state: of the waiting node if there is one, else of the current tree. -/
def description (context : Context) (state : ExpressionState) : String :=
  match state.waiting?, state.current? with
  | some node, some second => node.describe context (second.text context)
  | some node, none => node.describe context ""
  | none, some current => current.text context
  | none, none => " "

/-- The state of the evaluation that the trees stand for. -/
def denote (context : Context) (draws : Draws) (state : ExpressionState) : EvaluationState where
  value? := state.current?.map (Expression.value context draws)
  text? := state.current?.map (Expression.text context)
  pending? := state.waiting?.map (WaitingNode.denote context draws)
  draws := draws.advance state.drawn

/-! ## The evaluation reads the trees -/

section Simulation

variable (context : Context) (draws : Draws)

theorem denote_close (state : ExpressionState) :
    state.close.denote context draws = (state.denote context draws).resolve := by
  obtain ⟨current?, waiting?, drawn⟩ := state
  cases current? with
  | none =>
      rfl
  | some second =>
      cases waiting? with
      | none =>
          rfl
      | some node =>
          rfl

theorem denote_wrap
    (state : ExpressionState) (symbol : String) (operation : UnaryOperation) :
    (state.wrap symbol operation).denote context draws =
      (state.denote context draws).applyUnary symbol operation := by
  obtain ⟨current?, waiting?, drawn⟩ := state
  cases current? with
  | none =>
      rfl
  | some inner =>
      rfl

theorem denote_suspend
    (state : ExpressionState) (symbol : String) (operation : BinaryOperation) :
    (state.suspend symbol operation).denote context draws =
      (state.denote context draws).suspend symbol operation := by
  obtain ⟨current?, waiting?, drawn⟩ := state
  cases current? with
  | none =>
      rfl
  | some first =>
      rfl

theorem denote_perform (state : ExpressionState) (symbol : String) (operation : Operation) :
    (state.perform symbol operation).denote context draws =
      (state.denote context draws).perform symbol operation := by
  cases operation with
  | nullary compute label =>
      -- The draw of the leaf is the one that the evaluation would make next.
      simp only [perform, EvaluationState.perform, denote, load, EvaluationState.load,
        Option.map_some, Expression.value, Expression.text, Draws.advance_advance]
  | constant value =>
      rfl
  | unary operation =>
      exact denote_wrap context draws state symbol operation
  | binary operation =>
      rw [perform, denote_suspend, denote_close]
      rfl
  | equals =>
      exact denote_close context draws state

theorem denote_step (state : ExpressionState) (instruction : Instruction) :
    (state.step context.table instruction).denote context draws =
      (state.denote context draws).step context instruction := by
  cases instruction with
  | operand value =>
      rfl
  | reference name =>
      rfl
  | symbol symbol =>
      cases known : context.table.get? symbol with
      | none =>
          simp only [step, EvaluationState.step, known]
      | some operation =>
          simp only [step, EvaluationState.step, known]
          exact denote_perform context draws state symbol operation

theorem denote_run (state : ExpressionState) (program : Program) :
    (state.run context.table program).denote context draws =
      (state.denote context draws).run context program := by
  induction program generalizing state with
  | nil =>
      rfl
  | cons instruction program inductionHypothesis =>
      rw [EvaluationState.run_cons, ← denote_step, ← inductionHypothesis]
      rfl

theorem ofState_denote (state : ExpressionState) :
    Evaluation.ofState (state.denote context draws) =
      { result? := state.current?.map (Expression.value context draws)
        pending := state.waiting?.isSome
        description := state.description context } := by
  obtain ⟨current?, waiting?, drawn⟩ := state
  cases waiting? with
  | none =>
      cases current? with
      | none =>
          rfl
      | some current =>
          rfl
  | some node =>
      cases current? with
      | none =>
          rfl
      | some second =>
          rfl

end Simulation

end ExpressionState

/-- Number and text are there together. -/
def EvaluationState.IsPaired (state : EvaluationState) : Prop :=
  state.text?.isSome = state.value?.isSome

/-- Both are read off the current tree, if there is one. -/
theorem ExpressionState.isPaired_denote
    (state : ExpressionState) (context : Context) (draws : Draws) :
    (state.denote context draws).IsPaired := by
  simp [EvaluationState.IsPaired, denote]

namespace Program

/-- The trees at the end of a program that starts from nothing. -/
def expressions (program : Program) (table : OperationTable) : ExpressionState :=
  ExpressionState.run table {} program

theorem finalState_eq_denote (program : Program) (context : Context) (draws : Draws) :
    program.finalState context draws =
      (program.expressions context.table).denote context draws :=
  (ExpressionState.denote_run context draws {} program).symm

theorem isPaired_finalState (program : Program) (context : Context) (draws : Draws) :
    (program.finalState context draws).IsPaired := by
  rw [finalState_eq_denote]
  exact ExpressionState.isPaired_denote _ context draws

/-- Number and text describe the same expression.  The result is the number of the tree that the
program ends with, an operation is pending if a node still waits, and the description is the text
of the tree, or of the waiting node with the tree in the place of its second child. -/
theorem evaluate_eq_reading (program : Program) (context : Context) (draws : Draws) :
    program.evaluate context draws =
      { result? :=
          (program.expressions context.table).current?.map (Expression.value context draws)
        pending := (program.expressions context.table).waiting?.isSome
        description := (program.expressions context.table).description context } := by
  rw [evaluate, finalState_eq_denote, ExpressionState.ofState_denote]

end Program

end PocketCalc
