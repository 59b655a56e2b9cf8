import PocketCalc.Evaluation.Basic

/-!
# Kinds of entries

Values and texts have no part in whether an evaluation has a result and whether an operation is
pending.  Both are decided by the kinds of the entries and their order:

* there is no result if there is no leaf at all, or a binary operation behind the last leaf has
  taken the value and nothing has come since;
* an operation is pending if some binary operation has a leaf in front of it, and behind it no
  `equals` comes after another leaf.

The pass is cut down to two flags first, and the closed forms are proved for a pass that starts with
any two flags: a value that is already there stands for a leaf in front of the program, and an
operation that already waits for a binary operation with a leaf in front of it.
-/

namespace PocketCalc

/-- What an entry does, apart from values and texts.  A leaf brings a value of its own. -/
inductive Kind where
  | leaf
  | unary
  | binary
  | equals
  | unknown
  deriving DecidableEq, Repr

def Operation.kind : Operation → Kind
  | .nullary _ _ => .leaf
  | .constant _ => .leaf
  | .unary _ => .unary
  | .binary _ => .binary
  | .equals => .equals

def Instruction.kind (table : OperationTable) : Instruction → Kind
  | .operand _ => .leaf
  | .reference _ => .leaf
  | .symbol key =>
      match table.get? key with
      | some operation => operation.kind
      | none => .unknown

def Program.kinds (table : OperationTable) (program : Program) : List Kind :=
  program.map (Instruction.kind table)

/-- What is there at a point of the pass: a running value, an operation that waits. -/
structure Phase where
  hasValue : Bool
  waits : Bool
  deriving DecidableEq, Repr

namespace Phase

def step (phase : Phase) : Kind → Phase
  | .leaf => { phase with hasValue := true }
  | .binary => { hasValue := false, waits := phase.hasValue || phase.waits }
  | .equals => { phase with waits := phase.waits && !phase.hasValue }
  | .unary => phase
  | .unknown => phase

def run (phase : Phase) (kinds : List Kind) : Phase :=
  kinds.foldl step phase

end Phase

/-! ## The pass on kinds -/

namespace EvaluationState

def phase (state : EvaluationState) : Phase where
  hasValue := state.value?.isSome
  waits := state.pending?.isSome

theorem phase_resolve (state : EvaluationState) :
    state.resolve.phase = state.phase.step .equals := by
  obtain ⟨value?, text?, pending?, draws⟩ := state
  cases value? with
  | none =>
      cases pending? with
      | none =>
          rfl
      | some pending =>
          rfl
  | some second =>
      cases pending? with
      | none =>
          rfl
      | some pending =>
          rfl

theorem phase_suspend (state : EvaluationState) (symbol : String) (operation : BinaryOperation) :
    (state.suspend symbol operation).phase = state.phase.step .binary := by
  obtain ⟨value?, text?, pending?, draws⟩ := state
  cases value? with
  | none =>
      rfl
  | some first =>
      rfl

theorem phase_applyUnary (state : EvaluationState) (symbol : String) (operation : UnaryOperation) :
    (state.applyUnary symbol operation).phase = state.phase := by
  obtain ⟨value?, text?, pending?, draws⟩ := state
  cases value? with
  | none =>
      rfl
  | some operand =>
      rfl

theorem phase_perform (state : EvaluationState) (symbol : String) (operation : Operation) :
    (state.perform symbol operation).phase = state.phase.step operation.kind := by
  cases operation with
  | nullary compute label =>
      rfl
  | constant value =>
      rfl
  | unary operation =>
      exact phase_applyUnary state symbol operation
  | binary operation =>
      -- That the operation which waited is finished first does not show in the flags.
      have finished (phase : Phase) : (phase.step .equals).step .binary = phase.step .binary := by
        obtain ⟨hasValue, waits⟩ := phase
        cases hasValue with
        | false =>
            simp [Phase.step]
        | true =>
            simp [Phase.step]
      rw [perform, phase_suspend, phase_resolve, finished]
      rfl
  | equals =>
      exact phase_resolve state

theorem phase_step (context : Context) (state : EvaluationState) (instruction : Instruction) :
    (step context state instruction).phase =
      state.phase.step (instruction.kind context.table) := by
  cases instruction with
  | operand value =>
      rfl
  | reference name =>
      rfl
  | symbol symbol =>
      cases known : context.table.get? symbol with
      | none =>
          simp only [step, Instruction.kind, known]
          rfl
      | some operation =>
          simp only [step, Instruction.kind, known]
          exact phase_perform state symbol operation

theorem phase_run (context : Context) (state : EvaluationState) (program : Program) :
    (run context state program).phase = state.phase.run (program.kinds context.table) := by
  induction program generalizing state with
  | nil =>
      rfl
  | cons instruction program inductionHypothesis =>
      rw [run_cons, inductionHypothesis, phase_step]
      rfl

end EvaluationState

/-! ## Where the kinds stand -/

/-- A place in a list is at its head or further on. -/
theorem exists_split_cons
    {α : Type} {first pivot : α} {rest : List α} {holds : List α → List α → Prop} :
    (∃ before after, first :: rest = before ++ pivot :: after ∧ holds before after) ↔
      first = pivot ∧ holds [] rest ∨
        ∃ before after, rest = before ++ pivot :: after ∧ holds (first :: before) after := by
  constructor
  · rintro ⟨before, after, split, holding⟩
    cases before with
    | nil =>
        obtain ⟨rfl, rfl⟩ := List.cons_eq_cons.mp split
        exact Or.inl ⟨rfl, holding⟩
    | cons head before =>
        obtain ⟨rfl, tail⟩ := List.cons_eq_cons.mp split
        exact Or.inr ⟨before, after, tail, holding⟩
  · rintro (⟨rfl, holding⟩ | ⟨before, after, split, holding⟩)
    · exact ⟨[], rest, rfl, holding⟩
    · exact ⟨first :: before, after, congrArg (first :: ·) split, holding⟩

namespace Phase

/-- Behind the last leaf stands a binary operation. -/
def LosesValue (kinds : List Kind) : Prop :=
  ∃ before after, kinds = before ++ .leaf :: after ∧ .leaf ∉ after ∧ .binary ∈ after

/-- An `equals` finds a value: one that is there from the start or that of a leaf before it. -/
def Finishes (hasValue : Prop) (kinds : List Kind) : Prop :=
  ∃ between later, kinds = between ++ .equals :: later ∧ (hasValue ∨ .leaf ∈ between)

/-- A binary operation finds a value, or one that waits already, and no `equals` finds another value
behind it. -/
def Suspends (early : Prop) (kinds : List Kind) : Prop :=
  ∃ before after, kinds = before ++ .binary :: after ∧
    (early ∨ .leaf ∈ before) ∧ ¬Finishes False after

variable (hasValue early : Prop) (kind : Kind) (kinds : List Kind)

theorem losesValue_cons :
    LosesValue (kind :: kinds) ↔
      kind = .leaf ∧ .leaf ∉ kinds ∧ .binary ∈ kinds ∨ LosesValue kinds :=
  exists_split_cons

theorem finishes_cons :
    Finishes hasValue (kind :: kinds) ↔
      kind = .equals ∧ hasValue ∨ Finishes (hasValue ∨ .leaf = kind) kinds := by
  unfold Finishes
  rw [exists_split_cons]
  simp only [List.not_mem_nil, or_false, List.mem_cons, or_assoc]

theorem suspends_cons :
    Suspends early (kind :: kinds) ↔
      kind = .binary ∧ early ∧ ¬Finishes False kinds ∨
        Suspends (early ∨ .leaf = kind) kinds := by
  unfold Suspends
  rw [exists_split_cons]
  simp only [List.not_mem_nil, or_false, List.mem_cons, or_assoc]

/-- What finishes an operation without a value at the start does so with one. -/
theorem Finishes.mono {kinds : List Kind} (finishes : Finishes False kinds) :
    Finishes hasValue kinds := by
  obtain ⟨between, later, split, found⟩ := finishes
  exact ⟨between, later, split, Or.inr (found.resolve_left id)⟩

theorem run_hasValue (phase : Phase) (kinds : List Kind) :
    (phase.run kinds).hasValue = false ↔
      .leaf ∉ kinds ∧ (phase.hasValue = true → .binary ∈ kinds) ∨ LosesValue kinds := by
  induction kinds generalizing phase with
  | nil =>
      simp [run, LosesValue]
  | cons kind kinds inductionHypothesis =>
      rw [run, List.foldl_cons, ← run, inductionHypothesis, losesValue_cons]
      cases kind with
      | leaf =>
          simp [step]
      | unary =>
          simp [step]
      | binary =>
          simp [step]
      | equals =>
          simp [step]
      | unknown =>
          simp [step]

theorem run_waits (phase : Phase) (kinds : List Kind) :
    (phase.run kinds).waits = true ↔
      phase.waits = true ∧ ¬Finishes (phase.hasValue = true) kinds ∨
        Suspends (phase.hasValue = true ∨ phase.waits = true) kinds := by
  induction kinds generalizing phase with
  | nil =>
      simp [run, Finishes, Suspends]
  | cons kind kinds inductionHypothesis =>
      obtain ⟨hasValue, waits⟩ := phase
      rw [run, List.foldl_cons, ← run, inductionHypothesis, finishes_cons, suspends_cons]
      cases kind with
      | leaf =>
          simp [step]
      | unary =>
          simp [step]
      | binary =>
          -- If an operation waits already, it is this one that counts from now on.
          have replaced :
              waits = true ∧ ¬Finishes (hasValue = true) kinds →
                (hasValue = true ∨ waits = true) ∧ ¬Finishes False kinds :=
            fun ⟨waiting, unfinished⟩ => ⟨Or.inr waiting, mt (Finishes.mono _) unfinished⟩
          simp [step, ← or_assoc, or_iff_right_of_imp replaced]
      | equals =>
          cases hasValue with
          | false =>
              simp [step]
          | true =>
              simp [step]
      | unknown =>
          simp [step]

/-- An `equals` in front of the second operand comes too early: the operation is still pending. -/
example : Phase.run ⟨false, false⟩ [.leaf, .binary, .equals, .leaf] = ⟨true, true⟩ := by
  decide

end Phase

namespace Program

/-- The kinds of the entries decide what an evaluation ends with.  There is no result if and only if
there is no leaf or a binary operation stands behind the last one.  An operation is pending if and
only if some binary operation has a leaf in front of it and no `equals` behind it with another leaf
in between. -/
theorem evaluate_decided_by_kinds (program : Program) (context : Context) (draws : Draws) :
    let kinds := program.kinds context.table
    ((program.evaluate context draws).result? = none ↔
      .leaf ∉ kinds ∨
        ∃ before after, kinds = before ++ .leaf :: after ∧ .leaf ∉ after ∧ .binary ∈ after) ∧
    ((program.evaluate context draws).pending = true ↔
      ∃ before after, kinds = before ++ .binary :: after ∧ .leaf ∈ before ∧
        ¬∃ between later, after = between ++ .equals :: later ∧ .leaf ∈ between) := by
  intro kinds
  have final :
      (program.finalState context draws).phase = Phase.run ⟨false, false⟩ kinds :=
    EvaluationState.phase_run context { draws := draws } program
  have result : (program.evaluate context draws).result?.isSome = (Phase.run _ kinds).hasValue :=
    congrArg Phase.hasValue final
  have pending : (program.evaluate context draws).pending = (Phase.run _ kinds).waits :=
    congrArg Phase.waits final
  constructor
  · rw [← Option.isNone_iff_eq_none, ← Option.isSome_eq_false_iff, result, Phase.run_hasValue]
    simp [Phase.LosesValue]
  · rw [pending, Phase.run_waits]
    simp [Phase.Suspends, Phase.Finishes]

end Program

end PocketCalc
