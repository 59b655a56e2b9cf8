import PocketCalc.Proofs.Evaluation.Presence
import PocketCalc.Proofs.NumberFormat.Reading
import PocketCalc.Proofs.Operation.Lookup

/-!
# The blank description means that nothing was entered

A description is telling when it is neither blank nor empty.  The text of every leaf is telling:
numbers are never shown blank, and constants and drawn values have symbols or labels of their own.
Whatever an operation makes of its operands is telling too, even of empty ones, because it adds at
least two characters.  A pass therefore keeps this property of its running text and of the operation
that waits, and the blank description is left for the programs without any leaf.
-/

namespace PocketCalc

namespace Evaluation

/-- The text is neither blank nor empty. -/
def IsTelling (text : String) : Prop :=
  text ≠ blankDescription ∧ text ≠ ""

theorem isTelling_of_length {text : String} (long : 1 < text.length) : IsTelling text := by
  constructor
  · rintro rfl
    exact absurd long (by decide)
  · rintro rfl
    exact absurd long (by decide)

theorem isTelling_of_visible
    {text : String} (visible : Text.isBlankText text.toList = false) : IsTelling text := by
  constructor
  · rintro rfl
    exact absurd visible (by decide)
  · rintro rfl
    exact absurd visible (by decide)

theorem isTelling_around
    {before after : String} (operand : String) (long : 1 < before.length + after.length) :
    IsTelling (before ++ operand ++ after) := by
  apply isTelling_of_length
  rw [String.length_append, String.length_append]
  omega

theorem isTelling_writtenBinary (symbol first second : String) :
    IsTelling (writtenBinary symbol first second) :=
  isTelling_of_length (one_lt_length_writtenBinary symbol first second)

end Evaluation

/-! ## What a table writes -/

namespace Operation

open Evaluation

/-- What the operation writes is telling, whatever its operands are. -/
def IsTelling (symbol : String) : Operation → Prop
  | .nullary _ label => Evaluation.IsTelling label
  | .constant _ => Evaluation.IsTelling symbol
  | .unary operation => ∀ operand, Evaluation.IsTelling (operation.describe symbol operand)
  | .binary operation =>
      ∀ first second, Evaluation.IsTelling (operation.describe symbol first second)
  | .equals => True

theorem isTelling_usualUnary (symbol : String) (compute : Float → Float) :
    (usualUnary compute).IsTelling symbol := by
  intro operand
  refine isTelling_around operand ?_
  have opening : "(".length = 1 := rfl
  have closing : ")".length = 1 := rfl
  rw [String.length_append]
  omega

end Operation

namespace OperationTable

open Operation

/-- Whatever the table writes is telling. -/
def IsTelling (table : OperationTable) : Prop :=
  ∀ symbol operation, table.get? symbol = some operation → operation.IsTelling symbol

theorem isTelling_standard : standard.IsTelling := by
  intro symbol operation known
  have entries : ∀ entry ∈ standardEntries, entry.2.IsTelling entry.1 := by
    simp only [standardEntries, List.forall_mem_cons]
    have drawn : random.IsTelling "Ran" :=
      Evaluation.isTelling_of_length (by decide)
    have pi : (constant 3.141592653589793).IsTelling "π" :=
      Evaluation.isTelling_of_visible (by decide)
    have e : (constant 2.718281828459045).IsTelling "e" :=
      Evaluation.isTelling_of_visible (by decide)
    have reciprocal (operand : String) : Evaluation.IsTelling ("(" ++ operand ++ ")⁻¹") :=
      Evaluation.isTelling_around operand (by decide)
    have square (operand : String) : Evaluation.IsTelling ("(" ++ operand ++ ")²") :=
      Evaluation.isTelling_around operand (by decide)
    have written := Evaluation.isTelling_writtenBinary
    exact ⟨drawn, pi, e, isTelling_usualUnary _ _, isTelling_usualUnary _ _,
      isTelling_usualUnary _ _, isTelling_usualUnary _ _, isTelling_usualUnary _ _,
      isTelling_usualUnary _ _, isTelling_usualUnary _ _, isTelling_usualUnary _ _,
      isTelling_usualUnary _ _, reciprocal, square, written "×", written "÷", written "+",
      written "−", written "xʸ", trivial, fun _ member => absurd member List.not_mem_nil⟩
  exact entries (symbol, operation) (mem_entries_of_get? known)

end OperationTable

theorem Config.isTelling_table (config : Config) : config.table.IsTelling := by
  intro symbol operation known
  rw [get?_table] at known
  split at known
  · exact absurd known.symm (Option.some_ne_none _)
  · exact OperationTable.isTelling_standard symbol operation known

/-! ## What a pass carries along -/

namespace EvaluationState

/-- The running text is telling, and so is the operation that waits with any second text. -/
structure IsTelling (state : EvaluationState) : Prop where
  text : ∀ text, state.text? = some text → Evaluation.IsTelling text
  pending : ∀ pending, state.pending? = some pending →
    ∀ second, Evaluation.IsTelling (pending.describe second)

namespace IsTelling

variable {state : EvaluationState}

theorem load
    (telling : state.IsTelling) (value : Float) {text : String}
    (written : Evaluation.IsTelling text) :
    (state.load value text).IsTelling where
  text := by
    rintro _ ⟨rfl⟩
    exact written
  pending := telling.pending

theorem resolve (telling : state.IsTelling) : state.resolve.IsTelling := by
  rw [EvaluationState.resolve]
  split
  · next second pending hasValue waiting =>
      constructor
      · rintro _ ⟨rfl⟩
        exact telling.pending pending waiting _
      · intro pending waiting
        exact absurd waiting (Option.some_ne_none pending).symm
  · exact telling

theorem applyUnary
    (telling : state.IsTelling) {symbol : String} {operation : UnaryOperation}
    (written : (Operation.unary operation).IsTelling symbol) :
    (state.applyUnary symbol operation).IsTelling := by
  rw [EvaluationState.applyUnary]
  split
  · exact telling.load _ (written _)
  · exact telling

theorem suspend
    (telling : state.IsTelling) {symbol : String} {operation : BinaryOperation}
    (written : (Operation.binary operation).IsTelling symbol) :
    (state.suspend symbol operation).IsTelling := by
  rw [EvaluationState.suspend]
  split
  · constructor
    · intro text running
      exact absurd running (Option.some_ne_none text).symm
    · rintro _ ⟨rfl⟩ second
      exact written _ second
  · exact telling

theorem perform
    (telling : state.IsTelling) {symbol : String} {operation : Operation}
    (written : operation.IsTelling symbol) :
    (state.perform symbol operation).IsTelling := by
  cases operation with
  | nullary compute label =>
      have loaded := telling.load (compute state.draws.next) written
      exact ⟨loaded.text, loaded.pending⟩
  | constant value =>
      exact telling.load value written
  | unary operation =>
      exact telling.applyUnary written
  | binary operation =>
      exact telling.resolve.suspend written
  | equals =>
      exact telling.resolve

variable {context : Context}

theorem step
    (telling : state.IsTelling) (table : context.table.IsTelling)
    (display : ∀ value, Evaluation.IsTelling (context.display value))
    {instruction : Instruction}
    (name : ∀ name, instruction = .reference name → Evaluation.IsTelling name) :
    (EvaluationState.step context state instruction).IsTelling := by
  cases instruction with
  | operand value =>
      exact telling.load value (display value)
  | reference name =>
      exact telling.load _ (name _ rfl)
  | symbol symbol =>
      rw [EvaluationState.step]
      split
      · next operation known =>
          exact telling.perform (table symbol operation known)
      · exact telling

theorem run
    (telling : state.IsTelling) (table : context.table.IsTelling)
    (display : ∀ value, Evaluation.IsTelling (context.display value))
    {program : Program} (names : ∀ name, .reference name ∈ program → Evaluation.IsTelling name) :
    (EvaluationState.run context state program).IsTelling := by
  induction program generalizing state with
  | nil =>
      exact telling
  | cons instruction program inductionHypothesis =>
      refine inductionHypothesis (telling.step table display ?_) ?_
      · rintro name rfl
        exact names name List.mem_cons_self
      · intro name member
        exact names name (List.mem_cons_of_mem _ member)

/-- What a state reports is telling if anything is there. -/
theorem description
    (telling : state.IsTelling) (paired : state.IsPaired)
    (occupied : state.phase.isOccupied = true) :
    Evaluation.IsTelling (Evaluation.ofState state).description := by
  rw [← Evaluation.descriptionOr_blankDescription, Evaluation.descriptionOr]
  split
  · next idle =>
      have hasValue : state.value?.isSome = true := by
        simpa [idle] using (isOccupied_phase state).mp occupied
      obtain ⟨text, hasText⟩ := Option.isSome_iff_exists.mp (paired.trans hasValue)
      rw [hasText]
      exact telling.text text hasText
  · next pending waiting =>
      exact telling.pending pending waiting _

end IsTelling

end EvaluationState

namespace Program

open EvaluationState

theorem isTelling_finalState
    {program : Program} {context : Context} (table : context.table.IsTelling)
    (display : ∀ value, Evaluation.IsTelling (context.display value))
    (names : ∀ name, .reference name ∈ program → Evaluation.IsTelling name) (draws : Draws) :
    (program.finalState context draws).IsTelling := by
  refine IsTelling.run ⟨?_, ?_⟩ table display names
  · intro text running
    exact absurd running (Option.some_ne_none text).symm
  · intro pending waiting
    exact absurd waiting (Option.some_ne_none pending).symm

/-- The blank description means that nothing was entered, and only that.  Under a sound
configuration an evaluation is blank if and only if the program has no leaf, that is no number,
name, constant or drawn value, and if and only if there is no result and nothing is pending.  With a
leaf the description is neither blank nor empty, provided that no name in the program is. -/
theorem isBlank_iff_no_leaf
    (config : Config) (sound : config.IsSound)
    (program : Program) (names : ∀ name, .reference name ∈ program → name ≠ "" ∧ name ≠ " ")
    (bindings : Bindings) (draws : Draws) :
    let context : Context :=
      { table := config.table, bindings := bindings, display := config.format.display }
    let evaluation := program.evaluate context draws
    (evaluation.isBlank = true ↔ .leaf ∉ program.kinds config.table) ∧
      (evaluation.isBlank = true ↔ evaluation.result? = none ∧ evaluation.pending = false) ∧
      (.leaf ∈ program.kinds config.table →
        evaluation.description ≠ " " ∧ evaluation.description ≠ "") := by
  intro context evaluation
  have paired := program.isPaired_finalState context draws
  have telling : (program.finalState context draws).IsTelling := by
    refine isTelling_finalState config.isTelling_table ?_ ?_ draws
    · intro value
      exact Evaluation.isTelling_of_visible
        (NumberFormat.isBlankText_display sound.readable value)
    · intro name member
      exact (names name member).symm
  have present := isOccupied_finalState program context draws
  have written (leaf : .leaf ∈ program.kinds config.table) :
      Evaluation.IsTelling evaluation.description :=
    telling.description paired (present.mpr leaf)
  have blank : evaluation.isBlank = true ↔ .leaf ∉ program.kinds config.table := by
    rw [Evaluation.isBlank, beq_iff_eq]
    constructor
    · intro nothing leaf
      exact (written leaf).1 nothing
    · intro noLeaf
      exact paired.description_of_not_isOccupied (mt present.mp noLeaf)
  refine ⟨blank, ?_, written⟩
  rw [blank, ← present, isOccupied_phase, not_or, Option.not_isSome_iff_eq_none,
    Bool.not_eq_true]
  rfl

/-- A name of two blanks is an entry, and the symbol for the drawn value, which is left out, is
none. -/
theorem isBlank_iff_no_leaf_twoBlanks :
    let config : Config := { format := { errorToken := " !" }, disabled := ["Ran"] }
    let program : Program := [.symbol "Ran", .reference "  ", .symbol "+"]
    let evaluation :=
      program.evaluate
        { table := config.table, bindings := [("M", 2.0)], display := config.format.display }
        (Draws.ofSeed 0)
    config.IsSound ∧
      (∀ name, .reference name ∈ program → name ≠ "" ∧ name ≠ " ") ∧
      program.kinds config.table = [.unknown, .leaf, .binary] ∧
      ¬evaluation.isBlank = true ∧
      ¬(evaluation.result? = none ∧ evaluation.pending = false) ∧
      evaluation.description ≠ " " ∧ evaluation.description ≠ "" := by
  intro config program evaluation
  have sound : config.IsSound := by
    decide
  have names : ∀ name, .reference name ∈ program → name ≠ "" ∧ name ≠ " " := by
    intro name member
    have twoBlanks : name = "  " := by
      simpa [program] using member
    rw [twoBlanks]
    decide
  have kinds : program.kinds config.table = [.unknown, .leaf, .binary] := by
    decide
  have leaf : .leaf ∈ program.kinds config.table := by
    rw [kinds]
    decide
  obtain ⟨blank, nothing, written⟩ :=
    isBlank_iff_no_leaf config sound program names [("M", 2.0)] (Draws.ofSeed 0)
  have notBlank : ¬evaluation.isBlank = true := fun isBlank => blank.mp isBlank leaf
  exact ⟨sound, names, kinds, notBlank, mt nothing.mpr notBlank, written leaf⟩

end Program

end PocketCalc
