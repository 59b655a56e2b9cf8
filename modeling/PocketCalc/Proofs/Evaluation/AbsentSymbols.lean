import PocketCalc.NumberFormat.ShownNumber
import PocketCalc.Operation.Standard
import PocketCalc.Proofs.Evaluation.Dependence

/-!
# Symbols that a table does not have

To take a symbol out of the table is to take its entries out of the program, and a symbol that the
table does not have is as good as no entry at all.  Each step of the pass shows it: at an entry of
the symbol the state stays what it is, and at every other entry nothing tells the two passes apart.
The draws of the symbol fall away with it, so that the other entries draw the same values as in the
program without it.
-/

namespace PocketCalc

namespace Program

/-- The program without the entries of a symbol. -/
def without (program : Program) (symbol : String) : Program :=
  program.filter (· ≠ .symbol symbol)

/-- The program with another symbol in the place of a symbol. -/
def withInstead (program : Program) (symbol other : String) : Program :=
  program.map fun instruction =>
    if instruction = .symbol symbol then .symbol other else instruction

end Program

namespace EvaluationState

variable
  {table : OperationTable} {bindings : Bindings} {display : Float → String} {symbol : String}

theorem step_erase (state : EvaluationState) (instruction : Instruction) :
    step ⟨table.erase symbol, bindings, display⟩ state instruction =
      if instruction = .symbol symbol then
        state
      else
        step ⟨table, bindings, display⟩ state instruction := by
  cases instruction with
  | operand value =>
      rfl
  | reference name =>
      rfl
  | symbol key =>
      by_cases same : key = symbol
      · simp [step, same]
      · simp [step, same]

/-- A pass that stands still at the entries of a symbol is one over the program without them. -/
theorem foldl_eq_run_without
    {context : Context} {advance : EvaluationState → Instruction → EvaluationState}
    (standsStill : ∀ state, advance state (.symbol symbol) = state)
    (goesOn : ∀ state instruction, instruction ≠ .symbol symbol →
      advance state instruction = step context state instruction)
    (state : EvaluationState) (program : Program) :
    program.foldl advance state = run context state (program.without symbol) := by
  induction program generalizing state with
  | nil =>
      rfl
  | cons instruction program inductionHypothesis =>
      by_cases same : instruction = .symbol symbol
      · rw [List.foldl_cons, same, standsStill, inductionHypothesis]
        simp [Program.without]
      · rw [List.foldl_cons, goesOn state instruction same, inductionHypothesis]
        simp [Program.without, same]

theorem run_erase (state : EvaluationState) (program : Program) :
    run ⟨table.erase symbol, bindings, display⟩ state program =
      run ⟨table, bindings, display⟩ state (program.without symbol) := by
  apply foldl_eq_run_without
  · intro state
    rw [step_erase, if_pos rfl]
  · intro state instruction other
    rw [step_erase, if_neg other]

theorem run_withInstead
    {context : Context} {other : String} (unknown : context.table.get? other = none)
    (state : EvaluationState) (program : Program) :
    run context state (program.withInstead symbol other) =
      run context state (program.without symbol) := by
  rw [run, Program.withInstead, List.foldl_map]
  apply foldl_eq_run_without
  · intro state
    rw [if_pos rfl, step_unknown unknown]
  · intro state instruction other
    rw [if_neg other]

end EvaluationState

namespace Program

/-- An evaluation sees the table and the symbols that it does not have only through the symbols of
the program.  Tables that agree on those give the same evaluation.  To take a symbol out of the
table, to take its entries out of the program and to put a symbol that the table does not have in
their place is all the same; if no entries are left, the evaluation is blank.  The symbols that
remain draw the same values each time. -/
theorem evaluate_sees_symbols
    (program : Program) (bindings : Bindings) (display : Float → String) (draws : Draws) :
    (∀ first second : OperationTable, first.AgreeOn second program →
      program.evaluate ⟨first, bindings, display⟩ draws =
        program.evaluate ⟨second, bindings, display⟩ draws) ∧
    ∀ (table : OperationTable) (symbol : String),
      program.evaluate ⟨table.erase symbol, bindings, display⟩ draws =
          (program.without symbol).evaluate ⟨table, bindings, display⟩ draws ∧
        (∀ other, table.get? other = none →
          (program.withInstead symbol other).evaluate ⟨table, bindings, display⟩ draws =
            (program.without symbol).evaluate ⟨table, bindings, display⟩ draws) ∧
        (program.without symbol = [] →
          program.evaluate ⟨table.erase symbol, bindings, display⟩ draws =
            { result? := none, pending := false, description := " " }) := by
  constructor
  · intro first second agree
    exact congrArg Evaluation.ofState (EvaluationState.run_congr_table agree { draws := draws })
  · intro table symbol
    have erased :
        program.evaluate ⟨table.erase symbol, bindings, display⟩ draws =
          (program.without symbol).evaluate ⟨table, bindings, display⟩ draws :=
      congrArg Evaluation.ofState (EvaluationState.run_erase { draws := draws } program)
    refine ⟨erased, fun other unknown => ?_, fun nothingLeft => ?_⟩
    · exact congrArg Evaluation.ofState
        (EvaluationState.run_withInstead unknown { draws := draws } program)
    · rw [erased, nothingLeft]
      rfl

/-- Without `Ran` the dice get the first drawn value, and the product finds an operation that waits
already. -/
theorem evaluate_sees_symbols_firstDraw :
    let table :=
      OperationTable.standard.insert "Dice" (.nullary (fun drawn => drawn * 6.0) "dice()")
    let display := ({} : NumberFormat).display
    let draws : Draws := { value := fun index => if index = 0 then 0.5 else 0.25 }
    let program : Program :=
      [.operand 1.0, .symbol "+", .symbol "Ran", .symbol "×", .symbol "Dice", .symbol "="]
    let onlyRan : Program := [.symbol "Ran", .symbol "Ran"]
    table.AgreeOn (table.erase "√") program ∧
      table.get? "?" = none ∧
      onlyRan.without "Ran" = [] ∧
      program.evaluate ⟨table.erase "√", [], display⟩ draws =
        { result? := some 2.25, pending := false, description := "1 + rand() × dice()" } ∧
      program.evaluate ⟨table.erase "Ran", [], display⟩ draws =
        { result? := some 4.0, pending := false, description := "1 + dice()" } ∧
      (program.withInstead "Ran" "?").evaluate ⟨table, [], display⟩ draws =
        { result? := some 4.0, pending := false, description := "1 + dice()" } ∧
      onlyRan.evaluate ⟨table.erase "Ran", [], display⟩ draws =
        { result? := none, pending := false, description := " " } := by
  intro table display draws program onlyRan
  have agree : table.AgreeOn (table.erase "√") program := by
    intro symbol member
    have differs : symbol ≠ "√" := by
      rintro rfl
      revert member
      decide
    rw [OperationTable.get?_erase, if_neg differs]
  have unknown : table.get? "?" = none := rfl
  have nothingLeft : onlyRan.without "Ran" = [] := by
    decide
  have left :
      (program.without "Ran").evaluate ⟨table, [], display⟩ draws =
        { result? := some 4.0, pending := false, description := "1 + dice()" } := by
    decide +kernel
  obtain ⟨sameTables, erased⟩ := evaluate_sees_symbols program [] display draws
  obtain ⟨without, instead, _⟩ := erased table "Ran"
  obtain ⟨_, blank⟩ := ((evaluate_sees_symbols onlyRan [] display draws).2 table "Ran").2
  refine
    ⟨agree, unknown, nothingLeft, ?_, without.trans left, (instead "?" unknown).trans left,
      blank nothingLeft⟩
  rw [← sameTables table _ agree]
  decide +kernel

end Program

end PocketCalc
