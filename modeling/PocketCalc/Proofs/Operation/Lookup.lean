import PocketCalc.Config.Basic

/-!
# Looking up symbols

What the table of a configuration knows: the standard operations without those that are left out.
Since `=` cannot be left out it is always known, and the only operations that wait for a second
operand are the four of arithmetic and the power.
-/

namespace PocketCalc

/-- Does carrying out the operation use up a drawn value? -/
def Operation.draws : Operation → Bool
  | .nullary _ _ => true
  | _ => false

namespace OperationTable

/-- No symbol of the table draws. -/
def DrawsNothing (table : OperationTable) : Prop :=
  ∀ symbol operation, table.get? symbol = some operation → operation.draws = false

theorem mem_entries_of_get?
    {table : OperationTable} {symbol : String} {operation : Operation}
    (known : table.get? symbol = some operation) :
    (symbol, operation) ∈ table.entries := by
  obtain ⟨before, after, split, _⟩ := List.lookup_eq_some_iff.mp known
  rw [split]
  exact List.mem_append_right before List.mem_cons_self

theorem drawsNothing_of_entries
    {table : OperationTable} (entries : ∀ entry ∈ table.entries, entry.2.draws = false) :
    table.DrawsNothing :=
  fun symbol operation known => entries (symbol, operation) (mem_entries_of_get? known)

theorem get?_foldl_erase (table : OperationTable) (symbols : List String) (tested : String) :
    (symbols.foldl erase table).get? tested =
      if tested ∈ symbols then none else table.get? tested := by
  induction symbols generalizing table with
  | nil =>
      simp
  | cons symbol symbols inductionHypothesis =>
      rw [List.foldl_cons, inductionHypothesis, get?_erase]
      by_cases erased : tested = symbol
      · simp [erased]
      · simp [erased]

/-- The standard symbols, sorted. -/
theorem symbols_standard :
    standard.symbols =
      ["+", "=", "Ran", "cos", "cos⁻¹", "e", "ln", "sin", "sin⁻¹", "tan", "tan⁻¹", "x²", "xʸ",
        "x⁻¹", "±", "×", "÷", "π", "−", "√"] := by
  simp [symbols, standard, standardEntries, List.mergeSort]

end OperationTable

/-! ## The binary symbols -/

/-- What the binary symbols compute: the four of arithmetic, and the power. -/
def arithmetic (symbol : String) (first second : Float) : Float :=
  if symbol = "×" then
    first * second
  else if symbol = "÷" then
    first / second
  else if symbol = "+" then
    first + second
  else if symbol = "−" then
    first - second
  else
    Float.pow first second

/-- How they are written: between their operands, the power as a caret. -/
def writtenBinary (symbol first second : String) : String :=
  if symbol = "xʸ" then
    first ++ " ^ " ++ second
  else
    first ++ " " ++ symbol ++ " " ++ second

/-- The signs between the operands are there even if the operands are empty. -/
theorem one_lt_length_writtenBinary (symbol first second : String) :
    1 < (writtenBinary symbol first second).length := by
  have caret : " ^ ".length = 3 := rfl
  have blank : " ".length = 1 := rfl
  unfold writtenBinary
  split
  · simp only [String.length_append]
    omega
  · simp only [String.length_append]
    omega

theorem writtenBinary_ne_blank (symbol first second : String) :
    writtenBinary symbol first second ≠ " " := by
  intro blank
  have long := one_lt_length_writtenBinary symbol first second
  rw [blank] at long
  exact absurd long (by decide)

theorem standard_binary
    {symbol : String} {operation : BinaryOperation}
    (known : OperationTable.standard.get? symbol = some (.binary operation)) :
    operation.compute = arithmetic symbol ∧
      operation.describe symbol = writtenBinary symbol := by
  have member := OperationTable.mem_entries_of_get? known
  simp only [OperationTable.standard, OperationTable.standardEntries, Operation.random,
    Operation.usualUnary, Operation.usualBinary, Operation.reciprocal, Operation.square,
    Operation.power, List.mem_cons, List.not_mem_nil, Prod.mk.injEq, reduceCtorEq, and_false,
    or_false, false_or, Operation.binary.injEq] at member
  rcases member with ⟨rfl, rfl⟩ | ⟨rfl, rfl⟩ | ⟨rfl, rfl⟩ | ⟨rfl, rfl⟩ | ⟨rfl, rfl⟩
  all_goals exact ⟨rfl, rfl⟩

/-! ## Configurations -/

namespace Config

theorem get?_table (config : Config) (symbol : String) :
    config.table.get? symbol =
      if symbol ∈ config.disabled then none else OperationTable.standard.get? symbol :=
  OperationTable.get?_foldl_erase OperationTable.standard config.disabled symbol

theorem table_binary
    {config : Config} {symbol : String} {operation : BinaryOperation}
    (known : config.table.get? symbol = some (.binary operation)) :
    operation.compute = arithmetic symbol ∧
      operation.describe symbol = writtenBinary symbol := by
  rw [get?_table] at known
  split at known
  · exact absurd known.symm (Option.some_ne_none _)
  · exact standard_binary known

theorem IsSound.equals_not_mem_disabled {config : Config} (sound : config.IsSound) :
    "=" ∉ config.disabled := by
  intro disabled
  have noFault := List.findSome?_eq_none_iff.mp (Option.or_eq_none_iff.mp sound).2 "=" disabled
  exact absurd noFault (by decide)

theorem IsSound.get?_equals {config : Config} (sound : config.IsSound) :
    config.table.get? "=" = some .equals := by
  rw [get?_table, if_neg sound.equals_not_mem_disabled]
  rfl

end Config

end PocketCalc
