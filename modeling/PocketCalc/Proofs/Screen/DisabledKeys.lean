import PocketCalc.Proofs.Evaluation.Dependence
import PocketCalc.Proofs.Screen.Simulation

/-!
# Keys of operations that are left out

An operation that a configuration leaves out behaves as if its key were never pressed on a
calculator that has all operations.  The key does nothing, also in the middle of an entry; so the
symbol never enters the program, and the tables agree on all symbols that do.
-/

namespace PocketCalc

namespace Config

/-- Is the key one of those that the configuration leaves in? -/
def keeps (config : Config) : Key → Bool
  | .operation symbol => symbol ∉ config.disabled
  | _ => true

theorem operation_of_not_keeps
    (config : Config) {key : Key} (refused : ¬config.keeps key = true) :
    ∃ symbol, symbol ∈ config.disabled ∧ key = .operation symbol := by
  cases key with
  | operation symbol =>
      exact ⟨symbol, Decidable.of_not_not fun kept => refused (decide_eq_true kept), rfl⟩
  | entry text =>
      exact absurd rfl refused
  | storeMemory =>
      exact absurd rfl refused
  | recallMemory =>
      exact absurd rfl refused
  | clear =>
      exact absurd rfl refused
  | back =>
      exact absurd rfl refused

theorem contains_table_of_mem
    (config : Config) {symbol : String} (disabled : symbol ∈ config.disabled) :
    config.table.contains symbol = false := by
  rw [OperationTable.contains, get?_table, if_pos disabled]
  rfl

theorem get?_table_of_not_mem
    (config : Config) {symbol : String} (kept : symbol ∉ config.disabled) :
    config.table.get? symbol = OperationTable.standard.get? symbol := by
  rw [get?_table, if_neg kept]

end Config

/-- The same program without symbols that are left out, once under the configuration's table and
once under the standard one. -/
structure AddsDisabled (config : Config) (first second : Session) : Prop where
  format : first.format = second.format
  program : first.program = second.program
  table : first.table = config.table
  standard : second.table = OperationTable.standard
  kept : ∀ symbol, .symbol symbol ∈ first.program → symbol ∉ config.disabled

namespace AddsDisabled

variable {config : Config} {first second : Session}

theorem agreeOn (added : AddsDisabled config first second) :
    first.table.AgreeOn second.table first.program := by
  intro symbol member
  rw [added.table, added.standard]
  exact config.get?_table_of_not_mem (added.kept symbol member)

theorem kept_edit
    (added : AddsDisabled config first second) {change : Edit}
    (known : change.IsKnown first.table) :
    ∀ symbol, .symbol symbol ∈ (first.edit change).program → symbol ∉ config.disabled := by
  intro symbol member
  cases change with
  | append instruction =>
      rcases List.mem_append.mp member with former | new
      · exact added.kept symbol former
      · -- A symbol that is left out is not known, so that no key can have made the entry.
        intro disabled
        rw [List.mem_singleton] at new
        subst new
        have unknown := config.contains_table_of_mem disabled
        rw [← added.table] at unknown
        exact absurd (known.symm.trans unknown) (by decide)
  | undo =>
      exact added.kept symbol (List.dropLast_subset _ member)
  | clear =>
      exact absurd member List.not_mem_nil

theorem isSimulation (config : Config) : IsSimulation (AddsDisabled config) where
  format added := added.format
  finalState {first second} added bindings draws := by
    rw [Session.context, Session.context, ← added.format, ← added.program]
    exact EvaluationState.run_congr_table added.agreeOn { draws := draws }
  edit {first second} added change known _ := by
    refine ⟨added.format, ?_, added.table, added.standard, added.kept_edit known⟩
    rw [Session.edit_program, Session.edit_program, added.program]

end AddsDisabled

namespace Screen

variable {config : Config}

theorem press_disabled
    {screen : Screen} (table : screen.session.table = config.table)
    {symbol : String} (disabled : symbol ∈ config.disabled) :
    screen.press (.operation symbol) = screen := by
  have unavailable : screen.isAvailable symbol = false := by
    rw [isAvailable, table]
    exact config.contains_table_of_mem disabled
  rw [press, operate, if_neg (ne_true_of_eq_false unavailable)]

theorem matches_pressAll_keeps
    {first second : Screen} (matched : Matches (AddsDisabled config) first second)
    (keys : List Key) :
    Matches (AddsDisabled config) (first.pressAll keys)
      (second.pressAll (keys.filter config.keeps)) := by
  induction keys generalizing first second with
  | nil =>
      exact matched
  | cons key keys inductionHypothesis =>
      by_cases kept : config.keeps key = true
      · have alike (symbol : String) (operation : key = .operation symbol) :
            first.isAvailable symbol = second.isAvailable symbol := by
          subst operation
          rw [isAvailable, isAvailable, matched.session.table, matched.session.standard,
            OperationTable.contains, OperationTable.contains,
            config.get?_table_of_not_mem (of_decide_eq_true kept)]
        rw [List.filter_cons_of_pos kept]
        exact inductionHypothesis (matched.press (AddsDisabled.isSimulation config) alike)
      · obtain ⟨symbol, disabled, rfl⟩ := config.operation_of_not_keeps kept
        have ignored := press_disabled matched.session.table disabled
        rw [List.filter_cons_of_neg kept, pressAll, List.foldl_cons, ignored]
        exact inductionHypothesis matched

/-- Leaving out operations is the same as never pressing their keys.  With the same draws the screen
that lacks them reaches the program, the memory and the texts of one that has all operations and on
which the other keys were pressed.  A key that is left out changes nothing, in whatever state. -/
theorem pressAll_disabled (config : Config) (draws : Draws) (keys : List Key) :
    let screen := (start config.format config.table draws).pressAll keys
    let spared := (start config.format .standard draws).pressAll (keys.filter config.keeps)
    screen.session.program = spared.session.program ∧
      screen.bindings = spared.bindings ∧
      screen.display = spared.display ∧
      screen.history = spared.history ∧
      screen.memoryDisplay = spared.memoryDisplay ∧
      screen.typing = spared.typing ∧
      ∀ symbol ∈ config.disabled, screen.press (.operation symbol) = screen := by
  intro screen spared
  have started :
      Matches (AddsDisabled config) (start config.format config.table draws)
        (start config.format .standard draws) :=
    .replace _ ⟨rfl, rfl, rfl, rfl, fun _ member => absurd member List.not_mem_nil⟩
  have matched : Matches (AddsDisabled config) screen spared :=
    matches_pressAll_keeps started keys
  obtain ⟨display, history, memoryDisplay, typing⟩ := matched.shown
  exact ⟨matched.session.program, matched.bindings, display, history, memoryDisplay, typing,
    fun symbol disabled => press_disabled matched.session.table disabled⟩

/-- Two keys that are left out, both pressed within the entry `42`. -/
theorem pressAll_disabled_whileTyping :
    let config : Config := { disabled := ["Ran", "+"] }
    let keys : List Key :=
      [.entry "4", .operation "Ran", .entry "2", .operation "+", .operation "x²"]
    let screen := (start config.format config.table (Draws.ofSeed 0)).pressAll keys
    config.IsSound ∧ "+" ∈ config.disabled ∧
      keys.filter config.keeps = [.entry "4", .entry "2", .operation "x²"] ∧
      screen.display = "1 764" ∧
      screen.history = "(42)² =" ∧
      screen.press (.operation "+") = screen := by
  intro config keys screen
  have sound : config.fault? = none := by
    decide
  have disabled : "+" ∈ config.disabled := by
    decide
  have spared : keys.filter config.keeps = [.entry "4", .entry "2", .operation "x²"] := by
    decide
  obtain ⟨_, _, display, history, _, _, unchanged⟩ :=
    pressAll_disabled config (Draws.ofSeed 0) keys
  rw [spared] at display history
  refine ⟨sound, disabled, spared, display.trans ?_, history.trans ?_, unchanged "+" disabled⟩
  · decide +kernel
  · decide +kernel

end Screen

end PocketCalc
