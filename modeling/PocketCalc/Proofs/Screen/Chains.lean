import PocketCalc.Proofs.Screen.Entry
import PocketCalc.Proofs.Screen.Reflection

/-!
# Chains of binary operations

Numbers that are keyed in with binary symbols between them, and `=` at the end, are computed from
left to right without precedence.  The keys turn into the program one number and one symbol at a
time; the evaluation finishes each operation when the next symbol comes, so that at every symbol the
whole chain before it is one number with one text.
-/

namespace PocketCalc

/-- A binary symbol and the number that follows. -/
structure ChainStep where
  symbol : String
  number : KeyedNumber

/-- A number and the steps after it. -/
structure Chain where
  first : KeyedNumber
  steps : List ChainStep

namespace Chain

def numbers (chain : Chain) : List KeyedNumber :=
  chain.first :: chain.steps.map ChainStep.number

/-- The keys of the chain and of the `=` that closes it. -/
def keys (mark : Char) (chain : Chain) : List Key :=
  chain.first.keys mark ++
    chain.steps.flatMap (fun step => .operation step.symbol :: step.number.keys mark) ++
    [.operation "="]

/-- The program that the keys make. -/
def program (chain : Chain) : Program :=
  .operand chain.first.value ::
    chain.steps.flatMap (fun step => [.symbol step.symbol, .operand step.number.value]) ++
    [.symbol "="]

/-- The value of the chain, computed from left to right. -/
def value (chain : Chain) : Float :=
  chain.steps.foldl
    (fun value step => arithmetic step.symbol value step.number.value) chain.first.value

/-- The text of the chain, nested to the left like its value. -/
def text (format : NumberFormat) (chain : Chain) : String :=
  chain.steps.foldl
    (fun text step => writtenBinary step.symbol text (format.display step.number.value))
    (format.display chain.first.value)

/-- All symbols of the chain are binary symbols of the configuration. -/
def IsBinary (config : Config) (chain : Chain) : Prop :=
  ∀ step ∈ chain.steps, ∃ operation, config.table.get? step.symbol = some (.binary operation)

theorem text_ne_blank {format : NumberFormat} (readable : format.Readable) (chain : Chain) :
    chain.text format ≠ " " := by
  obtain ⟨first, steps⟩ := chain
  have shown : format.display first.value ≠ " " := by
    intro blank
    have visible := NumberFormat.isBlankText_display readable first.value
    rw [blank] at visible
    exact absurd visible (by decide)
  unfold text
  generalize format.display first.value = shownFirst at shown
  induction steps generalizing shownFirst with
  | nil =>
      exact shown
  | cons step steps inductionHypothesis =>
      exact inductionHypothesis _ (writtenBinary_ne_blank _ _ _)

/-! ## The value of a chain -/

section Evaluation

variable {config : Config}

def context (config : Config) (bindings : Bindings) : Context where
  table := config.table
  bindings := bindings
  display := config.format.display

/-- One symbol of the chain and the number behind it. -/
theorem resolve_step
    (bindings : Bindings) {symbol : String} {operation : BinaryOperation}
    (known : config.table.get? symbol = some (.binary operation))
    {state : EvaluationState} {value : Float} {text : String} {draws : Draws}
    (resolved : state.resolve = { value? := some value, text? := some text, draws := draws })
    (second : Float) :
    (EvaluationState.run (context config bindings) state
        [.symbol symbol, .operand second]).resolve =
      { value? := some (operation.compute value second)
        text? := some (operation.describe symbol text (config.format.display second))
        draws := draws } := by
  have suspended :
      EvaluationState.step (context config bindings) state (.symbol symbol) =
        { pending? := some
            { symbol := symbol, operation := operation, first := value, firstText := text }
          draws := draws } := by
    simp only [EvaluationState.step, context, known, EvaluationState.perform, resolved]
    rfl
  rw [EvaluationState.run_cons, suspended]
  rfl

/-- When the waiting operation is finished, value and text are those of the chain so far. -/
theorem run_steps
    (bindings : Bindings) {steps : List ChainStep}
    (binary :
      ∀ step ∈ steps, ∃ operation, config.table.get? step.symbol = some (.binary operation))
    {state : EvaluationState} {value : Float} {text : String} {draws : Draws}
    (resolved : state.resolve = { value? := some value, text? := some text, draws := draws }) :
    (EvaluationState.run (context config bindings) state
        (steps.flatMap fun step =>
          [.symbol step.symbol, .operand step.number.value])).resolve =
      { value? := some
          (steps.foldl
            (fun value step => arithmetic step.symbol value step.number.value) value)
        text? := some
          (steps.foldl
            (fun text step =>
              writtenBinary step.symbol text (config.format.display step.number.value)) text)
        draws := draws } := by
  induction steps generalizing state value text with
  | nil =>
      exact resolved
  | cons step steps inductionHypothesis =>
      obtain ⟨operation, known⟩ := binary step List.mem_cons_self
      obtain ⟨computes, describes⟩ := Config.table_binary known
      -- The chain so far is one number with one text: the first operand of this step.
      rw [List.flatMap_cons, EvaluationState.run_append, List.foldl_cons, List.foldl_cons,
        ← computes, ← describes]
      exact inductionHypothesis (fun later member => binary later (List.mem_cons_of_mem _ member))
        (resolve_step bindings known resolved step.number.value)

theorem evaluate_program
    (sound : config.IsSound) {chain : Chain} (binary : chain.IsBinary config)
    (bindings : Bindings) (draws : Draws) :
    chain.program.evaluate (context config bindings) draws =
      { result? := some chain.value
        pending := false
        description := chain.text config.format } := by
  have loaded (value : Float) (text : String) :
      EvaluationState.resolve { value? := some value, text? := some text, draws := draws } =
        { value? := some value, text? := some text, draws := draws } :=
    rfl
  have steps := run_steps bindings binary
    (loaded chain.first.value (config.format.display chain.first.value))
  have closed (state : EvaluationState) :
      EvaluationState.step (context config bindings) state (.symbol "=") = state.resolve := by
    simp only [EvaluationState.step, context, sound.get?_equals]
    rfl
  unfold Program.evaluate Program.finalState program
  rw [List.cons_append, EvaluationState.run_cons, EvaluationState.run_append,
    EvaluationState.run_cons, EvaluationState.run_nil, closed]
  exact congrArg Evaluation.ofState steps

theorem drawsNothing_program
    (sound : config.IsSound) {chain : Chain} (binary : chain.IsBinary config) :
    chain.program.DrawsNothing config.table := by
  intro symbol member operation known
  rw [program, List.cons_append] at member
  rcases List.mem_cons.mp member with operand | later
  · exact absurd operand (by simp)
  rcases List.mem_append.mp later with inSteps | last
  · obtain ⟨step, isStep, made⟩ := List.mem_flatMap.mp inSteps
    obtain ⟨binaryOperation, binaryKnown⟩ := binary step isStep
    have same : symbol = step.symbol := by
      simpa using made
    rw [same, binaryKnown] at known
    cases known
    rfl
  · have same : symbol = "=" := by
      simpa using last
    rw [same, sound.get?_equals] at known
    cases known
    rfl

end Evaluation

end Chain

namespace Screen

/-! ## A chain is keyed in -/

/-- The screen holds this program under the configuration, nothing in memory and no entry. -/
structure Holds (config : Config) (program : Program) (screen : Screen) : Prop where
  session :
    screen.session = { program := program, table := config.table, format := config.format }
  memory? : screen.memory? = none
  idle : screen.typing = false

theorem holds_clear (config : Config) (draws : Draws) (keys : List Key) :
    (((start config.format config.table draws).pressAll keys).press .clear).Holds config [] := by
  obtain ⟨program, session⟩ := pressAll_session (start config.format config.table draws) keys
  refine ⟨?_, rfl, rfl⟩
  rw [press, clear, refresh_session, edit, session]
  rfl

variable {config : Config} {program : Program} {screen : Screen}

/-- A number and an operation key add two entries to the program. -/
theorem Holds.pressNumber
    (holds : screen.Holds config program) (readable : config.format.Readable)
    (number : KeyedNumber) {symbol : String} (available : config.table.contains symbol = true) :
    (screen.pressAll (number.keys config.format.decimalMark ++ [.operation symbol])).Holds config
      (program ++ [.operand number.value, .symbol symbol]) := by
  have sameFormat : config.format = screen.format :=
    (congrArg Session.format holds.session).symm
  have sameTable : screen.session.table = config.table := congrArg Session.table holds.session
  have works : screen.isAvailable symbol = true := by
    rw [isAvailable, sameTable]
    exact available
  rw [sameFormat] at readable ⊢
  rw [pressAll_number holds.idle readable number works]
  refine ⟨?_, holds.memory?, rfl⟩
  rw [refresh_session, holds.session]
  simp only [Session.edit, Program.apply, List.append_assoc, List.singleton_append]

/-- The keys of a chain add its program. -/
theorem Holds.pressChain
    (holds : screen.Holds config program) (sound : config.IsSound)
    {chain : Chain} (binary : chain.IsBinary config) :
    (screen.pressAll (chain.keys config.format.decimalMark)).Holds config
      (program ++ chain.program) := by
  obtain ⟨first, steps⟩ := chain
  induction steps generalizing screen program first with
  | nil =>
      have equalsKnown : config.table.contains "=" = true := by
        rw [OperationTable.contains, sound.get?_equals]
        rfl
      simpa [Chain.keys, Chain.program] using
        holds.pressNumber sound.readable first equalsKnown
  | cons step steps inductionHypothesis =>
      obtain ⟨operation, known⟩ := binary step List.mem_cons_self
      have stepKnown : config.table.contains step.symbol = true := by
        rw [OperationTable.contains, known]
        rfl
      have rest := inductionHypothesis (holds.pressNumber sound.readable first stepKnown)
        step.number fun later member => binary later (List.mem_cons_of_mem _ member)
      -- A symbol ends the number before it, so the keys are cut behind the symbols.
      have regrouped :
          Chain.keys config.format.decimalMark ⟨first, step :: steps⟩ =
            first.keys config.format.decimalMark ++ [.operation step.symbol] ++
              Chain.keys config.format.decimalMark ⟨step.number, steps⟩ := by
        simp [Chain.keys]
      rw [regrouped, pressAll_append]
      simpa [Chain.program] using rest

/-- What is keyed in is computed and shown.  After any keys and `C`, a chain of numbers and binary
symbols with `=` behind it shows its value, computed from left to right, and its text; the memory is
empty and no number is being typed.  Each number of the chain is the one nearest to the decimal that
was keyed in. -/
theorem pressAll_chain
    (config : Config) (sound : config.IsSound) (draws : Draws) (keys : List Key)
    (chain : Chain) (binary : chain.IsBinary config) :
    let screen :=
      (start config.format config.table draws).pressAll
        (keys ++ .clear :: chain.keys config.format.decimalMark)
    screen.display = config.format.display chain.value ∧
      screen.history = chain.text config.format ++ " =" ∧
      screen.memoryDisplay = config.format.display 0.0 ∧
      screen.typing = false ∧
      ∀ number ∈ chain.numbers,
        Binary64.IsNearestNumber number.decimal number.value ∧
          Binary64.isNegative number.value = false := by
  intro screen
  have reflects : screen.Reflects := (start_reflects _ _ draws).pressAll _
  have holds : screen.Holds config chain.program := by
    have split :
        screen =
          (((start config.format config.table draws).pressAll keys).press .clear).pressAll
            (chain.keys config.format.decimalMark) :=
      pressAll_append _ _ _
    rw [split]
    exact (holds_clear config draws keys).pressChain sound binary
  have evaluation :
      screen.evaluation draws =
        { result? := some chain.value
          pending := false
          description := chain.text config.format } := by
    rw [Screen.evaluation, holds.session]
    exact Chain.evaluate_program sound binary screen.bindings draws
  have sameFormat : screen.format = config.format := congrArg Session.format holds.session
  have notBlank : (screen.evaluation draws).isBlank = false := by
    rw [evaluation, Evaluation.isBlank, beq_eq_false_iff_ne]
    exact chain.text_ne_blank sound.readable
  refine ⟨?_, ?_, ?_, holds.idle, ?_⟩
  · have drawsNothing : screen.session.program.DrawsNothing screen.session.table := by
      rw [holds.session]
      exact Chain.drawsNothing_program sound binary
    rw [reflects.display drawsNothing holds.idle draws, evaluation, sameFormat]
    rfl
  · rw [reflects.history draws, historyText, notBlank, evaluation]
    rfl
  · rw [reflects.memoryDisplay, bindings_value_memoryName, holds.memory?, sameFormat]
    rfl
  · intro number _
    exact ⟨number.value_isNearestNumber, number.isNegative_value⟩

/-- There is no precedence: the sum comes before the product. -/
theorem pressAll_chain_sumBeforeProduct :
    let config : Config := { format := { locale := "fr_FR" }, disabled := ["Ran"] }
    let chain : Chain :=
      { first := ⟨[1], some [5], by decide⟩
        steps :=
          [⟨"+", ⟨[2], none, by decide⟩⟩, ⟨"×", ⟨[], some [2, 5], by decide⟩⟩] }
    let screen :=
      (start config.format config.table (Draws.ofSeed 0)).pressAll
        ([.entry "7", .operation "+"] ++ .clear :: chain.keys config.format.decimalMark)
    config.IsSound ∧ chain.IsBinary config ∧
      screen.display = "0,875" ∧
      screen.history = "1,5 + 2 × 0,25 =" ∧
      screen.memoryDisplay = "0" ∧
      screen.typing = false := by
  intro config chain screen
  have sound : config.fault? = none := by
    decide
  have binary : chain.IsBinary config := by
    intro step member
    rcases List.mem_cons.mp member with rfl | later
    · exact ⟨_, rfl⟩
    · rw [List.mem_singleton.mp later]
      exact ⟨_, rfl⟩
  obtain ⟨display, history, memoryDisplay, idle, _⟩ :=
    pressAll_chain config sound (Draws.ofSeed 0) [.entry "7", .operation "+"] chain binary
  have shown : config.format.display chain.value = "0,875" := by
    decide +kernel
  have written : chain.text config.format = "1,5 + 2 × 0,25" := by
    decide +kernel
  have zero : config.format.display 0.0 = "0" := by
    decide +kernel
  rw [shown] at display
  rw [written] at history
  rw [zero] at memoryDisplay
  exact ⟨sound, binary, display, history, memoryDisplay, idle⟩

end Screen

end PocketCalc
