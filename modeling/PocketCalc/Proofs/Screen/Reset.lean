import PocketCalc.Proofs.Operation.Lookup
import PocketCalc.Proofs.Screen.Simulation
import PocketCalc.Screen.Keypad

/-!
# Starting again

Escape clears the screen whatever else is pressed together with it: Backspace then finds nothing to
take back, and Enter leaves an `=` in the program that has nothing to finish.  Such an `=` in front
of a program never shows.  It does not change any evaluation, and a key that takes back the last
entry of the program takes it away only when the program would be empty without it.
-/

namespace PocketCalc

/-- What can be done to a screen: press a key of the keypad, or shortcuts together. -/
inductive Action where
  | press (key : Key)
  | shortcuts (pressed : List Shortcut)
  deriving DecidableEq, Repr

namespace Action

def keys : Action → List Key
  | .press key => [key]
  | .shortcuts pressed => (Shortcut.order.filter (· ∈ pressed)).map Shortcut.key

end Action

/-! ## An equals sign in front of a program -/

/-- The second session has some `=` more in front of its program. -/
structure AddsEquals (first second : Session) : Prop where
  format : second.format = first.format
  table : second.table = first.table
  closes : first.table.get? "=" = some .equals
  program : ∃ count, second.program = List.replicate count (.symbol "=") ++ first.program

namespace AddsEquals

theorem run_replicate
    {context : Context} (closes : context.table.get? "=" = some .equals)
    (draws : Draws) (count : Nat) :
    EvaluationState.run context { draws := draws } (List.replicate count (.symbol "=")) =
      { draws := draws } := by
  induction count with
  | zero =>
      rfl
  | succ count inductionHypothesis =>
      rw [List.replicate_succ, EvaluationState.run_cons, EvaluationState.step_equals closes]
      exact inductionHypothesis

theorem dropLast_program
    {instruction : Instruction} {count : Nat} (program : Program) :
    ∃ fewer,
      (List.replicate count instruction ++ program).dropLast =
        List.replicate fewer instruction ++ program.dropLast := by
  by_cases empty : program = []
  · subst empty
    refine ⟨count - 1, ?_⟩
    rw [List.append_nil, List.dropLast_replicate, List.dropLast_nil, List.append_nil]
  · exact ⟨count, List.dropLast_append_of_ne_nil empty⟩

theorem isSimulation : IsSimulation AddsEquals where
  format added := added.format.symm
  finalState {first second} added bindings draws := by
    obtain ⟨count, fronted⟩ := added.program
    have sameContext : second.context bindings = first.context bindings := by
      rw [Session.context, Session.context, added.table, added.format]
    rw [sameContext, fronted, Program.finalState, Program.finalState, EvaluationState.run_append,
      run_replicate added.closes]
  edit {first second} added change _ _ := by
    obtain ⟨count, fronted⟩ := added.program
    refine ⟨added.format, added.table, added.closes, ?_⟩
    rw [Session.edit_program, Session.edit_program, fronted]
    cases change with
    | append instruction =>
        exact ⟨count, List.append_assoc _ _ _⟩
    | undo =>
        exact dropLast_program first.program
    | clear =>
        exact ⟨0, rfl⟩

end AddsEquals

namespace Screen

def perform (screen : Screen) : Action → Screen
  | .press key => screen.press key
  | .shortcuts pressed => screen.pressTogether pressed

def performAll (screen : Screen) (actions : List Action) : Screen :=
  actions.foldl perform screen

theorem performAll_eq_pressAll (screen : Screen) (actions : List Action) :
    screen.performAll actions = screen.pressAll (actions.flatMap Action.keys) := by
  induction actions generalizing screen with
  | nil =>
      rfl
  | cons action actions inductionHypothesis =>
      rw [performAll, List.foldl_cons, ← performAll, inductionHypothesis, List.flatMap_cons,
        pressAll_append]
      cases action with
      | press key =>
          rfl
      | shortcuts pressed =>
          rfl

theorem performAll_session (screen : Screen) (actions : List Action) :
    ∃ program,
      (screen.performAll actions).session = { screen.session with program := program } := by
  rw [performAll_eq_pressAll]
  exact pressAll_session screen (actions.flatMap Action.keys)

/-! ## Escape -/

variable (format : NumberFormat) {table : OperationTable} (draws : Draws)

theorem press_clear (screen : Screen) :
    screen.press .clear = start screen.format screen.session.table screen.draws :=
  rfl

theorem start_back (table : OperationTable) :
    (start format table draws).press .back = start format table draws :=
  rfl

theorem isAvailable_equals
    {screen : Screen} (closes : screen.session.table.get? "=" = some .equals) :
    screen.isAvailable "=" = true := by
  show (screen.session.table.get? "=").isSome = true
  rw [closes]
  rfl

theorem start_equals (closes : table.get? "=" = some .equals) :
    (start format table draws).press (.operation "=") =
      { start format table draws with
        session := { program := [.symbol "="], table := table, format := format } } := by
  have available : (start format table draws).isAvailable "=" = true :=
    isAvailable_equals closes
  have committed :
      (start format table draws).commit.edit (.append (.symbol "=")) =
        { start format table draws with
          session := { program := [.symbol "="], table := table, format := format } } :=
    rfl
  have inert :
      finalState
          { start format table draws with
            session := { program := [.symbol "="], table := table, format := format } } =
        { draws := draws } :=
    EvaluationState.step_equals closes { draws := draws }
  rw [press, operate, if_pos available, committed, refresh, inert]
  rfl

/-- The screen right after a frame with Escape: as at the start, but for an `=` from Enter. -/
theorem pressTogether_escape
    (screen : Screen) (closes : screen.session.table.get? "=" = some .equals)
    {pressed : List Shortcut} (escape : .escape ∈ pressed) :
    screen.pressTogether pressed =
      { start screen.format screen.session.table screen.draws with
        session :=
          { program := if .enter ∈ pressed then [.symbol "="] else []
            table := screen.session.table
            format := screen.format } } := by
  have cleared := press_clear screen
  have backspaced := start_back screen.format screen.draws screen.session.table
  have entered := start_equals screen.format screen.draws closes
  have order :
      (Shortcut.order.filter (· ∈ pressed)).map Shortcut.key =
        .clear ::
          ((if .backspace ∈ pressed then [.back] else []) ++
            (if .enter ∈ pressed then [.operation "="] else [])) := by
    by_cases backspace : .backspace ∈ pressed
    · by_cases enter : .enter ∈ pressed
      · simp [Shortcut.order, Shortcut.key, escape, backspace, enter]
      · simp [Shortcut.order, Shortcut.key, escape, backspace, enter]
    · by_cases enter : .enter ∈ pressed
      · simp [Shortcut.order, Shortcut.key, escape, backspace, enter]
      · simp [Shortcut.order, Shortcut.key, escape, backspace, enter]
  rw [pressTogether, order, pressAll, List.foldl_cons, cleared, List.foldl_append]
  have stillReset :
      List.foldl press (start screen.format screen.session.table screen.draws)
          (if .backspace ∈ pressed then [.back] else []) =
        start screen.format screen.session.table screen.draws := by
    split
    · exact backspaced
    · rfl
  rw [stillReset]
  split
  · exact entered
  · rfl

theorem matches_pressTogether_escape
    (screen : Screen) (closes : screen.session.table.get? "=" = some .equals)
    {pressed : List Shortcut} (escape : .escape ∈ pressed) :
    Matches AddsEquals
      (start screen.format screen.session.table (screen.pressTogether pressed).draws)
      (screen.pressTogether pressed) := by
  rw [pressTogether_escape screen closes escape]
  refine .replace _ ⟨rfl, rfl, closes, ?_⟩
  by_cases enter : .enter ∈ pressed
  · exact ⟨1, if_pos enter⟩
  · exact ⟨0, if_neg enter⟩

/-- Escape resets the screen for good.  From any state, after a frame with Escape in it, whatever
else is pressed in the same frame and whatever is done later, the three texts and the typing are
those of a screen that was just started.  Only the program may differ: Enter in that frame leaves an
`=`. -/
theorem performAll_after_escape
    (config : Config) (sound : config.IsSound) (draws : Draws) (before : List Action)
    {pressed : List Shortcut} (escape : .escape ∈ pressed) (later : List Action) :
    let framed :=
      ((start config.format config.table draws).performAll before).perform (.shortcuts pressed)
    let fresh := start config.format config.table framed.draws
    framed.session.program = (if .enter ∈ pressed then [.symbol "="] else []) ∧
      (framed.performAll later).display = (fresh.performAll later).display ∧
      (framed.performAll later).history = (fresh.performAll later).history ∧
      (framed.performAll later).memoryDisplay = (fresh.performAll later).memoryDisplay ∧
      (framed.performAll later).typing = (fresh.performAll later).typing := by
  intro framed fresh
  obtain ⟨program, session⟩ :=
    performAll_session (start config.format config.table draws) before
  have sameFormat :
      ((start config.format config.table draws).performAll before).format = config.format :=
    congrArg Session.format session
  have sameTable :
      ((start config.format config.table draws).performAll before).session.table = config.table :=
    congrArg Session.table session
  have closes := sound.get?_equals
  rw [← sameTable] at closes
  have matched : Matches AddsEquals fresh framed := by
    have reset := matches_pressTogether_escape _ closes escape
    rw [sameFormat, sameTable] at reset
    exact reset
  have stillMatched : Matches AddsEquals (fresh.performAll later) (framed.performAll later) := by
    rw [performAll_eq_pressAll, performAll_eq_pressAll]
    exact matched.pressAll AddsEquals.isSimulation fun same symbol _ => by rw [same.table]
  obtain ⟨display, history, memoryDisplay, typing⟩ := stillMatched.shown
  refine ⟨?_, display.symm, history.symm, memoryDisplay.symm, typing.symm⟩
  have left := pressTogether_escape _ closes escape
  exact congrArg (fun screen => screen.session.program) left

/-- The `=` that Enter leaves is taken back without a trace, in the middle of a new calculation. -/
theorem performAll_after_escape_withEnter :
    let config : Config := { format := { locale := "fr" }, disabled := ["Ran"] }
    let framed :=
      ((start config.format config.table (Draws.ofSeed 0)).performAll
        [.press (.entry "7"), .press .storeMemory, .press (.operation "+")]).perform
          (.shortcuts [.enter, .escape])
    let later : List Action := [.press .back, .press (.entry "2"), .shortcuts [.enter]]
    config.IsSound ∧ .escape ∈ [Shortcut.enter, .escape] ∧
      framed.session.program = [.symbol "="] ∧
      (framed.performAll later).display = "2" ∧
      (framed.performAll later).history = "2 =" ∧
      (framed.performAll later).memoryDisplay = "0" ∧
      (framed.performAll later).typing = false := by
  intro config framed later
  have sound : config.fault? = none := by
    decide
  have escape : .escape ∈ [Shortcut.enter, .escape] := by
    decide
  obtain ⟨program, display, history, memoryDisplay, typing⟩ :=
    performAll_after_escape config sound (Draws.ofSeed 0)
      [.press (.entry "7"), .press .storeMemory, .press (.operation "+")] escape later
  refine ⟨sound, escape, program, display.trans ?_, history.trans ?_, memoryDisplay.trans ?_,
    typing.trans ?_⟩
  · decide +kernel
  · decide +kernel
  · decide +kernel
  · decide +kernel

end Screen

end PocketCalc
