import PocketCalc.Config.Toml
import PocketCalc.Proofs.Screen.Reset
import PocketCalc.Startup

/-!
# Which configuration a start takes

A start looks at one file at most.  It takes the whole configuration in it or, if there is no such
file or anything is wrong with it, the usual one; nothing of a file that is refused is kept, and no
other file is looked at instead.

* `IsSelected` says which file it is, and `Provides` and `IsRefused` what can come of it;
* `config_of_provides`, `config_of_refused` and `config_of_none` follow the start through each case;
* `provides_or_refused` and `selected_or_none` say that there is no further case.

In each case the configuration is sound, and a sound configuration keeps `=`.
-/

namespace PocketCalc

namespace Startup

/-- The file that a start looks at: the one that the environment names, there or not, or else the
local one if it is there. -/
inductive IsSelected (environment : Option String) (files : Files) : (path : String) → Prop where
  | named (path : String) (isSet : environment = some path) : IsSelected environment files path
  | localFile (notSet : environment = none) (present : files.contains localConfigFile = true) :
      IsSelected environment files localConfigFile

section File

variable (decode : String → Option Config) (files : Files) (path : String)

/-- The file is text that is understood as this configuration, and it is sound. -/
def Provides (config : Config) : Prop :=
  ∃ text, files.text path = .ok text ∧ decode text = some config ∧ config.IsSound

/-- The file cannot be read, or understood, or its configuration is not sound. -/
inductive IsRefused : Prop where
  | unreadable (error : FileError) (read : files.text path = .error error)
  | malformed (text : String) (read : files.text path = .ok text) (decoded : decode text = none)
  | unsound (text : String) (config : Config) (read : files.text path = .ok text)
      (decoded : decode text = some config) (fault : ¬config.IsSound)

theorem provides_or_refused :
    (∃ config, Provides decode files path config) ∨ IsRefused decode files path := by
  cases read : files.text path with
  | error error =>
      exact Or.inr (.unreadable error read)
  | ok text =>
      cases decoded : decode text with
      | none =>
          exact Or.inr (.malformed text read decoded)
      | some config =>
          by_cases sound : config.IsSound
          · exact Or.inl ⟨config, text, read, decoded, sound⟩
          · exact Or.inr (.unsound text config read decoded sound)

end File

variable {decode : String → Option Config} {environment : Option String} {files : Files}
  {path : String} {config : Config}

theorem selected_or_none (environment : Option String) (files : Files) :
    (∃ path, IsSelected environment files path) ∨
      environment = none ∧ files.contains localConfigFile = false := by
  cases isSet : environment with
  | some path =>
      exact Or.inl ⟨path, .named path rfl⟩
  | none =>
      cases present : files.contains localConfigFile with
      | true =>
          exact Or.inl ⟨localConfigFile, .localFile rfl present⟩
      | false =>
          exact Or.inr ⟨rfl, rfl⟩

/-! ## The cases of a start -/

theorem load_of_selected (selected : IsSelected environment files path) :
    Config.load decode environment files = Config.ofFile decode files path := by
  cases selected with
  | named path isSet =>
      rw [isSet]
      rfl
  | localFile notSet present =>
      simp only [Config.load, Config.selectedPath?, notSet, present, if_true]

/-- A named file is the only one that counts. -/
theorem load_of_sameText
    {others : Files} (isSet : environment = some path)
    (sameText : others.text path = files.text path) :
    Config.load decode environment others = Config.load decode environment files := by
  rw [load_of_selected (.named path isSet), load_of_selected (.named path isSet), Config.ofFile,
    Config.ofFile, sameText]

theorem config_of_provides
    (selected : IsSelected environment files path) (provides : Provides decode files path config) :
    (run decode environment files).config = config := by
  obtain ⟨text, read, decoded, sound⟩ := provides
  have checked : config.checked = .ok config := by
    rw [Config.checked, sound]
  have loaded : Config.load decode environment files = .ok config := by
    rw [load_of_selected selected, Config.ofFile, read]
    simp only [Config.ofText, decoded, checked]
    rfl
  rw [run, loaded]
  rfl

/-- Nothing of a refused file is kept. -/
theorem config_of_refused
    (selected : IsSelected environment files path) (refused : IsRefused decode files path) :
    (run decode environment files).config = {} := by
  have failed : ∃ error, Config.load decode environment files = .error error := by
    rw [load_of_selected selected, Config.ofFile]
    cases refused with
    | unreadable error read =>
        rw [read]
        exact ⟨_, rfl⟩
    | malformed text read decoded =>
        rw [read]
        simp only [Config.ofText, decoded]
        exact ⟨_, rfl⟩
    | unsound text config read decoded fault =>
        obtain ⟨reason, faulty⟩ := Option.ne_none_iff_exists'.mp fault
        rw [read]
        simp only [Config.ofText, decoded, Config.checked, faulty]
        exact ⟨_, rfl⟩
  obtain ⟨error, failed⟩ := failed
  rw [run, failed]
  rfl

theorem config_of_none
    (notSet : environment = none) (absent : files.contains localConfigFile = false) :
    (run decode environment files).config = {} := by
  have loaded : Config.load decode environment files = .ok {} := by
    simp only [Config.load, Config.selectedPath?, notSet, absent]
    rfl
  rw [run, loaded]
  rfl

/-- The usual configuration is sound. -/
theorem isSound_default : ({} : Config).IsSound := by
  decide

theorem config_eq_iff
    (decode : String → Option Config) (environment : Option String) (files : Files)
    (config : Config) :
    (run decode environment files).config = config ↔
      (∃ path, IsSelected environment files path ∧ Provides decode files path config) ∨
        (config = {} ∧
          ((environment = none ∧ files.contains localConfigFile = false) ∨
            ∃ path, IsSelected environment files path ∧ IsRefused decode files path)) := by
  constructor
  · rintro rfl
    rcases selected_or_none environment files with ⟨path, selected⟩ | ⟨notSet, absent⟩
    · rcases provides_or_refused decode files path with ⟨config, provides⟩ | refused
      · rw [config_of_provides selected provides]
        exact Or.inl ⟨path, selected, provides⟩
      · exact Or.inr ⟨config_of_refused selected refused, Or.inr ⟨path, selected, refused⟩⟩
    · exact Or.inr ⟨config_of_none notSet absent, Or.inl ⟨notSet, absent⟩⟩
  · rintro (⟨path, selected, provides⟩ | ⟨rfl, ⟨notSet, absent⟩ | ⟨path, selected, refused⟩⟩)
    · exact config_of_provides selected provides
    · exact config_of_none notSet absent
    · exact config_of_refused selected refused

theorem isSound_config (decode : String → Option Config) (environment : Option String)
    (files : Files) : (run decode environment files).config.IsSound := by
  rcases (config_eq_iff decode environment files _).mp rfl with
    ⟨_, _, _, _, _, sound⟩ | ⟨usual, _⟩
  · exact sound
  · rw [usual]
    exact isSound_default

end Startup

namespace Screen

/-! ## Enter -/

theorem press_available (screen : Screen) {symbol : String}
    (available : screen.isAvailable symbol = true) :
    (screen.press (.operation symbol)).session.program =
      screen.commit.session.program ++ [.symbol symbol] := by
  rw [press, operate, if_pos available]
  rfl

theorem isAvailable_pressAll (screen : Screen) (keys : List Key) (symbol : String) :
    (screen.pressAll keys).isAvailable symbol = screen.isAvailable symbol := by
  obtain ⟨program, session⟩ := pressAll_session screen keys
  rw [isAvailable, session, isAvailable]

/-- Enter acts last in its frame. -/
theorem pressTogether_enter (screen : Screen) {pressed : List Shortcut} (enter : .enter ∈ pressed) :
    screen.pressTogether pressed =
      (screen.pressTogether (pressed.filter (· ≠ .enter))).press (.operation "=") := by
  have order :
      Shortcut.order.filter (· ∈ pressed) =
        Shortcut.order.filter (· ∈ pressed.filter (· ≠ .enter)) ++ [.enter] := by
    by_cases escape : .escape ∈ pressed
    · by_cases backspace : .backspace ∈ pressed
      · simp [Shortcut.order, escape, backspace, enter]
      · simp [Shortcut.order, escape, backspace, enter]
    · by_cases backspace : .backspace ∈ pressed
      · simp [Shortcut.order, escape, backspace, enter]
      · simp [Shortcut.order, escape, backspace, enter]
  rw [pressTogether, order, List.map_append, pressAll_append]
  rfl

end Screen

namespace Startup

/-! ## The screen of a start -/

section Screen

variable (startup : Startup) (draws : Draws) (actions : List Action)

theorem session_screen :
    (startup.screen draws).session =
      { table := startup.config.table, format := startup.config.format } :=
  rfl

theorem format_performAll :
    ((startup.screen draws).performAll actions).format = startup.config.format := by
  rw [Screen.performAll_eq_pressAll, Screen.pressAll_format, Screen.format, session_screen]

theorem table_performAll :
    ((startup.screen draws).performAll actions).session.table = startup.config.table := by
  rw [Screen.performAll_eq_pressAll, Screen.pressAll_table, session_screen]

end Screen

/-- A start never takes a part of a configuration or one that is not sound.  It takes the one that
the selected file provides, and the usual one exactly when there is no such file or when it is
refused.  While the environment names a file, no other file makes any difference.  The screen gets
the number format and the table of this configuration and nothing else, and keeps both whatever is
pressed.  The configuration is always sound, so that `=` is in its table and works in every state of
the screen: Enter, whatever else is pressed together with it, ends the entry and puts an `=` behind
the program. -/
theorem run_takes_sound_config
    (decode : String → Option Config) (environment : Option String) (files : Files) :
    let startup := run decode environment files
    startup.config.IsSound ∧
      (∀ config, startup.config = config ↔
        (∃ path, IsSelected environment files path ∧ Provides decode files path config) ∨
          (config = {} ∧
            ((environment = none ∧ files.contains localConfigFile = false) ∨
              ∃ path, IsSelected environment files path ∧ IsRefused decode files path))) ∧
      (∀ path, environment = some path → ∀ others : Files, others.text path = files.text path →
        (run decode environment others).config = startup.config) ∧
      startup.config.table.get? "=" = some .equals ∧
      (∀ draws : Draws,
        (startup.screen draws).session =
          { table := startup.config.table, format := startup.config.format }) ∧
      (∀ (draws : Draws) (actions : List Action),
        let screen := (startup.screen draws).performAll actions
        screen.format = startup.config.format ∧
          screen.session.table = startup.config.table ∧
          screen.isAvailable "=" = true ∧
          ∀ pressed : List Shortcut, .enter ∈ pressed →
            (screen.pressTogether pressed).session.program =
              (screen.pressTogether (pressed.filter (· ≠ .enter))).commit.session.program ++
                [.symbol "="]) := by
  intro startup
  have sound := isSound_config decode environment files
  refine ⟨sound, config_eq_iff decode environment files, ?_, sound.get?_equals,
    startup.session_screen, ?_⟩
  · intro path isSet others sameText
    show (run decode environment others).config = (run decode environment files).config
    rw [run, run, load_of_sameText isSet sameText]
  · intro draws actions screen
    have format : screen.format = startup.config.format := startup.format_performAll draws actions
    have table : screen.session.table = startup.config.table :=
      startup.table_performAll draws actions
    have available : screen.isAvailable "=" = true :=
      Screen.isAvailable_equals (by rw [table, sound.get?_equals])
    refine ⟨format, table, available, fun pressed enter => ?_⟩
    rw [screen.pressTogether_enter enter]
    refine Screen.press_available _ ?_
    rw [Screen.pressTogether, Screen.isAvailable_pressAll]
    exact available

/-- A named file with `=` among the operations to leave out is refused as a whole, so that `Ran`,
which it leaves out too, is still there.  The local file, which is sound, counts only without a
named one; then the screen keeps two decimals and has no `+`. -/
theorem run_takes_sound_config_refused :
    let files : Files :=
      { contains := fun path => path = "mine.toml" ∨ path = "calculatrice.toml"
        bytes := fun path =>
          if path = "mine.toml" then
            .ok "operations.desactivees = [\"Ran\", \"=\"]".toUTF8
          else if path = "calculatrice.toml" then
            .ok "format.fraction_max = 2\noperations.desactivees = [\"+\"]".toUTF8
          else
            .error .notFound }
    let named := run Config.ofToml? (some "mine.toml") files
    let unnamed := run Config.ofToml? none files
    let screen :=
      (named.screen (Draws.ofSeed 0)).performAll [.press (.entry "7"), .press (.entry "5")]
    let started := unnamed.screen (Draws.ofSeed 0)
    named.config = {} ∧
      unnamed.config = { format := { fractionMax := 2 }, disabled := ["+"] } ∧
      screen.session.table.get? "Ran" = OperationTable.standard.get? "Ran" ∧
      .enter ∈ [Shortcut.enter, .backspace] ∧
      (screen.pressTogether [.enter, .backspace]).session.program =
        [.operand 7, .symbol "="] ∧
      started.format = { fractionMax := 2 } ∧
      started.session.table.get? "+" = none ∧
      started.session.table.get? "Ran" = OperationTable.standard.get? "Ran" := by
  intro files named unnamed screen started
  have refused : IsRefused Config.ofToml? files "mine.toml" :=
    .unsound "operations.desactivees = [\"Ran\", \"=\"]" { disabled := ["Ran", "="] } rfl
      (by decide +kernel) (by decide)
  have provides :
      Provides Config.ofToml? files "calculatrice.toml"
        { format := { fractionMax := 2 }, disabled := ["+"] } :=
    ⟨"format.fraction_max = 2\noperations.desactivees = [\"+\"]", rfl, by decide +kernel,
      by decide⟩
  have enter : .enter ∈ [Shortcut.enter, .backspace] := by
    decide
  obtain ⟨_, configOfNamed, _, _, _, ofNamed⟩ :=
    run_takes_sound_config Config.ofToml? (some "mine.toml") files
  obtain ⟨_, configOfUnnamed, _, _, ofUnnamed, _⟩ :=
    run_takes_sound_config Config.ofToml? none files
  have usual : named.config = {} :=
    (configOfNamed _).mpr (Or.inr ⟨rfl, Or.inr ⟨"mine.toml", .named _ rfl, refused⟩⟩)
  have fromFile : unnamed.config = { format := { fractionMax := 2 }, disabled := ["+"] } :=
    (configOfUnnamed _).mpr (Or.inl ⟨"calculatrice.toml", .localFile rfl rfl, provides⟩)
  obtain ⟨_, table, _, enterWorks⟩ :=
    ofNamed (Draws.ofSeed 0) [.press (.entry "7"), .press (.entry "5")]
  have session :
      started.session = { table := unnamed.config.table, format := unnamed.config.format } :=
    ofUnnamed (Draws.ofSeed 0)
  rw [fromFile] at session
  refine ⟨usual, fromFile, ?_, enter, ?_, ?_, ?_, ?_⟩
  · rw [table, usual, Config.get?_table]
    rfl
  · rw [enterWorks _ enter]
    decide +kernel
  · rw [Screen.format, session]
  · rw [session, Config.get?_table, if_pos List.mem_cons_self]
  · rw [session, Config.get?_table, if_neg (by decide)]

end Startup

end PocketCalc
