import PocketCalc.Proofs.Screen.Reflection

/-!
# Sessions that a screen cannot tell apart

A screen asks three things of its session: the number format, whether a symbol is known, and how the
program is evaluated.  When one session is replaced by another that answers alike, the screen shows
the same, and it goes on showing the same as long as the changes that keys make to the two sessions
lead to sessions that answer alike again.
-/

namespace PocketCalc

def Edit.IsKnown (table : OperationTable) : Edit → Prop
  | .append instruction => instruction.IsKnown table
  | _ => True

/-- Related sessions show and evaluate alike, and they stay related under every change that both
tables know. -/
structure IsSimulation (related : Session → Session → Prop) : Prop where
  format {first second : Session} : related first second → first.format = second.format
  finalState {first second : Session} :
    related first second → ∀ bindings draws,
      first.program.finalState (first.context bindings) draws =
        second.program.finalState (second.context bindings) draws
  edit {first second : Session} :
    related first second → ∀ change : Edit,
      change.IsKnown first.table → change.IsKnown second.table →
        related (first.edit change) (second.edit change)

namespace Screen

/-- The screen with a related session in place of its own. -/
inductive Matches (related : Session → Session → Prop) (screen : Screen) : Screen → Prop where
  | replace (session : Session) (same : related screen.session session) :
      Matches related screen { screen with session := session }

namespace Matches

variable {related : Session → Session → Prop} {first second : Screen}

theorem session (matched : Matches related first second) :
    related first.session second.session := by
  cases matched with
  | replace session same =>
      exact same

theorem bindings (matched : Matches related first second) : first.bindings = second.bindings := by
  cases matched
  rfl

theorem shown (matched : Matches related first second) :
    first.display = second.display ∧ first.history = second.history ∧
      first.memoryDisplay = second.memoryDisplay ∧ first.typing = second.typing := by
  cases matched
  exact ⟨rfl, rfl, rfl, rfl⟩

/-- A change that does not look at the session keeps screens related. -/
theorem map
    (matched : Matches related first second) (change : Screen → Screen)
    (blind : ∀ screen session,
      change { screen with session := session } = { change screen with session := session }) :
    Matches related (change first) (change second) := by
  cases matched with
  | replace session same =>
      have kept := congrArg Screen.session (blind first first.session)
      have stillSame : related (change first).session session := by
        rw [show (change first).session = first.session from kept]
        exact same
      rw [blind first session]
      exact replace session stillSame

variable (simulation : IsSimulation related)
include simulation

theorem format (matched : Matches related first second) : first.format = second.format :=
  simulation.format matched.session

theorem shownValue? (matched : Matches related first second) :
    first.shownValue? = second.shownValue? := by
  rw [Screen.shownValue?, Screen.shownValue?, matched.format simulation, matched.shown.1]

theorem edit
    (matched : Matches related first second) (change : Edit)
    (firstKnown : change.IsKnown first.session.table)
    (secondKnown : change.IsKnown second.session.table) :
    Matches related (first.edit change) (second.edit change) := by
  cases matched with
  | replace session same =>
      exact replace (session.edit change) (simulation.edit same change firstKnown secondKnown)

theorem refresh (matched : Matches related first second) :
    Matches related first.refresh second.refresh := by
  have sameFormat := matched.format simulation
  cases matched with
  | replace session same =>
      have sameState : finalState { first with session := session } = first.finalState :=
        (simulation.finalState same first.bindings first.draws).symm
      have replaced :
          Screen.refresh { first with session := session } =
            { first.refresh with session := session } := by
        unfold Screen.refresh
        rw [sameState, ← sameFormat]
      rw [replaced]
      exact replace session same

/-! ## Every key -/

theorem type (matched : Matches related first second) (text : String) :
    Matches related (first.type text) (second.type text) := by
  obtain ⟨sameDisplay, _, _, sameTyping⟩ := matched.shown
  unfold Screen.type
  rw [← matched.format simulation, ← sameDisplay, ← sameTyping]
  split
  · dsimp only
    split
    · exact matched
    · exact matched.map
        (fun screen =>
          { screen with display := first.display ++ text, typing := first.typing })
        fun _ _ => rfl
  · exact matched.map (fun screen => { screen with display := text, typing := true })
      fun _ _ => rfl

theorem commit (matched : Matches related first second) :
    Matches related first.commit second.commit := by
  have ended := matched.map (fun screen => { screen with typing := false }) fun _ _ => rfl
  unfold Screen.commit
  rw [← matched.shown.2.2.2, ← matched.shownValue? simulation]
  split
  · split
    · next value _ =>
        exact ended.edit simulation (.append (.operand value)) trivial trivial
    · exact ended
  · exact ended

theorem operate
    (matched : Matches related first second) {symbol : String}
    (alike : first.isAvailable symbol = second.isAvailable symbol) :
    Matches related (first.operate symbol) (second.operate symbol) := by
  unfold Screen.operate
  rw [← alike]
  split
  · next available =>
      have known {screen : Screen} (works : screen.isAvailable symbol = true) :
          Edit.IsKnown screen.commit.session.table (.append (.symbol symbol)) := by
        obtain ⟨program, committed⟩ := commit_session screen
        rw [committed]
        exact works
      exact ((matched.commit simulation).edit simulation _ (known available)
        (known (alike ▸ available))).refresh simulation
  · exact matched

theorem back (matched : Matches related first second) : Matches related first.back second.back := by
  obtain ⟨sameDisplay, _, _, sameTyping⟩ := matched.shown
  unfold Screen.back
  rw [← matched.format simulation, ← sameDisplay, ← sameTyping]
  split
  · split
    · exact matched
    · dsimp only
      split
      · have emptied := matched.map
          (fun screen =>
            { screen with display := first.format.display 0.0, typing := false })
          fun _ _ => rfl
        exact emptied.refresh simulation
      · exact matched.map
          (fun screen =>
            { screen with
              display := String.ofList first.display.toList.dropLast
              typing := first.typing })
          fun _ _ => rfl
  · exact (matched.edit simulation .undo trivial trivial).refresh simulation

/-- A key keeps related screens related, if it is an operation key only one that works on both or
on neither. -/
theorem press
    (matched : Matches related first second) {key : Key}
    (alike : ∀ symbol, key = .operation symbol →
      first.isAvailable symbol = second.isAvailable symbol) :
    Matches related (first.press key) (second.press key) := by
  cases key with
  | entry text =>
      exact matched.type simulation text
  | operation symbol =>
      exact matched.operate simulation (alike symbol rfl)
  | storeMemory =>
      have stored (memory? : Option Float) := matched.map
        (fun screen => { screen with memory? := memory?, typing := false })
        fun _ _ => rfl
      rw [Screen.press, Screen.press, Screen.storeMemory, Screen.storeMemory,
        ← matched.shownValue? simulation]
      exact (stored first.shownValue?).refresh simulation
  | recallMemory =>
      have named := matched.edit simulation (.append (.reference memoryName)) rfl rfl
      have ended := named.map (fun screen => { screen with typing := false }) fun _ _ => rfl
      exact ended.refresh simulation
  | clear =>
      have emptied := matched.edit simulation .clear trivial trivial
      have forgotten := emptied.map
        (fun screen => { screen with memory? := none, typing := false })
        fun _ _ => rfl
      exact forgotten.refresh simulation
  | back =>
      exact matched.back simulation

theorem pressAll
    (matched : Matches related first second) {keys : List Key}
    (alike : ∀ {one other : Session}, related one other →
      ∀ symbol, .operation symbol ∈ keys →
        one.table.contains symbol = other.table.contains symbol) :
    Matches related (first.pressAll keys) (second.pressAll keys) := by
  induction keys generalizing first second with
  | nil =>
      exact matched
  | cons key keys inductionHypothesis =>
      have pressed : Matches related (first.press key) (second.press key) :=
        matched.press simulation fun symbol operation =>
          alike matched.session symbol (operation ▸ List.mem_cons_self)
      exact inductionHypothesis pressed fun same symbol member =>
        alike same symbol (List.mem_cons_of_mem key member)

end Matches

end Screen

end PocketCalc
