import PocketCalc.NumberFormat.ShownNumber
import PocketCalc.Session

/-!
# The screen

The screen shows three texts: the number entered or computed, the history (the description of the
program, closed by `=`, or by `…` while an operation waits) and the number in memory.  Keys change
the entry, the program or the memory; whenever program or memory may have changed, the program is
evaluated again and all three texts are renewed.

While a number is being typed, the shown number is that entry.  It becomes an operand only when an
operation key follows, and is replaced, not continued, by the first digit after anything else.
-/

namespace PocketCalc

def memoryName : String :=
  "M"

/-- A calculation under way together with what is shown of it. -/
structure Screen where
  session : Session
  memory? : Option Float := none
  display : String := ""
  history : String := ""
  memoryDisplay : String := ""
  typing : Bool := false
  draws : Draws

inductive Key where
  | entry (text : String)
  | operation (symbol : String)
  | storeMemory
  | recallMemory
  | clear
  | back
  deriving DecidableEq, Repr

namespace Screen

/-! ## What is shown -/

def format (screen : Screen) : NumberFormat :=
  screen.session.format

/-- The only name that can have a value is that of the memory. -/
def bindings (screen : Screen) : Bindings :=
  match screen.memory? with
  | some value => [(memoryName, value)]
  | none => []

/-- The program's evaluation on its way: its last state. -/
def finalState (screen : Screen) : EvaluationState :=
  screen.session.program.finalState (screen.session.context screen.bindings) screen.draws

/-- The history of an evaluation. -/
def historyText (evaluation : Evaluation) : String :=
  if evaluation.isBlank then
    evaluation.description
  else if evaluation.pending then
    evaluation.description ++ " …"
  else
    evaluation.description ++ " ="

/-- The number shown after an evaluation.  Without a result the old one stays, unless there is
nothing to describe. -/
def displayText (format : NumberFormat) (evaluation : Evaluation) (shown : String) : String :=
  match evaluation.result? with
  | some value => format.display value
  | none => if evaluation.isBlank then format.display 0.0 else shown

/-- Evaluate the program and renew the three texts. -/
def refresh (screen : Screen) : Screen :=
  let final := screen.finalState
  let evaluation := Evaluation.ofState final
  { screen with
    display := displayText screen.format evaluation screen.display
    history := historyText evaluation
    memoryDisplay := screen.format.display (screen.memory?.getD 0.0)
    draws := final.draws }

@[simp]
theorem refresh_session (screen : Screen) : screen.refresh.session = screen.session :=
  rfl

@[simp]
theorem refresh_memory? (screen : Screen) : screen.refresh.memory? = screen.memory? :=
  rfl

@[simp]
theorem refresh_typing (screen : Screen) : screen.refresh.typing = screen.typing :=
  rfl

def start (format : NumberFormat) (table : OperationTable) (draws : Draws) : Screen :=
  refresh { session := { table := table, format := format }, draws := draws }

/-! ## Keys -/

/-- Does the operation key of a symbol work? -/
def isAvailable (screen : Screen) (symbol : String) : Bool :=
  screen.session.table.contains symbol

/-- The number that the shown text stands for, if it stands for one. -/
def shownValue? (screen : Screen) : Option Float :=
  screen.format.read? screen.display

/-- The screen after a change of its program; the texts are as before. -/
def edit (screen : Screen) (change : Edit) : Screen :=
  { screen with session := screen.session.edit change }

/-- Type a digit or the decimal mark.  A second mark is refused. -/
def type (screen : Screen) (text : String) : Screen :=
  if screen.typing then
    let mark := screen.format.decimalMark
    if text.toList = [mark] ∧ mark ∈ screen.display.toList then
      screen
    else
      { screen with display := screen.display ++ text }
  else
    { screen with display := text, typing := true }

/-- Make the entry, if it is a number, an operand of the program, and end the typing. -/
def commit (screen : Screen) : Screen :=
  let ended := { screen with typing := false }
  if screen.typing then
    match screen.shownValue? with
    | some value => ended.edit (.append (.operand value))
    | none => ended
  else
    ended

/-- Press an operation key: the entry is committed first.  Keys that do not work do nothing. -/
def operate (screen : Screen) (symbol : String) : Screen :=
  if screen.isAvailable symbol then
    (screen.commit.edit (.append (.symbol symbol))).refresh
  else
    screen

/-- Keep the shown number in memory; a text that is no number empties the memory. -/
def storeMemory (screen : Screen) : Screen :=
  refresh { screen with memory? := screen.shownValue?, typing := false }

/-- Enter the name of the memory into the program. -/
def recallMemory (screen : Screen) : Screen :=
  refresh { screen.edit (.append (.reference memoryName)) with typing := false }

def clear (screen : Screen) : Screen :=
  refresh { screen.edit .clear with memory? := none, typing := false }

/-- While typing, take back one character of the entry; the last one ends the typing.  Otherwise
take back the last entry of the program. -/
def back (screen : Screen) : Screen :=
  if screen.typing then
    if screen.display.isEmpty then
      screen
    else
      let shorter := String.ofList screen.display.toList.dropLast
      if shorter.isEmpty then
        refresh { screen with display := screen.format.display 0.0, typing := false }
      else
        { screen with display := shorter }
  else
    (screen.edit .undo).refresh

def press (screen : Screen) : Key → Screen
  | .entry text => screen.type text
  | .operation symbol => screen.operate symbol
  | .storeMemory => screen.storeMemory
  | .recallMemory => screen.recallMemory
  | .clear => screen.clear
  | .back => screen.back

def pressAll (screen : Screen) (keys : List Key) : Screen :=
  keys.foldl press screen

theorem pressAll_append (screen : Screen) (first second : List Key) :
    screen.pressAll (first ++ second) = (screen.pressAll first).pressAll second :=
  List.foldl_append

end Screen

end PocketCalc
