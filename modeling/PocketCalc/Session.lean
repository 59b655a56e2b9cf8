import PocketCalc.Evaluation.Basic
import PocketCalc.Log
import PocketCalc.NumberFormat.ShownNumber

/-!
# Sessions

A session is a program that grows, with the table and the number format that it is evaluated by.
The values of names are not kept here: each evaluation brings its own.
-/

namespace PocketCalc

structure Session where
  program : Program := []
  table : OperationTable
  format : NumberFormat

namespace Session

def edit (session : Session) (change : Edit) : Session :=
  { session with program := session.program.apply change }

/-- What a change writes to the log: the entry that was taken back. -/
def editLog (session : Session) (change : Edit) : List LogLine :=
  match session.program.undone? change with
  | some instruction => [⟨.debug, "undo: " ++ instruction.text⟩]
  | none => []

/-- What the program is evaluated by, given the values of names. -/
def context (session : Session) (bindings : Bindings) : Context where
  table := session.table
  bindings := bindings
  display := session.format.display

def evaluate (session : Session) (bindings : Bindings) (draws : Draws) : Evaluation :=
  session.program.evaluate (session.context bindings) draws

@[simp]
theorem edit_table (session : Session) (change : Edit) :
    (session.edit change).table = session.table :=
  rfl

@[simp]
theorem edit_format (session : Session) (change : Edit) :
    (session.edit change).format = session.format :=
  rfl

@[simp]
theorem edit_program (session : Session) (change : Edit) :
    (session.edit change).program = session.program.apply change :=
  rfl

end Session

end PocketCalc
