import PocketCalc.Number.NumberText

/-!
# Programs

A program is the record of what was entered: numbers, names and symbols, in order.  Symbols are not
looked at here; what they mean is decided when the program is evaluated.  A program changes only at
its end, by an entry, by taking the last entry back, or by starting again.
-/

namespace PocketCalc

inductive Instruction where
  | operand (value : Float)
  | reference (name : String)
  | symbol (key : String)
  deriving DecidableEq, Repr

def Instruction.text : Instruction → String
  | .operand value => NumberText.plain value
  | .reference name => name
  | .symbol key => key

/-- What was entered, the oldest entry first. -/
abbrev Program :=
  List Instruction

/-- A change at the end of a program. -/
inductive Edit where
  | append (instruction : Instruction)
  | undo
  | clear
  deriving DecidableEq, Repr

namespace Program

/-- The program after a change; there is nothing to undo in an empty one. -/
def apply (program : Program) : Edit → Program
  | .append instruction => program ++ [instruction]
  | .undo => program.dropLast
  | .clear => []

def undone? (program : Program) : Edit → Option Instruction
  | .undo => program.getLast?
  | _ => none

def text (program : Program) : String :=
  " ".intercalate (program.map Instruction.text)

@[simp]
theorem apply_append_undo (program : Program) (instruction : Instruction) :
    apply (apply program (.append instruction)) .undo = program := by
  simp [apply]

end Program

end PocketCalc
