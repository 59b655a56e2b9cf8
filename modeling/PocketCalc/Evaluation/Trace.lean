import PocketCalc.Evaluation.Basic
import PocketCalc.Log
import PocketCalc.Text.Quoted

/-!
# The trace of an evaluation

After every entry of the program one line tells the running value, the running text and whether an
operation waits; a symbol that the table does not know is mentioned on a line before.
-/

namespace PocketCalc

namespace EvaluationState

def showOptional (shown? : Option String) : String :=
  match shown? with
  | some shown => "Some(" ++ shown ++ ")"
  | none => "None"

/-- The running value and text, and whether an operation waits. -/
def summary (state : EvaluationState) : String :=
  "acc=" ++ showOptional (state.value?.map NumberText.tagged) ++
    " desc=" ++ showOptional (state.text?.map Text.quote) ++
    " attente=" ++ toString state.pending?.isSome

/-- The mention of a symbol that the table does not know. -/
def unknownSymbol (context : Context) : Instruction → List LogLine
  | .symbol symbol =>
      if context.table.contains symbol then
        []
      else
        [⟨.debug, "symbole inconnu ignoré: " ++ Text.quote symbol⟩]
  | _ => []

def trace (context : Context) (state : EvaluationState) : Program → List LogLine
  | [] => []
  | instruction :: program =>
      let after := step context state instruction
      unknownSymbol context instruction ++
        ⟨.trace, instruction.text ++ " -> " ++ after.summary⟩ :: trace context after program

end EvaluationState

def Program.trace (program : Program) (context : Context) (draws : Draws) : List LogLine :=
  EvaluationState.trace context { draws := draws } program

end PocketCalc
