/-!
# Operations

What a symbol can do to the running value: replace it (`nullary`, `constant`), transform it
(`unary`), start a computation that waits for a second operand (`binary`), or finish the one that
waits (`equals`).  Beside its computation an operation has a description, by which the text of the
running expression grows in step with its value.
-/

namespace PocketCalc

/-- A computation on one number, with its own way of being described if it has one. -/
structure UnaryOperation where
  compute : Float → Float
  description? : Option (String → String) := none

/-- A computation on two numbers, with its own way of being described if it has one. -/
structure BinaryOperation where
  compute : Float → Float → Float
  description? : Option (String → String → String) := none

/-- The usual description of a unary operation: the symbol before the operand in brackets. -/
def UnaryOperation.usualDescription (symbol operand : String) : String :=
  symbol ++ "(" ++ operand ++ ")"

def UnaryOperation.describe
    (operation : UnaryOperation) (symbol operand : String) : String :=
  match operation.description? with
  | some description => description operand
  | none => usualDescription symbol operand

/-- The usual description of a binary operation: the symbol between the operands. -/
def BinaryOperation.usualDescription (symbol first second : String) : String :=
  first ++ " " ++ symbol ++ " " ++ second

def BinaryOperation.describe
    (operation : BinaryOperation) (symbol first second : String) : String :=
  match operation.description? with
  | some description => description first second
  | none => usualDescription symbol first second

/-- What a symbol does.  A nullary operation makes its value from a drawn one. -/
inductive Operation where
  | nullary (compute : Float → Float) (label : String)
  | constant (value : Float)
  | unary (operation : UnaryOperation)
  | binary (operation : BinaryOperation)
  | equals

end PocketCalc
