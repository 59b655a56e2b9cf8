import PocketCalc.Operation.Table

/-!
# The standard operations

The twenty symbols of the keypad and what they do.
-/

namespace PocketCalc

namespace Operation

def usualUnary (compute : Float → Float) : Operation :=
  .unary { compute := compute }

def usualBinary (compute : Float → Float → Float) : Operation :=
  .binary { compute := compute }

def random : Operation :=
  .nullary (fun drawn => drawn) "rand()"

def reciprocal : Operation :=
  .unary
    { compute := fun operand => 1.0 / operand
      description? := some fun operand => "(" ++ operand ++ ")⁻¹" }

def square : Operation :=
  .unary
    { compute := fun operand => operand * operand
      description? := some fun operand => "(" ++ operand ++ ")²" }

def power : Operation :=
  .binary
    { compute := Float.pow
      description? := some fun base exponent => base ++ " ^ " ++ exponent }

end Operation

namespace OperationTable

open Operation

def standardEntries : List (String × Operation) :=
  [("Ran", random),
    ("π", .constant 3.141592653589793),
    ("e", .constant 2.718281828459045),
    ("±", usualUnary fun operand => -operand),
    ("√", usualUnary Float.sqrt),
    ("cos", usualUnary Float.cos),
    ("sin", usualUnary Float.sin),
    ("tan", usualUnary Float.tan),
    ("sin⁻¹", usualUnary Float.asin),
    ("cos⁻¹", usualUnary Float.acos),
    ("tan⁻¹", usualUnary Float.atan),
    ("ln", usualUnary Float.log),
    ("x⁻¹", reciprocal),
    ("x²", square),
    ("×", usualBinary fun first second => first * second),
    ("÷", usualBinary fun first second => first / second),
    ("+", usualBinary fun first second => first + second),
    ("−", usualBinary fun first second => first - second),
    ("xʸ", power),
    ("=", .equals)]

def standard : OperationTable where
  entries := standardEntries
  distinct := by decide

end OperationTable

end PocketCalc
