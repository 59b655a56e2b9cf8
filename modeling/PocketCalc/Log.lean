/-!
# Log lines

A log line has a level and a text.  A threshold lets through the lines of its own level and of the
graver ones.
-/

namespace PocketCalc

/-- How grave a log line is, the gravest first. -/
inductive LogLevel where
  | error
  | warn
  | info
  | debug
  | trace
  deriving DecidableEq, Repr

namespace LogLevel

def rank : LogLevel → Nat
  | .error => 0
  | .warn => 1
  | .info => 2
  | .debug => 3
  | .trace => 4

def label : LogLevel → String
  | .error => "ERROR"
  | .warn => "WARN"
  | .info => "INFO"
  | .debug => "DEBUG"
  | .trace => "TRACE"

def ofName? : String → Option LogLevel
  | "error" => some .error
  | "warn" => some .warn
  | "info" => some .info
  | "debug" => some .debug
  | "trace" => some .trace
  | _ => none

/-- The threshold that is asked for by name: `off` and unknown names let nothing through, and
without a name only errors pass. -/
def threshold? : Option String → Option LogLevel
  | some name => ofName? name
  | none => some .error

end LogLevel

structure LogLine where
  level : LogLevel
  message : String
  deriving DecidableEq, Repr

namespace LogLine

def text (line : LogLine) : String :=
  line.level.label ++ " " ++ line.message

/-- The lines that a threshold lets through; without a threshold there are none. -/
def upTo (threshold? : Option LogLevel) (lines : List LogLine) : List LogLine :=
  match threshold? with
  | none => []
  | some threshold => lines.filter fun line => line.level.rank ≤ threshold.rank

end LogLine

end PocketCalc
