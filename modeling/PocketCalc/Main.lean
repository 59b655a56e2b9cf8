import PocketCalc.Config.Toml
import PocketCalc.Screen.Keypad
import PocketCalc.Startup

/-!
# The program

The calculator on a terminal.  The log goes to the error output, from the level that
`CALCULATRICE_LOG` names.  Every input line is the label of a button; after it the three texts of
the screen are printed.
-/

namespace PocketCalc.Terminal

def logVariable : String :=
  "CALCULATRICE_LOG"

/-- The number of a system error and its wording. -/
def systemError : IO.Error → UInt32 × String
  | .noFileOrDirectory _ number details => (number, details)
  | .inappropriateType _ number details => (number, details)
  | .invalidArgument _ number details => (number, details)
  | .permissionDenied _ number details => (number, details)
  | .resourceExhausted _ number details => (number, details)
  | .noSuchThing _ number details => (number, details)
  | .otherError number details => (number, details)
  | error => (0, toString error)

/-- Why the system could not read a file.  Error numbers may come negated. -/
def fileError (error : IO.Error) : FileError :=
  let (number, details) := systemError error
  match if number < 0x80000000 then number else -number with
  | 2 => .notFound
  | 20 => .notDirectory
  | 21 => .isDirectory
  | 36 => .nameTooLong
  | number => .other (details ++ " (os error " ++ toString number ++ ")")

def readFile (path : String) : IO (Except FileError ByteArray) := do
  try
    return .ok (← IO.FS.readBinFile path)
  catch error =>
    return .error (fileError error)

/-- The files that a start may ask for: the named one and the local one, read beforehand. -/
def readFiles (environment : Option String) : IO Files := do
  let named := environment.getD localConfigFile
  let namedBytes ← readFile named
  return {
    contains := fun _ =>
      match namedBytes with
      | .ok _ => true
      | .error error => error != .notFound
    bytes := fun _ => namedBytes }

/-- Click the buttons whose labels come in, until the input ends. -/
partial def clickAll (input output : IO.FS.Stream) (screen : Screen) : IO Unit := do
  let line ← input.getLine
  unless line.isEmpty do
    let label := line.trimAscii.toString
    match screen.click? label with
    | some after => do
        for text in after.texts do
          output.putStrLn text
        output.flush
        clickAll input output after
    | none => clickAll input output screen

end PocketCalc.Terminal

open PocketCalc in
def main : IO Unit := do
  let environment ← IO.getEnv configVariable
  let files ← Terminal.readFiles environment
  let startup := Startup.run Config.ofToml? environment files
  let threshold? := LogLevel.threshold? (← IO.getEnv Terminal.logVariable)
  for line in LogLine.upTo threshold? startup.log do
    IO.eprintln line.text
  let seed ← IO.rand 0 0x3fffffffffffffff
  let screen := startup.screen (Draws.ofSeed (UInt64.ofNat seed))
  Terminal.clickAll (← IO.getStdin) (← IO.getStdout) screen
