import PocketCalc.Config.Basic
import PocketCalc.Files.Basic
import PocketCalc.Screen.Basic

/-!
# Starting the calculator

The configuration comes from one file: the one that the environment names, else the local one if
there is any; without a file the usual values hold.  A file that cannot be read or understood, or
whose configuration is not sound, is reported and the usual values are taken instead.
-/

namespace PocketCalc

def configVariable : String :=
  "CALCULATRICE_CONFIG"

/-- The configuration file that is looked for when the environment names none. -/
def localConfigFile : String :=
  "calculatrice.toml"

/-- Why no configuration could be loaded. -/
inductive LoadError where
  | unreadable (path : String) (error : FileError)
  | malformed
  | unsound (fault : ConfigFault)
  deriving DecidableEq, Repr

def LoadError.message : LoadError → String
  | .unreadable path error =>
      "lecture de " ++ Text.quote path ++ " impossible: " ++ error.message
  | .malformed => "syntaxe TOML invalide:"
  | .unsound fault => fault.message

namespace Config

/-- The sound configuration that a text describes, by some way of understanding texts. -/
def ofText (decode : String → Option Config) (text : String) : Except LoadError Config :=
  match decode text with
  | none => .error .malformed
  | some config => config.checked.mapError .unsound

/-- The configuration in the file at a path. -/
def ofFile (decode : String → Option Config) (files : Files) (path : String) :
    Except LoadError Config :=
  match files.text path with
  | .error error => .error (.unreadable path error)
  | .ok text => ofText decode text

/-- The path of the configuration file, given what the environment names. -/
def selectedPath? (environment : Option String) (files : Files) : Option String :=
  match environment with
  | some path => some path
  | none => if files.contains localConfigFile then some localConfigFile else none

/-- The configuration that was asked for; the usual one if none was. -/
def load (decode : String → Option Config) (environment : Option String) (files : Files) :
    Except LoadError Config :=
  match selectedPath? environment files with
  | some path => ofFile decode files path
  | none => .ok {}

end Config

/-! ## The start -/

/-- What a start leads to: a configuration and the lines it wrote to the log. -/
structure Startup where
  config : Config
  log : List LogLine

namespace Startup

/-- The log of a configuration that was loaded. -/
def loadedLog (config : Config) : List LogLine :=
  [⟨.info, "format: " ++ Config.formatSummary config.format⟩,
    ⟨.info, "opérations désactivées: " ++ config.disabledSummary⟩]

/-- Start with what was loaded, or with the usual configuration. -/
def ofLoaded (loaded : Except LoadError Config) : Startup :=
  let (config, lines) :=
    match loaded with
    | .ok config => (config, loadedLog config)
    | .error error =>
        (({} : Config), [⟨.error, "configuration ignorée: " ++ error.message⟩])
  { config := config
    log := ⟨.info, "démarrage Calculatrice"⟩ :: lines ++ config.tableLog }

/-- Start with the configuration that the environment and the files give. -/
def run (decode : String → Option Config) (environment : Option String) (files : Files) :
    Startup :=
  ofLoaded (Config.load decode environment files)

def screen (startup : Startup) (draws : Draws) : Screen :=
  Screen.start startup.config.format startup.config.table draws

end Startup

end PocketCalc
