import PocketCalc.Config.Basic
import PocketCalc.Toml.Document

/-!
# Configurations in TOML

The table `format` holds the settings of the number format and the table `operations` the list of
operations to leave out.  Settings that are missing keep their usual values; unknown ones are
refused.  Each of the two tables may also be an array with its settings in order, in which case
the last ones may be missing and what comes after them is ignored.
-/

namespace PocketCalc

open Toml (Value Entries)

/-- Give settings their values one after another. -/
def Toml.Entries.applyTo {α : Type}
    (set? : α → String → Value → Option α) (settings : α) (entries : Entries) : Option α :=
  entries.foldlM (fun settings (name, value) => set? settings name value) settings

/-- Settings with the values of a table or, in the order of their names, of an array. -/
def Toml.Value.applyTo {α : Type}
    (set? : α → String → Value → Option α) (names : List String) (settings : α) :
    Value → Option α
  | .table _ entries => Toml.Entries.applyTo set? settings entries
  | .array items => Toml.Entries.applyTo set? settings (names.zip items)
  | _ => none

def Toml.Value.strings? : Value → Option (List String)
  | .array items =>
      items.mapM fun item =>
        match item with
        | .string text => some text
        | _ => none
  | _ => none

namespace NumberFormat

def settingNames : List String :=
  ["fraction_max", "separateur_milliers", "locale", "jeton_erreur"]

def set? (format : NumberFormat) : (name : String) → Value → Option NumberFormat
  | "fraction_max", .integer (.ofNat decimals) => some { format with fractionMax := decimals }
  | "separateur_milliers", .string text => some { format with groupSeparator := text }
  | "locale", .string text => some { format with locale := text }
  | "jeton_erreur", .string text => some { format with errorToken := text }
  | _, _ => none

end NumberFormat

namespace Config

def setDisabled? (_former : List String) : (name : String) → Value → Option (List String)
  | "desactivees", value => value.strings?
  | _, _ => none

/-- The configuration with one of its two tables read. -/
def set? (config : Config) : (name : String) → Value → Option Config
  | "format", value =>
      (value.applyTo NumberFormat.set? NumberFormat.settingNames config.format).map
        fun format => { config with format := format }
  | "operations", value =>
      (value.applyTo setDisabled? ["desactivees"] config.disabled).map
        fun disabled => { config with disabled := disabled }
  | _, _ => none

/-- The configuration that a TOML text describes, sound or not. -/
def ofToml? (text : String) : Option Config := do
  let entries ← Toml.read? text
  entries.applyTo set? {}

end Config

end PocketCalc
