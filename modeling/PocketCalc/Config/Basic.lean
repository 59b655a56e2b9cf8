import PocketCalc.Log
import PocketCalc.NumberFormat.Basic
import PocketCalc.Operation.Standard
import PocketCalc.Text.Removal
import PocketCalc.Text.Quoted

/-!
# Configurations

A configuration is a number format and a list of operations to leave out.  It is sound when what
is shown can be read back: the decimals are bounded, the group separator cannot be taken for a
digit, a sign or the decimal mark, and the error token is not blank; and when only operations that
exist are left out, `=` never.  The first condition that fails, in this order, is the fault.
-/

namespace PocketCalc

structure Config where
  format : NumberFormat := {}
  disabled : List String := []
  deriving DecidableEq, Repr

/-- Why a configuration is refused. -/
inductive ConfigFault where
  | tooManyDecimals (fractionMax : Nat)
  | separatorHasDigitOrSign (separator : String)
  | separatorHasMark (separator locale : String)
  | blankErrorToken
  | equalsDisabled
  | unknownOperation (symbol : String)
  deriving DecidableEq, Repr

namespace ConfigFault

/-- The setting that is at fault. -/
def field : ConfigFault → String
  | .tooManyDecimals _ => "format.fraction_max"
  | .separatorHasDigitOrSign _ => "format.separateur_milliers"
  | .separatorHasMark _ _ => "format.separateur_milliers"
  | .blankErrorToken => "format.jeton_erreur"
  | .equalsDisabled => "operations.desactivees"
  | .unknownOperation _ => "operations.desactivees"

/-- What is wrong with the setting. -/
def reason : ConfigFault → String
  | .tooManyDecimals fractionMax =>
      toString fractionMax ++ " > " ++ toString NumberFormat.fractionLimit
  | .separatorHasDigitOrSign separator =>
      Text.quote separator ++ " contient un chiffre ou un signe"
  | .separatorHasMark separator locale =>
      Text.quote separator ++ " se confond avec le séparateur décimal de la locale " ++
        Text.quote locale
  | .blankErrorToken => "vide"
  | .equalsDisabled => "\"=\" ne peut pas être désactivé"
  | .unknownOperation symbol =>
      Text.quote symbol ++ " inconnu (connus: " ++
        " ".intercalate OperationTable.standard.symbols ++ ")"

def message (fault : ConfigFault) : String :=
  "valeur invalide pour `" ++ fault.field ++ "`: " ++ fault.reason

end ConfigFault

namespace NumberFormat

/-- The first condition that a number format does not meet. -/
def fault? (format : NumberFormat) : Option ConfigFault :=
  if fractionLimit < format.fractionMax then
    some (.tooManyDecimals format.fractionMax)
  else if format.groupSeparator.toList.any fun character =>
      character.isDigit || character = '-' then
    some (.separatorHasDigitOrSign format.groupSeparator)
  else if format.decimalMark ∈ format.groupSeparator.toList then
    some (.separatorHasMark format.groupSeparator format.locale)
  else if Text.isBlankText format.errorToken.toList then
    some .blankErrorToken
  else
    none

end NumberFormat

namespace Config

def disabledFault? (symbol : String) : Option ConfigFault :=
  if symbol = "=" then
    some .equalsDisabled
  else if OperationTable.standard.contains symbol then
    none
  else
    some (.unknownOperation symbol)

def fault? (config : Config) : Option ConfigFault :=
  config.format.fault?.or (config.disabled.findSome? disabledFault?)

/-- A configuration is sound when it meets all conditions. -/
def IsSound (config : Config) : Prop :=
  config.fault? = none

instance (config : Config) : Decidable config.IsSound :=
  inferInstanceAs (Decidable (config.fault? = none))

/-- The configuration itself if it is sound, else its fault. -/
def checked (config : Config) : Except ConfigFault Config :=
  match config.fault? with
  | some fault => .error fault
  | none => .ok config

/-- The standard table without the operations to leave out. -/
def table (config : Config) : OperationTable :=
  config.disabled.foldl OperationTable.erase OperationTable.standard

/-- The symbols that are in fact taken out of a table, each when it goes. -/
def removed : OperationTable → List String → List String
  | _, [] => []
  | table, symbol :: symbols =>
      let others := removed (table.erase symbol) symbols
      if table.contains symbol then symbol :: others else others

def tableLog (config : Config) : List LogLine :=
  (removed OperationTable.standard config.disabled).map fun symbol =>
    ⟨.debug, "opération désactivée: " ++ symbol⟩

/-! ## Descriptions for the log -/

def formatSummary (format : NumberFormat) : String :=
  "FormatNombre \x7b fraction_max: " ++ toString format.fractionMax ++
    ", separateur_milliers: " ++ Text.quote format.groupSeparator ++
    ", locale: " ++ Text.quote format.locale ++
    ", jeton_erreur: " ++ Text.quote format.errorToken ++ " \x7d"

def disabledSummary (config : Config) : String :=
  Text.quoteList config.disabled

end Config

end PocketCalc
