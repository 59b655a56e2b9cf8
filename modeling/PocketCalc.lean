import PocketCalc.Config.Basic
import PocketCalc.Config.Toml
import PocketCalc.Draws
import PocketCalc.Evaluation.Basic
import PocketCalc.Evaluation.Trace
import PocketCalc.Files.Basic
import PocketCalc.Files.Folder
import PocketCalc.Log
import PocketCalc.Main
import PocketCalc.Number.Binary64
import PocketCalc.Number.Binary64.Lemmas
import PocketCalc.Number.Digits
import PocketCalc.Number.Literal
import PocketCalc.Number.NumberText
import PocketCalc.Number.Shortest
import PocketCalc.NumberFormat.Basic
import PocketCalc.NumberFormat.ShownNumber
import PocketCalc.Operation.Basic
import PocketCalc.Operation.Standard
import PocketCalc.Operation.Table
import PocketCalc.Program
import PocketCalc.Screen.Basic
import PocketCalc.Screen.Keypad
import PocketCalc.Session
import PocketCalc.Startup
import PocketCalc.Text.Removal
import PocketCalc.Text.ExtendingMark
import PocketCalc.Text.Quoted
import PocketCalc.Text.Unprintable
import PocketCalc.Toml.Document
import PocketCalc.Toml.Quoted
import PocketCalc.Toml.Scalar
import PocketCalc.Toml.Statement
import PocketCalc.Toml.Value
import PocketCalc.Proofs.Text.Quoting
import PocketCalc.Proofs.Number.Binary64
import PocketCalc.Proofs.Number.Decimals
import PocketCalc.Proofs.Number.HalfStep
import PocketCalc.Proofs.NumberFormat.DecimalMark
import PocketCalc.Proofs.NumberFormat.Reading
import PocketCalc.Proofs.NumberFormat.RoundTrip
import PocketCalc.Proofs.NumberFormat.Shape
import PocketCalc.Proofs.NumberFormat.Stability
import PocketCalc.Proofs.NumberFormat.Order
import PocketCalc.Proofs.Evaluation.Draws
import PocketCalc.Proofs.Session.Survivors
import PocketCalc.Proofs.Screen.Reflection
import PocketCalc.Proofs.Screen.Entry
import PocketCalc.Proofs.Evaluation.Blank
import PocketCalc.Proofs.Evaluation.Dependence
import PocketCalc.Proofs.Evaluation.Formulas
import PocketCalc.Proofs.Screen.Chains
import PocketCalc.Proofs.Screen.Simulation
import PocketCalc.Proofs.Screen.Reset
import PocketCalc.Proofs.Screen.DisabledKeys
import PocketCalc.Proofs.Screen.DisplayOptions
import PocketCalc.Proofs.Startup.Selection
import PocketCalc.Proofs.Evaluation.Kinds
import PocketCalc.Proofs.Evaluation.Redundancy
import PocketCalc.Proofs.NumberFormat.Grammar
import PocketCalc.Proofs.Screen.EntryUnderWay
import PocketCalc.Proofs.Screen.Renewal
import PocketCalc.Proofs.Screen.Memory
import PocketCalc.Proofs.Screen.EntryTakenBack
import PocketCalc.Proofs.Screen.Undo
import PocketCalc.Proofs.Number.WrittenNumber
import PocketCalc.Proofs.Screen.ErrorDisplay
import PocketCalc.Proofs.Evaluation.LastSymbol
import PocketCalc.Proofs.Evaluation.AbsentSymbols
import PocketCalc.Proofs.Evaluation.NamedValues
import PocketCalc.Proofs.Evaluation.Presence
import PocketCalc.Proofs.Evaluation.NothingEntered
import PocketCalc.Proofs.Config.Validation
