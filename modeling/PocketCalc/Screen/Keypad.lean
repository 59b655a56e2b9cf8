import PocketCalc.Screen.Basic

/-!
# The keypad

The layout of the buttons under the three texts: four rows of functions, then the number pad with
the memory keys above it.  Three keys of the keyboard do what buttons do.
-/

namespace PocketCalc

/-- A place of the keypad: a button with its label, or an empty place. -/
inductive KeypadCell where
  | button (label : String) (key : Key)
  | gap
  deriving DecidableEq, Repr

namespace KeypadCell

def label : KeypadCell → String
  | .button label _ => label
  | .gap => ""

/-- The key of the button that has a label, if this is that button. -/
def keyFor? (label : String) : KeypadCell → Option Key
  | .button own key => if own = label then some key else none
  | .gap => none

def entry (text : String) : KeypadCell :=
  .button text (.entry text)

def operation (symbol : String) : KeypadCell :=
  .button symbol (.operation symbol)

end KeypadCell

namespace Keypad

open KeypadCell

def functionRows : List (List KeypadCell) :=
  [["sin", "cos", "tan", "π"],
    ["sin⁻¹", "cos⁻¹", "tan⁻¹", "e"],
    ["√", "x²", "x⁻¹", "xʸ"],
    ["ln", "±", "Ran", "÷"]].map (List.map operation)

/-- The rows of the number pad, with the decimal mark of the locale. -/
def numberRows (mark : Char) : List (List KeypadCell) :=
  [[.button "C" .clear, .button "⌫" .back,
      .button "→M" .storeMemory, .button "M" .recallMemory],
    [entry "7", entry "8", entry "9", operation "×"],
    [entry "4", entry "5", entry "6", operation "−"],
    [entry "1", entry "2", entry "3", operation "+"],
    [entry "0", entry (String.singleton mark), .gap, operation "="]]

def cells (mark : Char) : List KeypadCell :=
  (functionRows ++ numberRows mark).flatten

def key? (mark : Char) (label : String) : Option Key :=
  (cells mark).findSome? (KeypadCell.keyFor? label)

end Keypad

/-- The keys of the keyboard that do what buttons do. -/
inductive Shortcut where
  | escape
  | backspace
  | enter
  deriving DecidableEq, Repr

namespace Shortcut

/-- The shortcuts in the order in which they act when pressed together. -/
def order : List Shortcut :=
  [.escape, .backspace, .enter]

def key : Shortcut → Key
  | .escape => .clear
  | .backspace => .back
  | .enter => .operation "="

end Shortcut

namespace Screen

def texts (screen : Screen) : List String :=
  [screen.history, screen.display, "M = " ++ screen.memoryDisplay]

/-- All painted texts: the screen and the keypad. -/
def painted (screen : Screen) : List String :=
  screen.texts ++ (Keypad.cells screen.format.decimalMark).map KeypadCell.label

/-- The screen after a click on the button with a label, if there is one. -/
def click? (screen : Screen) (label : String) : Option Screen :=
  (Keypad.key? screen.format.decimalMark label).map screen.press

/-- The screen after shortcuts that were pressed together: each acts once. -/
def pressTogether (screen : Screen) (pressed : List Shortcut) : Screen :=
  screen.pressAll ((Shortcut.order.filter (· ∈ pressed)).map Shortcut.key)

end Screen

end PocketCalc
