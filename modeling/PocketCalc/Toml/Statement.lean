import PocketCalc.Toml.Scalar

/-!
# TOML statements

A document is a list of statements, a line each: a key with its value, the header of a table, or
the header of one more table in a list.  Values in brackets or braces hold further values; their
nesting is limited, and so is the number of parts of a dotted key.
-/

namespace PocketCalc.Toml

/-- One line of a document that is neither empty nor only a comment. -/
inductive Statement where
  | assign (path : List String) (value : Value)
  | header (path : List String)
  | listHeader (path : List String)

namespace Statement

/-- Nesting of this depth, and dotted keys of this length, are refused. -/
def nestingLimit : Nat :=
  80

/-! ## Blanks and comments -/

def skipBlanks (text : List Char) : List Char :=
  text.dropWhile Quoted.isBlank

/-- Skip blanks, line ends and comments; a comment must be closed by a line end. -/
def skipLines : (inComment : Bool) → List Char → Option (List Char)
  | true, [] => none
  | false, [] => some []
  | _, '\n' :: rest => skipLines false rest
  | _, '\r' :: '\n' :: rest => skipLines false rest
  | true, character :: rest =>
      if Quoted.isPlain character then skipLines true rest else none
  | false, '#' :: rest => skipLines true rest
  | false, character :: rest =>
      if Quoted.isBlank character then skipLines false rest else some (character :: rest)

def afterLineEnd? : List Char → Option (List Char)
  | [] => some []
  | '\n' :: rest => some rest
  | '\r' :: '\n' :: rest => some rest
  | _ => none

/-- Finish a line, on which only blanks and a comment may be left. -/
def finishLine? (text : List Char) : Option (List Char) :=
  match skipBlanks text with
  | '#' :: comment => afterLineEnd? (comment.dropWhile Quoted.isPlain)
  | rest => afterLineEnd? rest

/-! ## Keys -/

/-- The characters of keys without quotes. -/
def isBareKey (character : Char) : Bool :=
  character.isAlphanum || character = '_' || character = '-'

def keyPart? (text : List Char) : Option (String × List Char) :=
  match text with
  | '"' :: _ => Quoted.singleLine? text
  | '\'' :: _ => Quoted.singleLine? text
  | _ =>
      let bare := text.takeWhile isBareKey
      if bare.isEmpty then none else some (String.ofList bare, text.dropWhile isBareKey)

/-- The parts of a key, with blanks around each. -/
def keyParts? : (fuel : Nat) → Reader (List String)
  | 0, _ => none
  | fuel + 1, text => do
      let (part, rest) ← keyPart? (skipBlanks text)
      match skipBlanks rest with
      | '.' :: rest => do
          let (parts, rest) ← keyParts? fuel rest
          return (part :: parts, rest)
      | rest => return ([part], rest)

def key? (text : List Char) : Option (List String × List Char) := do
  let (path, rest) ← keyParts? (text.length + 1) text
  if path.length < nestingLimit then return (path, rest) else none

/-! ## Values -/

/-- The items of an array behind its opening bracket.  A comma may follow the last one. -/
def items? (item? : Reader Value) : (fuel : Nat) → Reader (List Value)
  | 0, _ => none
  | fuel + 1, text => do
      match ← skipLines false text with
      | ']' :: rest => return ([], rest)
      | text => do
          let (value, rest) ← item? text
          match ← skipLines false rest with
          | ',' :: rest => do
              let (values, rest) ← items? item? fuel rest
              return (value :: values, rest)
          | ']' :: rest => return ([value], rest)
          | _ => none

/-- The entries of an inline table behind its opening brace or a comma; no comma may follow the
last one, and all stand on one line. -/
def inlineEntries? (item? : Reader Value) : (fuel : Nat) → Entries → Reader Entries
  | 0, _, _ => none
  | fuel + 1, entries, text => do
      let (path, rest) ← key? text
      let rest ← Scalar.expect? '=' rest
      let (value, rest) ← item? (skipBlanks rest)
      let entries ← entries.assign path value
      match skipBlanks rest with
      | ',' :: rest => inlineEntries? item? fuel entries rest
      | '}' :: rest => return (entries, rest)
      | _ => none

def value? : (depth : Nat) → Reader Value
  | depth + 1, '[' :: rest => do
      let (values, rest) ← items? (value? depth) (rest.length + 1) rest
      return (.array values, rest)
  | depth + 1, '{' :: rest =>
      match skipBlanks rest with
      | '}' :: rest => some (.table .inline [], rest)
      | rest => do
          let (entries, rest) ← inlineEntries? (value? depth) (rest.length + 1) [] rest
          return (.table .inline entries, rest)
  | _, text => Scalar.scalar? text

/-! ## Lines -/

/-- The statement on a line that is not empty, up to what may follow it on the line. -/
def statement? (text : List Char) : Option (Statement × List Char) :=
  match text with
  | '[' :: '[' :: rest => do
      let (path, rest) ← key? rest
      let rest ← Scalar.expect? ']' rest
      let rest ← Scalar.expect? ']' rest
      return (.listHeader path, rest)
  | '[' :: rest => do
      let (path, rest) ← key? rest
      let rest ← Scalar.expect? ']' rest
      return (.header path, rest)
  | _ => do
      let (path, rest) ← key? text
      let rest ← Scalar.expect? '=' rest
      let (value, rest) ← value? (nestingLimit - 1) (skipBlanks rest)
      return (.assign path value, rest)

/-- The statements of a text, line by line. -/
def lines? : (fuel : Nat) → List Char → Option (List Statement)
  | 0, _ => none
  | fuel + 1, text =>
      match finishLine? text with
      | some [] => some []
      | some rest => lines? fuel rest
      | none => do
          let (statement, rest) ← statement? (skipBlanks text)
          let rest ← finishLine? rest
          let statements ← lines? fuel rest
          return statement :: statements

/-- All statements of a document, which may start with a byte order mark. -/
def readAll? (text : List Char) : Option (List Statement) :=
  let text := if text.head? = some '\ufeff' then text.tail else text
  lines? (text.length + 1) text

end Statement

end PocketCalc.Toml
