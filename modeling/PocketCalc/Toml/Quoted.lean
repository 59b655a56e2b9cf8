/-!
# TOML strings

The four kinds of strings, read from behind their opening quotes up to and with the closing ones:
basic strings with escapes and literal strings without, each on one line or, between threefold
quotes, on several.  Each reader goes through the characters once and keeps in a small state what
the characters before it demand.
-/

namespace PocketCalc.Toml

/-- A reader takes something from the start of a text and leaves the rest. -/
abbrev Reader (α : Type) :=
  List Char → Option (α × List Char)

namespace Quoted

/-- Characters that may stand for themselves in strings and comments: the tab, and all but the
controls. -/
def isPlain (character : Char) : Bool :=
  character = '\t' || (0x20 ≤ character.toNat && character.toNat ≠ 0x7f)

def isBlank (character : Char) : Bool :=
  character = ' ' || character = '\t'

def hexDigit? (character : Char) : Option Nat :=
  if character.isDigit then
    some (character.toNat - '0'.toNat)
  else if 'a' ≤ character ∧ character ≤ 'f' then
    some (character.toNat - 'a'.toNat + 10)
  else if 'A' ≤ character ∧ character ≤ 'F' then
    some (character.toNat - 'A'.toNat + 10)
  else
    none

/-- The character of a code point; surrogates and numbers that are too large have none. -/
def scalar? (code : Nat) : Option Char :=
  if code.isValidChar then some (Char.ofNat code) else none

/-- The character that a letter stands for behind a backslash. -/
def shortEscape? : Char → Option Char
  | 'b' => some '\x08'
  | 't' => some '\t'
  | 'n' => some '\n'
  | 'f' => some '\x0c'
  | 'r' => some '\r'
  | '"' => some '"'
  | '\\' => some '\\'
  | _ => none

/-- What the next character of a basic string is expected to be. -/
inductive Expecting where
  | content
  | escape
  | hex (digits : Nat) (code : Nat)
  | lineEnd
  | continuation

/-- Put a character before the string that a reader goes on to read. -/
def push (character : Char) (read : Option (List Char × List Char)) :
    Option (List Char × List Char) :=
  read.map fun (text, rest) => (character :: text, rest)

/-- One digit of an escape by code point: go on with the next digit, or put the character. -/
def afterHex
    (digits code : Nat) (character : Char)
    (goOn : Expecting → Option (List Char × List Char)) :
    Option (List Char × List Char) :=
  match hexDigit? character with
  | none => none
  | some digit =>
      let code := 16 * code + digit
      if digits = 0 then
        match scalar? code with
        | some escaped => push escaped (goOn .content)
        | none => none
      else
        goOn (.hex (digits - 1) code)

/-- What follows a backslash within the line. -/
def afterBackslash
    (character : Char) (goOn : Expecting → Option (List Char × List Char)) :
    Option (List Char × List Char) :=
  if character = 'u' then
    goOn (.hex 3 0)
  else if character = 'U' then
    goOn (.hex 7 0)
  else
    match shortEscape? character with
    | some escaped => push escaped (goOn .content)
    | none => none

/-- The rest of a basic string on one line. -/
def basicFrom : Expecting → Reader (List Char)
  | _, [] => none
  | .escape, character :: rest =>
      afterBackslash character fun expecting => basicFrom expecting rest
  | .hex digits code, character :: rest =>
      afterHex digits code character fun expecting => basicFrom expecting rest
  | _, '"' :: rest => some ([], rest)
  | _, '\\' :: rest => basicFrom .escape rest
  | _, character :: rest =>
      if isPlain character then push character (basicFrom .content rest) else none

/-- The rest of a basic string on several lines.  A backslash at the end of a line skips all blanks
and line ends up to the next other character.  Up to two quotes may stand before the closing
ones. -/
def multilineBasicFrom : Expecting → Reader (List Char)
  | _, [] => none
  | .escape, character :: rest =>
      if isBlank character then
        multilineBasicFrom .lineEnd rest
      else if character = '\n' then
        multilineBasicFrom .continuation rest
      else if character = '\r' then
        match rest with
        | '\n' :: rest => multilineBasicFrom .continuation rest
        | _ => none
      else
        afterBackslash character fun expecting => multilineBasicFrom expecting rest
  | .lineEnd, character :: rest =>
      if isBlank character then
        multilineBasicFrom .lineEnd rest
      else if character = '\n' then
        multilineBasicFrom .continuation rest
      else if character = '\r' then
        match rest with
        | '\n' :: rest => multilineBasicFrom .continuation rest
        | _ => none
      else
        none
  | .hex digits code, character :: rest =>
      afterHex digits code character fun expecting => multilineBasicFrom expecting rest
  | _, '"' :: '"' :: '"' :: '"' :: '"' :: rest => some (['"', '"'], rest)
  | _, '"' :: '"' :: '"' :: '"' :: rest => some (['"'], rest)
  | _, '"' :: '"' :: '"' :: rest => some ([], rest)
  | _, '"' :: rest => push '"' (multilineBasicFrom .content rest)
  | _, '\\' :: rest => multilineBasicFrom .escape rest
  | expecting, '\r' :: '\n' :: rest =>
      match expecting with
      | .continuation => multilineBasicFrom .continuation rest
      | _ => push '\n' (multilineBasicFrom .content rest)
  | expecting, '\n' :: rest =>
      match expecting with
      | .continuation => multilineBasicFrom .continuation rest
      | _ => push '\n' (multilineBasicFrom .content rest)
  | expecting, character :: rest =>
      match expecting with
      | .continuation =>
          if isBlank character then
            multilineBasicFrom .continuation rest
          else if isPlain character then
            push character (multilineBasicFrom .content rest)
          else
            none
      | _ =>
          if isPlain character then
            push character (multilineBasicFrom .content rest)
          else
            none

/-- The rest of a literal string on one line. -/
def literalFrom : Reader (List Char)
  | [] => none
  | '\'' :: rest => some ([], rest)
  | character :: rest =>
      if isPlain character then push character (literalFrom rest) else none

/-- The rest of a literal string on several lines. -/
def multilineLiteralFrom : Reader (List Char)
  | [] => none
  | '\'' :: '\'' :: '\'' :: '\'' :: '\'' :: rest => some (['\'', '\''], rest)
  | '\'' :: '\'' :: '\'' :: '\'' :: rest => some (['\''], rest)
  | '\'' :: '\'' :: '\'' :: rest => some ([], rest)
  | '\r' :: '\n' :: rest => push '\n' (multilineLiteralFrom rest)
  | '\n' :: rest => push '\n' (multilineLiteralFrom rest)
  | character :: rest =>
      if isPlain character then push character (multilineLiteralFrom rest) else none

/-- A line end right behind the opening quotes does not count. -/
def skipLineEnd : List Char → List Char
  | '\n' :: rest => rest
  | '\r' :: '\n' :: rest => rest
  | text => text

def singleLine? : Reader String
  | '"' :: rest =>
      (basicFrom .content rest).map fun (text, rest) => (String.ofList text, rest)
  | '\'' :: rest =>
      (literalFrom rest).map fun (text, rest) => (String.ofList text, rest)
  | _ => none

def string? : Reader String
  | '"' :: '"' :: '"' :: rest =>
      (multilineBasicFrom .content (skipLineEnd rest)).map fun (text, rest) =>
        (String.ofList text, rest)
  | '\'' :: '\'' :: '\'' :: rest =>
      (multilineLiteralFrom (skipLineEnd rest)).map fun (text, rest) =>
        (String.ofList text, rest)
  | text => singleLine? text

end Quoted

end PocketCalc.Toml
