import PocketCalc.Text.ExtendingMark
import PocketCalc.Text.Unprintable

/-!
# Quoted text

A text between double quotes, on one line and with every character visible: the quote and the
backslash get a backslash, five controls have a letter, and other characters that would not show,
or would be drawn onto the one before, are written by their code point.

The letters that would not show are those with the Unicode property `Default_Ignorable_Code_Point`:
the Hangul fillers, which stand in the place of a missing letter and leave it blank.
-/

namespace PocketCalc.Text

/-- The four fillers: for a leading consonant, for a vowel, and for a whole syllable in its wide and
halfwidth forms. -/
def fillers : List Char :=
  ['\u115f', '\u1160', '\u3164', '\uffa0']

def isFiller (character : Char) : Bool :=
  fillers.contains character

/-- A character by its code point, in lower-case hexadecimal. -/
def codePointEscape (character : Char) : List Char :=
  "\\u\x7b".toList ++ Nat.toDigits 16 character.toNat ++ ['}']

def escapeChar (character : Char) : List Char :=
  if character = '\x00' then
    ['\\', '0']
  else if character = '\t' then
    ['\\', 't']
  else if character = '\r' then
    ['\\', 'r']
  else if character = '\n' then
    ['\\', 'n']
  else if character = '"' || character = '\\' then
    ['\\', character]
  else if isExtendingMark character || isFiller character || isUnprintable character then
    codePointEscape character
  else
    [character]

def quote (text : String) : String :=
  String.ofList ('"' :: text.toList.flatMap escapeChar ++ ['"'])

def quoteList (texts : List String) : String :=
  "[" ++ ", ".intercalate (texts.map quote) ++ "]"

end PocketCalc.Text
