/-!
# Files to read

What a program can learn of the files around it: whether a path leads anywhere, and the bytes of
the file it leads to, or why they cannot be had.
-/

namespace PocketCalc

/-- Why a file could not be read. -/
inductive FileError where
  | notFound
  | isDirectory
  | notDirectory
  | nameTooLong
  | notText
  | other (reason : String)
  deriving DecidableEq, Repr

/-- The usual wording, with the number that the operating system gives the error. -/
def FileError.message : FileError → String
  | .notFound => "No such file or directory (os error 2)"
  | .isDirectory => "Is a directory (os error 21)"
  | .notDirectory => "Not a directory (os error 20)"
  | .nameTooLong => "File name too long (os error 36)"
  | .notText => "stream did not contain valid UTF-8"
  | .other reason => reason

structure Files where
  contains : String → Bool
  bytes : String → Except FileError ByteArray

/-- The text of a file, whose bytes must be UTF-8. -/
def Files.text (files : Files) (path : String) : Except FileError String :=
  match files.bytes path with
  | .error error => .error error
  | .ok bytes =>
      match String.fromUTF8? bytes with
      | some text => .ok text
      | none => .error .notText

end PocketCalc
