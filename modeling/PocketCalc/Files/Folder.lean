import PocketCalc.Files.Basic

/-!
# The files of a folder

A folder is filled by putting entries at paths, one after the other, and a path is followed from it
one name at a time.  A dot stays where it is and two dots lead one level up, for the one as for the
other; what lies above the folder, or beside it, is not known, so names lead nowhere from there.
-/

namespace PocketCalc

/-- What a path can lead to. -/
inductive FileEntry where
  | file (bytes : ByteArray)
  | folder

/-- The entries in a folder and in the folders below it, by the names on the way to them, the latest
first. -/
structure Folder where
  entries : List (List String × FileEntry) := []

/-- Where a path has led so far: into the folder, by the names on the way, or above it. -/
inductive Place where
  | inside (names : List String)
  | above

namespace Folder

/-- The greatest size of a name, in bytes. -/
def nameLimit : Nat :=
  255

/-- Paths of this size, in bytes, are refused. -/
def pathLimit : Nat :=
  4096

/-- What lies at the end of some names.  The folder itself is there, and so is every folder that has
something in it, listed or not. -/
def entry? (folder : Folder) (names : List String) : Option FileEntry :=
  match folder.entries.lookup names with
  | some entry => some entry
  | none =>
      if names.isEmpty || folder.entries.any (fun entry => names.isPrefixOf entry.1) then
        some .folder
      else
        none

/-! ## Filling -/

/-- Take one name towards a place for an entry; there may be nothing there yet, but no place lies
below a file or above the folder. -/
def approach? (folder : Folder) (names : List String) (name : String) : Option (List String) :=
  match folder.entry? names with
  | some (.file _) => none
  | some .folder | none =>
      if name = "" ∨ name = "." then
        some names
      else if name = ".." then
        if names.isEmpty then none else some names.dropLast
      else
        some (names ++ [name])

/-- The place for an entry at a path, by the names on the way to it. -/
def place? (folder : Folder) (path : String) : Option (List String) :=
  if path.startsWith "/" then
    none
  else
    (path.splitOn "/").foldlM folder.approach? []

/-- Put an entry at a path.  It takes the place of an entry of its own kind; where there is no place
for it, or one of the other kind, the folder stays as it is. -/
def put (folder : Folder) (path : String) (entry : FileEntry) : Folder :=
  match folder.place? path with
  | none => folder
  | some names =>
      match folder.entry? names, entry with
      | some (.file _), .folder => folder
      | some .folder, .file _ => folder
      | _, entry => { entries := (names, entry) :: folder.entries }

/-! ## Reading -/

/-- Follow one name; only a folder can be left by a name, a dot included. -/
def follow (folder : Folder) (place : Place) (name : String) : Except FileError Place :=
  match place with
  | .above =>
      if name = "" ∨ name = "." ∨ name = ".." then
        .ok .above
      else if nameLimit < name.utf8ByteSize then
        .error .nameTooLong
      else
        .error .notFound
  | .inside names =>
      match folder.entry? names with
      | some (.file _) => .error .notDirectory
      | none => .error .notFound
      | some .folder =>
          if name = "" ∨ name = "." then
            .ok place
          else if name = ".." then
            .ok (if names.isEmpty then .above else .inside names.dropLast)
          else if nameLimit < name.utf8ByteSize then
            .error .nameTooLong
          else if (folder.entry? (names ++ [name])).isSome then
            .ok (.inside (names ++ [name]))
          else
            .error .notFound

/-- Follow a path to its end.  A leading slash starts above the folder. -/
def resolve (folder : Folder) (path : String) : Except FileError Place :=
  if path = "" then
    .error .notFound
  else if pathLimit ≤ path.utf8ByteSize then
    .error .nameTooLong
  else
    let start := if path.startsWith "/" then Place.above else Place.inside []
    (path.splitOn "/").foldlM folder.follow start

def bytes (folder : Folder) (path : String) : Except FileError ByteArray :=
  match folder.resolve path with
  | .error error => .error error
  | .ok .above => .error .isDirectory
  | .ok (.inside names) =>
      match folder.entry? names with
      | some (.file bytes) => .ok bytes
      | some .folder => .error .isDirectory
      | none => .error .notFound

def files (folder : Folder) : Files where
  contains path := (folder.resolve path).isOk
  bytes path := folder.bytes path

end Folder

end PocketCalc
