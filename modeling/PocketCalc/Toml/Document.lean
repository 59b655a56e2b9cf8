import PocketCalc.Toml.Statement

/-!
# TOML documents

A document is one table.  The statements before the first header fill it directly; every header
opens one table more, which the statements up to the next header fill.
-/

namespace PocketCalc.Toml

abbrev Assignment :=
  List String × Value

/-- A header with the assignments under it. -/
structure Section where
  path : List String
  inList : Bool
  assignments : List Assignment

namespace Section

/-- The assignments before the first header, and the sections. -/
def split : List Statement → List Assignment × List Section
  | [] => ([], [])
  | .assign path value :: statements =>
      let (assignments, sections) := split statements
      ((path, value) :: assignments, sections)
  | .header path :: statements =>
      let (assignments, sections) := split statements
      ([], { path := path, inList := false, assignments := assignments } :: sections)
  | .listHeader path :: statements =>
      let (assignments, sections) := split statements
      ([], { path := path, inList := true, assignments := assignments } :: sections)

/-- Carry out assignments one by one. -/
def fill (entries : Entries) (assignments : List Assignment) : Option Entries :=
  assignments.foldlM (fun entries (path, value) => entries.assign path value) entries

/-- The value that a section leaves at its path, given what was there.  A table may have been
implied before its header; a list of tables gets one table more. -/
def place (part : Section) : Option Value → Option Value
  | none =>
      (fill [] part.assignments).map fun entries =>
        if part.inList then .tables [entries] else .table .headed entries
  | some (.table .implied entries) =>
      if part.inList then
        none
      else
        (fill entries part.assignments).map (.table .headed ·)
  | some (.tables members) =>
      if part.inList then
        (fill [] part.assignments).map fun entries => .tables (members ++ [entries])
      else
        none
  | some _ => none

end Section

def read? (text : String) : Option Entries := do
  let statements ← Statement.readAll? text.toList
  let (assignments, sections) := Section.split statements
  let entries ← Section.fill [] assignments
  sections.foldlM (fun entries part => Entries.openAt entries part.place part.path) entries

end PocketCalc.Toml
