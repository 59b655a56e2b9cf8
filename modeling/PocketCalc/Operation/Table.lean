import PocketCalc.Operation.Basic

/-!
# Tables of operations

A table gives symbols their operations, each symbol at most one.  Two tables with the same look-ups
behave alike; the order of the entries never shows.
-/

namespace PocketCalc

/-- Symbols and their operations, no symbol twice. -/
structure OperationTable where
  entries : List (String × Operation)
  distinct : (entries.map Prod.fst).Nodup

namespace OperationTable

def empty : OperationTable where
  entries := []
  distinct := List.nodup_nil

def get? (table : OperationTable) (symbol : String) : Option Operation :=
  table.entries.lookup symbol

def contains (table : OperationTable) (symbol : String) : Bool :=
  (table.get? symbol).isSome

def erase (table : OperationTable) (symbol : String) : OperationTable where
  entries := table.entries.filter (·.1 != symbol)
  distinct := table.distinct.sublist (List.filter_sublist.map Prod.fst)

/-- The table with one operation added, in place of what the symbol had before. -/
def insert (table : OperationTable) (symbol : String) (operation : Operation) :
    OperationTable where
  entries := (symbol, operation) :: (table.erase symbol).entries
  distinct := by
    rw [List.map_cons, List.nodup_cons]
    exact ⟨by simp [erase], (table.erase symbol).distinct⟩

def symbols (table : OperationTable) : List String :=
  (table.entries.map Prod.fst).mergeSort (fun first second => decide (first ≤ second))

/-! ## Look-ups -/

@[simp]
theorem get?_empty (symbol : String) : empty.get? symbol = none :=
  rfl

theorem lookup_filter_ne (entries : List (String × Operation)) (symbol tested : String) :
    (entries.filter (·.1 != symbol)).lookup tested =
      if tested = symbol then none else entries.lookup tested := by
  induction entries with
  | nil =>
      simp
  | cons entry entries inductionHypothesis =>
      obtain ⟨name, operation⟩ := entry
      by_cases erased : name = symbol
      · subst erased
        have dropped :
            ((name, operation) :: entries).filter (·.1 != name) =
              entries.filter (·.1 != name) := by
          simp
        rw [dropped, inductionHypothesis]
        by_cases same : tested = name
        · simp [same]
        · have differs : (tested == name) = false := by simpa using same
          simp [same, List.lookup_cons, differs]
      · by_cases same : tested = name
        · subst same
          simp [erased]
        · have differs : (tested == name) = false := by simpa using same
          simp [inductionHypothesis, erased, List.lookup_cons, differs]

@[simp]
theorem get?_erase (table : OperationTable) (symbol tested : String) :
    (table.erase symbol).get? tested =
      if tested = symbol then none else table.get? tested :=
  lookup_filter_ne table.entries symbol tested

@[simp]
theorem get?_insert
    (table : OperationTable) (symbol tested : String) (operation : Operation) :
    (table.insert symbol operation).get? tested =
      if tested = symbol then some operation else table.get? tested := by
  by_cases same : tested = symbol
  · simp [get?, insert, same]
  · have differs : (tested == symbol) = false := by simpa using same
    simpa [get?, insert, List.lookup_cons, differs, same] using
      get?_erase table symbol tested

end OperationTable

end PocketCalc
