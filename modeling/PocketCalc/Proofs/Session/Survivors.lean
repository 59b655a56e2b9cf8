import Mathlib.Data.List.DropRight
import PocketCalc.Operation.Standard
import PocketCalc.Session

/-!
# What survives in a session

A session runs through its changes from the first to the last: an entry comes in at the end, an undo
takes the last entry away if there is one, and starting again takes all of them away.  The entries
that are left can also be found from the other end, without any program, by looking at the latest
change first:

* nothing before a `clear` counts;
* an `undo` is one more entry to leave out;
* an entry is left out if one is still to be left out, and survives if none is.

Undos that find nothing to take back are still counted when they are met from behind, but they are
met before there is an entry to leave out, at the beginning or right after a `clear`.  The invariant
is therefore about any number of entries still to be left out: the scan finds the program without
that many of its last entries.
-/

namespace PocketCalc

namespace Edit

/-- The entries that survive, found from changes of which the latest comes first, when as many of
the next entries as `skipped` says are to be left out. -/
def survivorsFrom : (skipped : Nat) → (latestFirst : List Edit) → Program
  | _, [] => []
  | _, .clear :: _ => []
  | skipped, .undo :: earlier => survivorsFrom (skipped + 1) earlier
  | skipped + 1, .append _ :: earlier => survivorsFrom skipped earlier
  | 0, .append instruction :: earlier => survivorsFrom 0 earlier ++ [instruction]

/-- The entries that survive, in the order in which they were made. -/
def survivors (changes : List Edit) : Program :=
  survivorsFrom 0 changes.reverse

end Edit

/-! ## Programs -/

namespace Program

/-- The program after changes that are made one after the other. -/
def applyAll (program : Program) (changes : List Edit) : Program :=
  changes.foldl apply program

variable (program : Program)

@[simp]
theorem applyAll_nil : program.applyAll [] = program :=
  rfl

@[simp]
theorem applyAll_cons (change : Edit) (changes : List Edit) :
    program.applyAll (change :: changes) = (program.apply change).applyAll changes :=
  rfl

@[simp]
theorem applyAll_append (first second : List Edit) :
    program.applyAll (first ++ second) = (program.applyAll first).applyAll second :=
  List.foldl_append

theorem applyAll_map_append (entries : Program) :
    program.applyAll (entries.map .append) = program ++ entries := by
  induction entries generalizing program with
  | nil =>
      rw [List.map_nil, applyAll_nil, List.append_nil]
  | cons entry entries inductionHypothesis =>
      rw [List.map_cons, applyAll_cons, inductionHypothesis, apply, List.append_assoc,
        List.singleton_append]

theorem applyAll_undo_of_empty (count : Nat) :
    applyAll [] (List.replicate count .undo) = [] := by
  induction count with
  | zero =>
      rfl
  | succ count inductionHypothesis =>
      rw [List.replicate_succ, applyAll_cons]
      exact inductionHypothesis

/-- Taking one more entry back is leaving one more out. -/
theorem rdrop_dropLast (skipped : Nat) :
    List.rdrop program.dropLast skipped = List.rdrop program (skipped + 1) := by
  rw [List.rdrop, List.rdrop, List.dropLast_eq_take, List.take_take, List.length_take]
  congr 1
  omega

/-- Scanned from behind, changes leave the program that they make, without the entries that are
still to be left out. -/
theorem survivorsFrom_reverse (changes : List Edit) (skipped : Nat) :
    Edit.survivorsFrom skipped changes.reverse = List.rdrop (applyAll [] changes) skipped := by
  induction changes using List.reverseRecOn generalizing skipped with
  | nil =>
      rw [List.reverse_nil, applyAll_nil, List.rdrop_nil]
      rfl
  | append_singleton changes change inductionHypothesis =>
      rw [List.reverse_append, List.reverse_singleton, List.singleton_append, applyAll_append,
        applyAll_cons, applyAll_nil]
      cases change with
      | append instruction =>
          cases skipped with
          | zero =>
              rw [Edit.survivorsFrom, inductionHypothesis, apply, List.rdrop_zero, List.rdrop_zero]
          | succ skipped =>
              rw [Edit.survivorsFrom, inductionHypothesis, apply, List.rdrop_concat_succ]
      | undo =>
          rw [Edit.survivorsFrom, inductionHypothesis, apply, rdrop_dropLast]
      | clear =>
          rw [Edit.survivorsFrom, apply, List.rdrop_nil]

theorem applyAll_eq_survivors (changes : List Edit) :
    applyAll [] changes = Edit.survivors changes := by
  rw [Edit.survivors, survivorsFrom_reverse, List.rdrop_zero]

end Program

/-! ## Sessions -/

namespace Session

/-- The session after changes that are made one after the other. -/
def editAll (session : Session) (changes : List Edit) : Session :=
  changes.foldl edit session

theorem editAll_eq (session : Session) (changes : List Edit) :
    session.editAll changes = { session with program := session.program.applyAll changes } := by
  induction changes generalizing session with
  | nil =>
      rfl
  | cons change changes inductionHypothesis =>
      exact inductionHypothesis (session.edit change)

theorem editAll_append (session : Session) (first second : List Edit) :
    session.editAll (first ++ second) = (session.editAll first).editAll second :=
  List.foldl_append

theorem editAll_undo_of_empty {session : Session} (empty : session.program = []) (count : Nat) :
    session.editAll (List.replicate count .undo) = session := by
  obtain ⟨program, table, format⟩ := session
  subst empty
  rw [editAll_eq, Program.applyAll_undo_of_empty]

theorem editAll_append_undo (session : Session) (instruction : Instruction) :
    session.editAll [.append instruction, .undo] = session := by
  rw [editAll_eq, Program.applyAll_cons, Program.applyAll_cons, Program.applyAll_nil,
    Program.apply_append_undo]

/-- A session keeps the entries that survive its changes, in order, and nothing else: it is
evaluated like a session that was given only these.  Undos do nothing while the program is empty, an
entry that is taken back at once leaves no trace, and starting again leaves nothing to evaluate. -/
theorem evaluate_editAll
    (table : OperationTable) (format : NumberFormat) (changes : List Edit)
    (bindings : Bindings) (draws : Draws) :
    let fresh : Session := { table := table, format := format }
    (fresh.editAll changes).program = Edit.survivors changes ∧
      (fresh.editAll changes).evaluate bindings draws =
        (fresh.editAll ((Edit.survivors changes).map .append)).evaluate bindings draws ∧
      ((fresh.editAll changes).program = [] → ∀ count : Nat,
        fresh.editAll (changes ++ List.replicate count .undo) = fresh.editAll changes) ∧
      (∀ instruction : Instruction,
        fresh.editAll (changes ++ [.append instruction, .undo]) = fresh.editAll changes) ∧
      (fresh.editAll (changes ++ [.clear])).evaluate bindings draws =
        { result? := none, pending := false, description := " " } := by
  intro fresh
  have program : (fresh.editAll changes).program = Edit.survivors changes := by
    rw [editAll_eq, ← Program.applyAll_eq_survivors]
  refine ⟨program, ?_, ?_, ?_, ?_⟩
  · have replayed :
        fresh.editAll ((Edit.survivors changes).map .append) = fresh.editAll changes := by
      rw [editAll_eq, editAll_eq, Program.applyAll_map_append, ← Program.applyAll_eq_survivors]
      rfl
    rw [replayed]
  · intro empty count
    rw [editAll_append, editAll_undo_of_empty empty]
  · intro instruction
    rw [editAll_append, editAll_append_undo]
  · rw [editAll_append]
    rfl

/-- Two undos find nothing behind the `clear`, and the last one takes back the root. -/
theorem evaluate_editAll_excessUndos :
    let fresh : Session := { table := .standard, format := {} }
    let cleared : List Edit := [.append (.operand 4.0), .append (.symbol "+"), .clear]
    let changes : List Edit :=
      cleared ++ [.undo, .undo, .append (.operand 9.0), .append (.symbol "√"), .undo]
    (fresh.editAll cleared).program = [] ∧
      fresh.editAll (cleared ++ [.undo, .undo]) = fresh.editAll cleared ∧
      (fresh.editAll changes).program = [.operand 9.0] ∧
      (fresh.editAll changes).evaluate [("M", 1.0)] (Draws.ofSeed 0) =
        { result? := some 9.0, pending := false, description := "9" } := by
  intro fresh cleared changes
  have empty : (fresh.editAll cleared).program = [] := rfl
  obtain ⟨_, _, idle, _⟩ :=
    evaluate_editAll .standard {} cleared [("M", 1.0)] (Draws.ofSeed 0)
  obtain ⟨program, evaluation, _⟩ :=
    evaluate_editAll .standard {} changes [("M", 1.0)] (Draws.ofSeed 0)
  refine ⟨empty, idle empty 2, program, evaluation.trans ?_⟩
  decide +kernel

end Session

end PocketCalc
