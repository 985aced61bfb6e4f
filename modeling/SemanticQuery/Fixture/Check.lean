import SemanticQuery.FileTree
import SemanticQuery.Fixture.Kind

/-!
# Checking fixtures

Every fixture of a directory and of the directories below it is checked, whatever the others are
like. A directory is valid if no fixture in it or below it is defective.
-/

namespace SemanticQuery.Fixture

/-- A fixture that cannot be loaded. -/
structure Defect where
  file : String
  kind : Kind
  failure : Failure
  deriving DecidableEq

/-- What is said on the way. -/
inductive Note where
  /-- A JSON file is no fixture. -/
  | skipped (file : String)
  /-- A directory is valid and holds so many fixtures. -/
  | valid (count : Nat)
  deriving DecidableEq

/-- What a check has found. -/
structure Findings where
  /-- The number of fixtures that lie directly in the directory. -/
  count : Nat
  notes : List Note
  defects : List Defect
  deriving DecidableEq

namespace Findings

/-- Nothing has been found. -/
def none : Findings := ⟨0, [], []⟩

/-- The findings of two parts of a directory. -/
def and (a b : Findings) : Findings :=
  ⟨a.count + b.count, a.notes ++ b.notes, a.defects ++ b.defects⟩

/-- The findings of a directory, to those around it: it is valid if nothing in it is defective. -/
def close (f : Findings) : Findings :=
  ⟨0, if f.defects.isEmpty then f.notes ++ [.valid f.count] else f.notes, f.defects⟩

/-- The findings of a file. -/
def ofFile (file text : String) : Findings :=
  if isDocument file then
    match Kind.ofFileName? file with
    | some kind =>
      match kind.check text with
      | .ok _ => ⟨1, [], []⟩
      | .error failure => ⟨1, [], [⟨file, kind, failure⟩]⟩
    | .none => ⟨0, [.skipped file], []⟩
  else none

mutual

/-- The findings of what lies under a name. -/
def ofTree (name : String) : FileTree → Findings
  | .file text => ofFile name text
  | .directory entries => (ofEntries entries).close

/-- The findings of what lies in a directory. -/
def ofEntries : List (String × FileTree) → Findings
  | [] => none
  | (name, t) :: rest => (ofTree name t).and (ofEntries rest)

end

end Findings

/-- The findings of a directory. -/
def check (entries : List (String × FileTree)) : Findings := (Findings.ofEntries entries).close

end SemanticQuery.Fixture
