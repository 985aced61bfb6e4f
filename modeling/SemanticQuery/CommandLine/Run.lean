import SemanticQuery.CommandLine.Call
import SemanticQuery.Config
import SemanticQuery.Correction.Pass
import SemanticQuery.Matching.Report

/-!
# Runs

What a call prints, given the texts of the files that it reads. A run that fails prints nothing
and ends with a code other than zero.
-/

namespace SemanticQuery.CommandLine

/-- The texts of the files that can be read, by their paths. -/
abbrev Files : Type := String → Option String

/-- What a loader makes of a file. -/
def Files.load {α : Type} (files : Files) (load : String → Except Failure α) (path : String) :
    Except Failure α :=
  match files path with
  | some text => load text
  | none => .error .file

/-- What a loader makes of a file that need not be given. -/
def Files.loadOr {α : Type} (files : Files) (load : String → Except Failure α) (missing : α) :
    Option String → Except Failure α
  | some path => files.load load path
  | none => .ok missing

/-- What a task prints under some settings. -/
def Task.print (files : Files) (c : Config) : Task → Except Failure String
  | .search dictionary text tenant models tokens => do
    let entries ← files.load Dictionary.Entries.load dictionary
    let index := Dictionary.Index.ofSnapshot c.searchSize (.ofEntries entries)
    let scope := if models.isEmpty then .all else .models (SortedList.ofList models)
    let query : Matching.Query :=
      ⟨text, tenant.getD 0, scope, Matching.protectedRanges tokens⟩
    let (found, _) ← Matching.matchText c.segmentSearchSize query index
    return (Matching.report found).layOut 0 ++ "\n"
  | .correct schema sql models tenant date filters => do
    let schema ← files.load Schema.load schema
    let filters ← files.loadOr Filter.loadAll [] filters
    let request : Correction.Request := ⟨schema, SortedList.ofList models, tenant, filters, date⟩
    let corrected ← Correction.correct? c request sql
    return corrected ++ "\n"

/-- What a call prints. -/
def Call.print (files : Files) (call : Call) : Except Failure String := do
  let c ← files.loadOr Config.load Config.standard call.config
  call.task.print files c

/-! ### Outcomes -/

/-- How a run ends. -/
inductive Outcome where
  /-- The run printed a text. -/
  | printed (text : String)
  /-- The call is void. -/
  | void
  /-- The call could not be answered. -/
  | failed (f : Failure)
  deriving DecidableEq

namespace Outcome

/-- The code with which a run ends. -/
def code : Outcome → Nat
  | .printed _ => 0
  | .failed .overflow => 101
  | _ => 2

/-- The text that a run prints. -/
def output : Outcome → String
  | .printed text => text
  | _ => ""

end Outcome

/-- How the program answers its arguments. -/
def run (files : Files) (args : List String) : Outcome :=
  match Call.read args with
  | .error (.summary text) => .printed text
  | .error .void => .void
  | .ok call =>
    match call.print files with
    | .ok text => .printed text
    | .error f => .failed f

end SemanticQuery.CommandLine
