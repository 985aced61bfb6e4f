import SemanticQuery.Correction.DateDifference
import SemanticQuery.Correction.DefaultDate

/-!
# Passes

A query is corrected in four passes. A pass that fails is left out and the others go on; a text
that is no plain selection stays as it is.
-/

namespace SemanticQuery.Correction

/-- The passes of a correction. -/
inductive Pass where
  /-- Adds the default date. -/
  | dateDefault
  /-- Makes differences of dates executable. -/
  | dateDiff
  /-- Adds the conditions of filters. -/
  | filterInjection
  /-- Renames values. -/
  | aliasSubstitution
  deriving DecidableEq

namespace Pass

/-- The passes in the order of a correction. -/
def order : List Pass := [.dateDefault, .dateDiff, .filterInjection, .aliasSubstitution]

/-- The name of a pass. -/
def name : Pass → String
  | .dateDefault => "date_default"
  | .dateDiff => "date_diff"
  | .filterInjection => "filter_injection"
  | .aliasSubstitution => "alias_substitution"

/-- What a pass makes of a statement, or `none` if it leaves it alone. -/
def change (c : Config) (r : Request) (s : Sql.Statement) :
    Pass → Except Failure (Option Sql.Statement)
  | .dateDefault => .ok (addDate r c.timeDimensions s)
  | .dateDiff => .ok (if s.hasDateDifference then some s.executable else none)
  | .filterInjection => inject r c.tenantBizName s
  | .aliasSubstitution =>
    let renamings := r.schema.renamings r.models
    .ok (if 0 < s.renamedCount renamings then some (s.rename renamings) else none)

/-- The statement behind a pass. -/
def apply (c : Config) (r : Request) (s : Sql.Statement) (p : Pass) : Sql.Statement :=
  match p.change c r s with
  | .ok (some changed) => changed
  | _ => s

/-- The statement behind several passes. -/
def run (c : Config) (r : Request) (passes : List Pass) (s : Sql.Statement) : Sql.Statement :=
  passes.foldl (apply c r) s

end Pass

/-- The corrected text of a query. -/
def correct? (c : Config) (r : Request) (text : String) : Except Failure String :=
  (Sql.Statement.readSelection text).map fun s => (Pass.run c r Pass.order s).print

/-- The corrected text of a query, or the text itself if it is no plain selection. -/
def correct (c : Config) (r : Request) (text : String) : String :=
  match correct? c r text with
  | .ok corrected => corrected
  | .error _ => text

end SemanticQuery.Correction
