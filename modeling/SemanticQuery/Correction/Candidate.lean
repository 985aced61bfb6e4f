import SemanticQuery.Candidate
import SemanticQuery.Correction.Pass

/-!
# Corrected candidates

A correction keeps the query of a candidate as it was generated, and notes the corrected one.
-/

namespace SemanticQuery

/-- The candidate with its query corrected. -/
def Candidate.withCorrection (c : Config) (r : Correction.Request) (x : Candidate) : Candidate :=
  { x with sql := { x.sql with corrected := Correction.correct c r x.sql.raw } }

end SemanticQuery
