import SemanticQuery.Filter
import SemanticQuery.Schema

/-!
# Requests

What a correction knows besides the query.
-/

namespace SemanticQuery.Correction

/-- The circumstances of a query. -/
structure Request where
  schema : Schema
  /-- The models that the query is about; none stand for all. -/
  models : List Int
  /-- The tenant who asks. -/
  tenant : Option Int
  filters : List Filter
  /-- The text of the reference date. -/
  date : Option String

end SemanticQuery.Correction
