import SemanticQuery.Failure
import SemanticQuery.Json.Shape

/-!
# Loading documents

A document is loaded whole or not at all.
-/

namespace SemanticQuery

/-- What a shape reads from a text. -/
def Json.Shape.load {α : Type} (s : Json.Shape α) (text : String) : Except Failure α :=
  match s.readText text with
  | some a => .ok a
  | none => .error .document

end SemanticQuery
