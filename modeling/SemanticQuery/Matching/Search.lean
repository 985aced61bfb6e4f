import SemanticQuery.Dictionary.Index
import SemanticQuery.Matching.Segment

/-!
# Matching

The dictionary terms with which the rest of a text begins, or which end with it, at every place
where a term may begin.
-/

namespace SemanticQuery.Matching

open Dictionary

/-- What bounds a match. -/
structure Query where
  text : String
  /-- The tenant who asks; zero stands for none. -/
  tenant : Int
  scope : Scope
  /-- The lengths of protected tokens by their offsets. -/
  ranges : List (Nat × Nat)

/-- Whether a hit names something besides entities. -/
def isKept (h : Hit) : Bool := h.tags.any fun t => !isEntity t

/-- The hits of one segment: the terms with which it begins, then those that end with it. -/
def matchSegment (limit : Nat) (q : Query) (i : Index) (s : Segment) : List Hit × Index :=
  let (begun, i) := i.lookupPrefix q.tenant s.rest limit q.scope
  ((begun ++ i.lookupSuffix s.rest limit q.scope).filter isKept, i)

/-- The hits of several segments. -/
def matchSegments (limit : Nat) (q : Query) (i : Index) :
    List Segment → List (Segment × List Hit) × Index
  | [] => ([], i)
  | s :: rest =>
    let (hits, i) := matchSegment limit q i s
    let (found, i) := matchSegments limit q i rest
    ((s, hits) :: found, i)

/-- The segments of a text. -/
def Query.segments (q : Query) : Except Failure (List Segment) :=
  let text := q.text.toList
  (segmentStarts text.length q.ranges).map (·.map (segmentAt text))

/-- The hits of every segment of a text. -/
def matchText (limit : Nat) (q : Query) (i : Index) :
    Except Failure (List (Segment × List Hit) × Index) :=
  q.segments.map (matchSegments limit q i)

end SemanticQuery.Matching
