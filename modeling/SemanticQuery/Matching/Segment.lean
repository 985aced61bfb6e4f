import SemanticQuery.Loading
import SemanticQuery.Number.Word

/-!
# Segments

The places of a text at which a term may begin: every character, except those inside a protected
token that the scan has reached at its own start.
-/

namespace SemanticQuery.Matching

/-- A part of the text that is not divided. -/
structure ProtectedToken where
  /-- The number of characters before it. -/
  offset : Nat
  /-- The number of its characters. -/
  length : Nat
  deriving DecidableEq

/-- How a protected token is written. -/
def ProtectedToken.shape : Json.Shape ProtectedToken :=
  Json.Record.shape (ProtectedToken.mk <$> .required "offset" .count <*> .required "length" .count)

/-- The lengths of protected tokens by their offsets; of two at one offset the later counts. -/
def protectedRanges (tokens : List ProtectedToken) : List (Nat × Nat) :=
  SortedMap.ofList (tokens.map fun t => (t.offset, t.length))

/-- How far the scan goes on from an offset. -/
def stride (ranges : List (Nat × Nat)) (offset : Nat) : Nat :=
  match ranges.lookup offset with
  | some length => if 0 < length then length else 1
  | none => 1

theorem stride_pos (ranges : List (Nat × Nat)) (offset : Nat) : 0 < stride ranges offset := by
  unfold stride
  split
  · split <;> omega
  · omega

/-- The offsets from `offset` on at which a segment starts. Offsets are words: a token that ends
beyond the last one is refused where the scan would go on behind it. -/
def startsFrom (ranges : List (Nat × Nat)) (length offset : Nat) : Except Failure (List Nat) :=
  if offset < length then
    let next := offset + stride ranges offset
    if next < Number.wordBound then (startsFrom ranges length next).map (offset :: ·)
    else .error .overflow
  else .ok []
termination_by length - offset
decreasing_by
  have := stride_pos ranges offset
  omega

/-- The offsets at which a segment of a text starts. -/
def segmentStarts (length : Nat) (ranges : List (Nat × Nat)) : Except Failure (List Nat) :=
  startsFrom ranges length 0

/-- A text divided in two. -/
structure Segment where
  /-- What comes before the start. -/
  before : String
  /-- What comes behind it. -/
  rest : String
  deriving DecidableEq

/-- The segment that starts at an offset. -/
def segmentAt (text : List Char) (offset : Nat) : Segment :=
  ⟨String.ofList (text.take offset), String.ofList (text.drop offset)⟩

end SemanticQuery.Matching
