import SemanticQuery.Matching.Search

/-!
# Reports

The outcome of a search as a document: a list with one object for every segment, in the order of
the text.
-/

namespace SemanticQuery.Matching

open Dictionary Json

/-- Texts as a document. -/
def textsDocument (texts : List String) : Value := .array (texts.map .string)

/-- A hit as a document. -/
def hitDocument (h : Hit) : Value :=
  .object [("surface_form", .string h.surface), ("natures", textsDocument h.tags),
    ("originating_segment", .string h.segment)]

/-- A segment as a document. -/
def segmentDocument (s : Segment) : Value :=
  .object [("reg_text", .string s.before), ("detect_segment", .string s.rest)]

/-- The hits of segments as a document. -/
def report (found : List (Segment × List Hit)) : Value :=
  .array (found.map fun (s, hits) =>
    .object [("segment", segmentDocument s), ("matches", .array (hits.map hitDocument))])

end SemanticQuery.Matching
