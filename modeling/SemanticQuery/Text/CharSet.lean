/-!
# Sets of characters

A set of characters as a list of spans. A span `(first, last, step)` holds every `step`-th
character from `first` to `last`, so that alternating capitals and small letters take one span.
-/

namespace SemanticQuery.Text

/-- A set of characters, given by its spans. -/
structure CharSet where
  /-- The spans `(first, last, step)`, in ascending order. -/
  spans : List (Nat × Nat × Nat)

namespace CharSet

/-- Whether a span holds the character with code `n`. -/
def spanHas (n : Nat) : Nat × Nat × Nat → Bool
  | (first, last, step) => first ≤ n && n ≤ last && (n - first) % step == 0

/-- Whether the set holds a character. -/
def contains (s : CharSet) (c : Char) : Bool :=
  s.spans.any (spanHas c.toNat)

end CharSet

end SemanticQuery.Text
