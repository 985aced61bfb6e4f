import SemanticQuery.Dictionary.Snapshot

/-!
# Look-ups

Terms that begin or end with a text. A look-up gives a bounded number of them, the longest first.
The terms of everyone hide those of the tenant who asks.
-/

namespace SemanticQuery.Dictionary

/-- The models whose terms may be found. -/
inductive Scope where
  | all
  | models (ids : List Int)

/-- Whether tags are in scope. -/
def Scope.accepts : Scope → List String → Bool
  | .all, _ => true
  | .models ids, tags => belongsToAny tags ids

/-- A term that was found. -/
structure Hit where
  /-- The term in small letters. -/
  surface : String
  tags : List String
  /-- The text that it was found for. -/
  segment : String
  deriving DecidableEq

/-- The hits with the longest term first, at most `size`. -/
def rank (size : Nat) (hits : List Hit) : List Hit :=
  (hits.mergeSort fun a b => decide (b.surface.length ≤ a.surface.length)).take size

/-- The hit of a key that was found for a text. -/
def Hit.ofEntry (text : String) : Key × List String → Hit
  | (key, tags) => ⟨String.ofList (surfaceOf key), tags, text⟩

/-- The hit of a reversed key that was found for the ending of a text. -/
def Hit.ofReversed (text : String) : Key × List String → Hit
  | (key, tags) => ⟨String.ofList (surfaceOf key).reverse, tags.map withoutMarks, text⟩

namespace Snapshot

/-- The first keys in everyone's terms that begin with a key, or else in those of the tenant, who
from then on has a trie. -/
def findPrefix (s : Snapshot) (tenant : Int) (key : Key) (limit : Nat) (scope : Scope) :
    List (Key × List String) × Snapshot :=
  let found := s.forward.search key limit scope.accepts
  if found.isEmpty && 0 < tenant then
    ((s.tenantTrie tenant).search key limit scope.accepts, s.register tenant)
  else (found, s)

/-- The terms that begin with a text. -/
def lookupPrefix (s : Snapshot) (size : Nat) (tenant : Int) (text : String) (limit : Nat)
    (scope : Scope) : List Hit × Snapshot :=
  let (found, s) := s.findPrefix tenant (keyOf text) limit scope
  (rank size (found.map (Hit.ofEntry text)), s)

/-- The terms that end with a text. -/
def lookupSuffix (s : Snapshot) (size : Nat) (text : String) (limit : Nat) (scope : Scope) :
    List Hit :=
  let found := s.suffix.search (keyOf (reversed text)) limit scope.accepts
  rank size (found.map (Hit.ofReversed text))

end Snapshot

end SemanticQuery.Dictionary
