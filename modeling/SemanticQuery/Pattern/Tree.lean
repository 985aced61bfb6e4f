import SemanticQuery.Pattern.CharClass

/-!
# Patterns

What a pattern asks of a text. Of several ways to match, the ones written first are preferred,
and a greedy repetition prefers to go on.
-/

namespace SemanticQuery.Pattern

/-- Conditions on a place between characters. -/
inductive Anchor where
  | textStart
  | textEnd
  /-- After a line feed or at the start; `carriage` tells that a carriage return ends a line too. -/
  | lineStart (carriage : Bool)
  | lineEnd (carriage : Bool)
  /-- Where a word begins or ends; `basic` tells that words are of the basic character set. -/
  | wordEdge (basic : Bool)
  | noWordEdge (basic : Bool)
  | wordStart (basic : Bool)
  | wordEnd (basic : Bool)
  /-- Where no word goes on to the left. -/
  | halfStart (basic : Bool)
  /-- Where no word goes on to the right. -/
  | halfEnd (basic : Bool)
  deriving DecidableEq

/-- A pattern. -/
inductive Tree where
  | empty
  /-- One character of a class. -/
  | char (c : CharClass)
  | anchor (a : Anchor)
  /-- The first pattern and then the second. -/
  | seq (first second : Tree)
  /-- The first pattern or else the second. -/
  | alt (first second : Tree)
  /-- The pattern several times. -/
  | times (greedy : Bool) (least : Nat) (most : Option Nat) (body : Tree)

/-- The patterns one after the other. -/
def Tree.seqAll : List Tree → Tree
  | [] => .empty
  | t :: ts => ts.foldl .seq t

/-- The first pattern that matches. -/
def Tree.altAll : Tree → List Tree → Tree
  | t, [] => t
  | t, u :: us => .alt t (altAll u us)

end SemanticQuery.Pattern
