/-!
# Sorted maps

Finite maps as lists of keys and values in the ascending order of their keys.
-/

namespace SemanticQuery.SortedMap

variable {α β : Type} [LT α] [DecidableLT α] [DecidableEq α]

/-- The map with another value under one key. The function gets the value that is there, if any,
and gives the value that shall be there, if any. -/
def alter (key : α) (f : Option β → Option β) : List (α × β) → List (α × β)
  | [] => (f none).toList.map (key, ·)
  | (k, b) :: rest =>
    if key < k then (f none).toList.map (key, ·) ++ (k, b) :: rest
    else if key = k then (f (some b)).toList.map (key, ·) ++ rest
    else (k, b) :: alter key f rest

/-- The map with a value under a key. -/
def insert (key : α) (b : β) (m : List (α × β)) : List (α × β) := alter key (fun _ => some b) m

/-- The map of pairs; of several under one key the last counts. -/
def ofList (pairs : List (α × β)) : List (α × β) :=
  pairs.foldl (fun m (key, b) => insert key b m) []

end SemanticQuery.SortedMap
