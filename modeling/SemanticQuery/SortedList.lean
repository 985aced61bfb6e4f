/-!
# Sorted lists

Sets as ascending lists in which nothing stands twice.
-/

namespace SemanticQuery.SortedList

variable {α : Type} [LT α] [DecidableLT α] [DecidableEq α]

/-- The set with one more member. -/
def insert (a : α) : List α → List α
  | [] => [a]
  | b :: bs => if a < b then a :: b :: bs else if a = b then b :: bs else b :: insert a bs

/-- The members of a list. -/
def ofList (as : List α) : List α := as.foldr insert []

end SemanticQuery.SortedList
