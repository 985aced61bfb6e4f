import SemanticQuery.Dictionary.Tag
import SemanticQuery.SortedMap

/-!
# Tries

Terms with their tags, stored by their characters: every branch is one more character, and the
branches stand in the order of their characters. Below a branch there is always a term.
-/

namespace SemanticQuery.Dictionary

/-- A key of a trie. -/
abbrev Key : Type := List Char

/-- A tree of characters. A node has tags where a key ends. -/
inductive Trie where
  | node (tags : Option (List String)) (branches : List (Char × Trie))

namespace Trie

/-- The trie without keys. -/
def empty : Trie := .node none []

/-- The tags of the key that ends at the node. -/
def tags : Trie → Option (List String)
  | node tags _ => tags

/-- The branches of the node. -/
def branches : Trie → List (Char × Trie)
  | node _ branches => branches

/-- Whether there is neither a key nor a branch. -/
def isDead (t : Trie) : Bool := t.tags.isNone && t.branches.isEmpty

/-! ### Keys -/

/-- What lies below the characters of a key. -/
def descend : Key → Trie → Option Trie
  | [], t => some t
  | c :: key, t => (t.branches.lookup c).bind (descend key)

/-- The tags of a key. -/
def get? (t : Trie) (key : Key) : Option (List String) := (descend key t).bind tags

/-- The trie with more tags for a key. -/
def insert (new : List String) : Key → Trie → Trie
  | [], t => node (some (union (t.tags.getD []) new)) t.branches
  | c :: key, t =>
    node t.tags
      (SortedMap.alter c (fun below => some (insert new key (below.getD empty))) t.branches)

/-- The trie without a key, and without the branches that led to no other. -/
def erase : Key → Trie → Trie
  | [], t => node none t.branches
  | c :: key, t =>
    node t.tags
      (SortedMap.alter c
        (fun below => (below.map (erase key)).filter (fun rest => !rest.isDead)) t.branches)

/-! ### Entries -/

mutual

/-- The keys with their tags, in the order of the keys. -/
def entries : Trie → List (Key × List String)
  | node tags branches => (tags.map ([], ·)).toList ++ branchEntries branches

/-- The keys below branches. -/
def branchEntries : List (Char × Trie) → List (Key × List String)
  | [] => []
  | (c, t) :: rest => t.entries.map (fun (key, tags) => (c :: key, tags)) ++ branchEntries rest

end

mutual

/-- The number of keys. -/
def size : Trie → Nat
  | node tags branches => (if tags.isSome then 1 else 0) + branchSizes branches

/-- The number of keys below branches. -/
def branchSizes : List (Char × Trie) → Nat
  | [] => 0
  | (_, t) :: rest => t.size + branchSizes rest

end

mutual

/-- The length of the longest path. -/
def height : Trie → Nat
  | node _ branches => branchHeights branches

/-- The length of the longest path that begins with one of the branches. -/
def branchHeights : List (Char × Trie) → Nat
  | [] => 0
  | (_, t) :: rest => max (t.height + 1) (branchHeights rest)

end

/-! ### Search -/

/-- The nodes of one depth, each with the characters that lead to it, the last one first. -/
abbrev Level : Type := List (Key × Trie)

/-- The keys that end on a level and have accepted tags. -/
def Level.accepted (accepts : List String → Bool) (level : Level) : List (Key × List String) :=
  level.filterMap fun (path, t) =>
    match t.tags with
    | some tags => if accepts tags then some (path.reverse, tags) else none
    | none => none

/-- The nodes one character further. -/
def Level.next (level : Level) : Level :=
  level.flatMap fun (path, t) => t.branches.map fun (c, below) => (c :: path, below)

/-- The first `limit` accepted keys on a level and on those below it, level by level. -/
def collect (accepts : List String → Bool) : Nat → Nat → Level → List (Key × List String)
  | 0, _, _ => []
  | depth + 1, limit, level =>
    if limit == 0 then []
    else
      let found := (level.accepted accepts).take limit
      found ++ collect accepts depth (limit - found.length) level.next

/-- The first `limit` accepted keys that begin with `start`, the shorter ones first, in the order
of the keys. -/
def search (t : Trie) (start : Key) (limit : Nat) (accepts : List String → Bool) :
    List (Key × List String) :=
  match descend start t with
  | some below =>
    (collect accepts (below.height + 1) limit [(start.reverse, below)]).mergeSort
      fun a b => decide ¬(b.1 < a.1)
  | none => []

end Trie

end SemanticQuery.Dictionary
