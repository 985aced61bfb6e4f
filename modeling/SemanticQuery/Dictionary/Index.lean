import SemanticQuery.Dictionary.Lookup

/-!
# Indexes

A dictionary that changes. Every change makes a new generation; who holds an earlier one goes on
seeing it as it was. A look-up may register a tenant in the current generation, which all see who
hold it.
-/

namespace SemanticQuery.Dictionary

/-- A dictionary with its generations. -/
structure Index where
  /-- How many hits a look-up gives at most. -/
  searchSize : Nat
  /-- The generations before the current one, the first one first. -/
  earlier : List Snapshot
  current : Snapshot

namespace Index

/-- The index that begins with a snapshot. -/
def ofSnapshot (searchSize : Nat) (s : Snapshot) : Index := ⟨searchSize, [], s⟩

/-- The number of the current generation. -/
def generation (i : Index) : Nat := i.earlier.length

/-- The generation with a number. -/
def generation? (i : Index) (n : Nat) : Option Snapshot := (i.earlier ++ [i.current])[n]?

/-! ### Changes -/

/-- The index with another snapshot as its new generation. -/
def publish (i : Index) (s : Snapshot) : Index :=
  { i with earlier := i.earlier ++ [i.current], current := s }

/-- The index with more tags for a term. -/
def insert (i : Index) (term : String) (tenant : Option Int) (tags : List String) : Index :=
  i.publish (i.current.insert term tenant tags)

/-- The index with more tags for a reversed term. -/
def insertSuffix (i : Index) (reversedTerm : String) (tags : List String) : Index :=
  i.publish (i.current.insertSuffix reversedTerm tags)

/-- The index in which a term has the retained tags only. -/
def remove (i : Index) (term : String) (retained : List String) : Index :=
  i.publish (i.current.remove term retained)

/-- The index without terms. -/
def clear (i : Index) : Index := i.publish .empty

/-- The index with the entries of a document. -/
def reload (i : Index) (text : String) : Except Failure Index :=
  (Entries.load text).map fun es => i.publish (.ofEntries es)

/-! ### Look-ups -/

/-- The terms that begin with a text. -/
def lookupPrefix (i : Index) (tenant : Int) (text : String) (limit : Nat) (scope : Scope) :
    List Hit × Index :=
  let (hits, s) := i.current.lookupPrefix i.searchSize tenant text limit scope
  (hits, { i with current := s })

/-- The terms that end with a text. -/
def lookupSuffix (i : Index) (text : String) (limit : Nat) (scope : Scope) : List Hit :=
  i.current.lookupSuffix i.searchSize text limit scope

end Index

end SemanticQuery.Dictionary
