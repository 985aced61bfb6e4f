import SemanticQuery.Dictionary.Trie
import SemanticQuery.Loading
import SemanticQuery.Text.Case

/-!
# Snapshots

One state of the dictionary: the terms that everyone may use, the terms that are found by their
endings, and the terms of single tenants. Keys are terms in small letters with `#` for blanks; an
ending is the beginning of a reversed term.
-/

namespace SemanticQuery.Dictionary

/-! ### Terms -/

/-- The character that stands for a blank in a key. -/
def blankMark : Char := '#'

/-- The key of a term. -/
def keyOf (term : String) : Key :=
  (Text.lowerChars term.toList).map fun c => if c == ' ' then blankMark else c

/-- The term that a key is read as. -/
def surfaceOf (key : Key) : Key := key.map fun c => if c == blankMark then ' ' else c

/-- The text with its characters in reverse order. -/
def reversed (text : String) : String := String.ofList text.toList.reverse

/-- A term with what it names. -/
structure Entry where
  term : String
  /-- The tenant whose term it is; none and zero stand for everyone. -/
  tenant : Option Int
  tags : List String
  deriving DecidableEq

/-- The terms of a dictionary, and those that are found by their endings. -/
structure Entries where
  forward : List Entry
  suffixes : List Entry
  deriving DecidableEq

/-- How an entry is written. -/
def Entry.shape : Json.Shape Entry :=
  Json.Record.shape
    (Entry.mk <$> .required "term" .string <*> .optional "tenant_id" (.optional .int) none
      <*> .required "natures" (.list .string))

/-- How a dictionary is written. -/
def Entries.shape : Json.Shape Entries :=
  Json.Record.shape
    (Entries.mk <$> .optional "entries" (.list Entry.shape) []
      <*> .optional "suffixes" (.list Entry.shape) [])

/-- Loads the entries of a dictionary. -/
def Entries.load (text : String) : Except Failure Entries := shape.load text

/-! ### Snapshots -/

/-- A state of the dictionary. -/
structure Snapshot where
  forward : Trie
  suffix : Trie
  /-- The tries of tenants, also the empty ones of tenants that have only been looked up. -/
  tenants : List (Int × Trie)

namespace Snapshot

/-- The state without terms. -/
def empty : Snapshot := ⟨.empty, .empty, []⟩

/-- The trie of a tenant. -/
def tenantTrie (s : Snapshot) (tenant : Int) : Trie := (s.tenants.lookup tenant).getD .empty

/-- Whether a tenant has a trie. -/
def hasTenant (s : Snapshot) (tenant : Int) : Bool := (s.tenants.lookup tenant).isSome

/-- The state in which a tenant has a trie. -/
def register (s : Snapshot) (tenant : Int) : Snapshot :=
  { s with tenants := SortedMap.alter tenant (fun t => some (t.getD .empty)) s.tenants }

/-- The state with more tags for a term. Terms of tenants with negative ids are dropped. -/
def insert (s : Snapshot) (term : String) (tenant : Option Int) (tags : List String) : Snapshot :=
  let key := keyOf term
  let id := tenant.getD 0
  if id == 0 then { s with forward := s.forward.insert tags key }
  else if 0 < id then
    { s with
      tenants := SortedMap.alter id (fun t => some ((t.getD .empty).insert tags key)) s.tenants }
  else s

/-- The state with more tags for a reversed term. -/
def insertSuffix (s : Snapshot) (reversedTerm : String) (tags : List String) : Snapshot :=
  { s with suffix := s.suffix.insert tags (keyOf reversedTerm) }

/-- The state in which a term has the retained tags only. Metrics and dimensions are no longer
found by their endings either. -/
def remove (s : Snapshot) (term : String) (retained : List String) : Snapshot :=
  let key := keyOf term
  let removed := s.forward.get? key
  let forward := s.forward.erase key
  { s with
    forward := if retained.isEmpty then forward else forward.insert retained key
    suffix :=
      if removed.any namesMetricOrDimension then s.suffix.erase key.reverse else s.suffix }

/-- The values of a dimension, in the order of their keys. -/
def dimensionValues (s : Snapshot) (model element : Int) : List String :=
  (s.forward.entries.filter fun (_, tags) =>
    tags.any fun t =>
      let tag := Tag.read t
      tag.kind == .value && tag.model == some model && tag.element == some element).map
    fun (key, _) => String.ofList (surfaceOf key)

end Snapshot

/-! ### Builders -/

/-- A state in the making. Terms with the same ending are put together before they go in. -/
structure Builder where
  snapshot : Snapshot
  suffixes : List (String × List String)

namespace Builder

/-- The builder without entries. -/
def empty : Builder := ⟨.empty, []⟩

/-- The builder with one more entry. -/
def add (b : Builder) (e : Entry) : Builder :=
  { b with snapshot := b.snapshot.insert e.term e.tenant e.tags }

/-- The builder with one more entry that is found by its ending. -/
def addSuffix (b : Builder) (e : Entry) : Builder :=
  { b with
    suffixes :=
      SortedMap.alter (reversed e.term) (fun ts => some (union (ts.getD []) e.tags)) b.suffixes }

/-- The builder with all entries of a dictionary. -/
def addAll (b : Builder) (es : Entries) : Builder :=
  es.suffixes.foldl addSuffix (es.forward.foldl add b)

/-- The state. -/
def build (b : Builder) : Snapshot :=
  b.suffixes.foldl (fun s (term, tags) => s.insertSuffix term tags) b.snapshot

end Builder

/-- The state that holds the entries of a dictionary. -/
def Snapshot.ofEntries (es : Entries) : Snapshot := (Builder.empty.addAll es).build

end SemanticQuery.Dictionary
