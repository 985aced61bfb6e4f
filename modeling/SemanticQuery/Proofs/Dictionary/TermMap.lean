import Mathlib.Data.Char
import Mathlib.Data.Finmap
import Mathlib.Data.Finset.Sort
import Mathlib.Data.List.Lex
import SemanticQuery.Dictionary.Trie
import SemanticQuery.Proofs.SortedMap

/-!
# Maps of terms

What a look-up means, told by finite maps. Among the keys with a given beginning it takes the
shortest ones, and of these it gives the longest ones first.
-/

namespace SemanticQuery.Dictionary

/-! ### Orders of keys -/

/-- Keys by their lengths, and those of one length by their characters. -/
def ByLength (r : ℕ → ℕ → Prop) (a b : Key) : Prop :=
  r a.length b.length ∨ a.length = b.length ∧ a ≤ b

/-- The shorter keys first. -/
abbrev ShorterFirst : Key → Key → Prop := ByLength (· < ·)

/-- The longer keys first. -/
abbrev LongerFirst : Key → Key → Prop := ByLength (· > ·)

namespace ByLength

variable {r : ℕ → ℕ → Prop}

instance [DecidableRel r] : DecidableRel (ByLength r) :=
  fun a b => inferInstanceAs (Decidable (r a.length b.length ∨ a.length = b.length ∧ a ≤ b))

instance [IsTrans ℕ r] : IsTrans Key (ByLength r) where
  trans a b c := by
    rintro (hab | ⟨hab, hle⟩) (hbc | ⟨hbc, hle'⟩)
    · exact .inl (trans_of r hab hbc)
    · exact .inl (hbc ▸ hab)
    · exact .inl (hab ▸ hbc)
    · exact .inr ⟨hab.trans hbc, hle.trans hle'⟩

instance [IsStrictOrder ℕ r] : Std.Antisymm (ByLength r) where
  antisymm a b := by
    rintro (hab | ⟨hab, hle⟩) (hba | ⟨hba, hle'⟩)
    · exact absurd hba (asymm_of r hab)
    · exact absurd (hba ▸ hab) (irrefl_of r b.length)
    · exact absurd (hab ▸ hba) (irrefl_of r b.length)
    · exact le_antisymm hle hle'

instance [IsStrictTotalOrder ℕ r] : Std.Total (ByLength r) where
  total a b := by
    rcases trichotomous_of r a.length b.length with h | h | h
    · exact .inl (.inl h)
    · exact (le_total a b).imp (fun hle => .inr ⟨h, hle⟩) fun hle => .inr ⟨h.symm, hle⟩
    · exact .inr (.inl h)

end ByLength

/-! ### Sorting twice -/

/-- Sorting keeps the order of elements that count as equal. -/
lemma filter_mergeSort {α : Type} {le : α → α → Bool} {p : α → Bool}
    (htrans : ∀ a b c, le a b → le b c → le a c) (htotal : ∀ a b, (le a b || le b a) = true)
    (hp : ∀ a b, p a → p b → le a b) (l : List α) :
    (l.mergeSort le).filter p = l.filter p := by
  have hsorted : (l.filter p).Pairwise fun a b => le a b = true :=
    List.pairwise_of_forall_mem_list fun a ha b hb =>
      hp a b (List.mem_filter.mp ha).2 (List.mem_filter.mp hb).2
  have hsub : ((l.filter p).filter p).Sublist ((l.mergeSort le).filter p) :=
    (List.sublist_mergeSort htrans htotal hsorted List.filter_sublist).filter p
  simp only [List.filter_filter, Bool.and_self] at hsub
  exact (hsub.eq_of_length ((List.mergeSort_perm l le).filter p).length_eq.symm).symm

/-- Sorting by characters and then by lengths is sorting by both. -/
lemma mergeSort_mergeSort (l : List Key) :
    ((l.mergeSort fun a b => decide (a ≤ b)).mergeSort fun a b => decide (b.length ≤ a.length)) =
      l.mergeSort fun a b => decide (LongerFirst a b) := by
  set sorted := l.mergeSort fun a b => decide (a ≤ b) with hsorted
  have htrans : ∀ a b c : Key, decide (b.length ≤ a.length) → decide (c.length ≤ b.length) →
      decide (c.length ≤ a.length) := by
    intro a b c
    simp only [decide_eq_true_eq]
    omega
  have htotal : ∀ a b : Key,
      (decide (b.length ≤ a.length) || decide (a.length ≤ b.length)) = true := by
    intro a b
    simp only [Bool.or_eq_true, decide_eq_true_eq]
    omega
  have hperm : (sorted.mergeSort fun a b => decide (b.length ≤ a.length)).Perm
      (l.mergeSort fun a b => decide (LongerFirst a b)) :=
    (List.mergeSort_perm _ _).trans ((List.mergeSort_perm l _).trans (List.mergeSort_perm l _).symm)
  refine hperm.eq_of_pairwise' ?_ (List.pairwise_mergeSort' LongerFirst l)
  refine List.pairwise_iff_forall_sublist.mpr fun {a b} hab => ?_
  have hle : b.length ≤ a.length := by
    simpa using List.pairwise_iff_forall_sublist.mp (List.pairwise_mergeSort htrans htotal sorted) hab
  refine hle.lt_or_eq.imp id fun hlength => ⟨hlength.symm, ?_⟩
  -- keys of one length stand as they stood after the first sorting
  have hfilter := hab.filter fun key => decide (key.length = a.length)
  rw [filter_mergeSort htrans htotal (by simp +contextual)] at hfilter
  have hab' : [a, b].Sublist sorted := by
    simpa [hlength] using hfilter.trans List.filter_sublist
  exact List.pairwise_iff_forall_sublist.mp (List.pairwise_mergeSort' (· ≤ ·) l) hab'

/-! ### Maps -/

/-- A finite map to tags. -/
abbrev TagMap (α : Type) : Type := Finmap fun _ : α => List String

/-- A finite map from keys to tags. -/
abbrev TermMap : Type := TagMap Key

namespace TagMap

variable {α : Type} [DecidableEq α]

/-- The tags of a key, none for a key that is not there. -/
def tagsOf (m : TagMap α) (key : α) : List String := (m.lookup key).getD []

/-- The map with more tags for a key. -/
def add (m : TagMap α) (key : α) (tags : List String) : TagMap α :=
  m.insert key (union (m.tagsOf key) tags)

lemma lookup_add (m : TagMap α) (key k : α) (tags : List String) :
    (m.add key tags).lookup k =
      if k = key then some (union ((m.lookup key).getD []) tags) else m.lookup k := by
  split_ifs with hk
  · rw [hk, add, Finmap.lookup_insert, tagsOf]
  · exact Finmap.lookup_insert_of_ne m hk

lemma lookup_erase (m : TagMap α) (key k : α) :
    (m.erase key).lookup k = if k = key then none else m.lookup k := by
  split_ifs with hk
  · rw [hk, Finmap.lookup_erase]
  · exact Finmap.lookup_erase_ne hk

variable [LinearOrder α] {m : TagMap α} {l : List (α × List String)}

/-- The keys with their tags, in the order of the keys. -/
def pairs (m : TagMap α) : List (α × List String) :=
  (m.keys.sort (· ≤ ·)).map fun key => (key, m.tagsOf key)

/-- An ascending list that holds the pairs of a map is the list of its pairs. -/
lemma eq_pairs (h : SortedMap.IsSorted l) (hl : ∀ p, p ∈ l ↔ m.lookup p.1 = some p.2) :
    l = m.pairs := by
  have hsorted : SortedMap.IsSorted m.pairs :=
    List.pairwise_map.mpr m.keys.sortedLT_sort.pairwise
  refine List.Pairwise.eq_of_mem_iff h hsorted fun p => ?_
  obtain ⟨key, tags⟩ := p
  rw [hl]
  simp only [pairs, List.mem_map, Finset.mem_sort, Finmap.mem_keys, Finmap.mem_iff, Prod.mk.injEq]
  constructor
  · intro htags
    refine ⟨key, ⟨tags, htags⟩, rfl, ?_⟩
    rw [tagsOf, htags, Option.getD_some]
  · rintro ⟨_, ⟨tags', htags⟩, rfl, rfl⟩
    rw [tagsOf, htags, Option.getD_some]

end TagMap

namespace TermMap

variable {m : TermMap} {start key : Key} {accepts : List String → Bool}

/-- The keys with a given beginning and accepted tags. -/
def matching (m : TermMap) (start : Key) (accepts : List String → Bool) : Finset Key :=
  m.keys.filter fun key => start <+: key ∧ accepts (m.tagsOf key) = true

/-- The first `limit` keys with a given beginning and accepted tags, the shorter ones first. -/
def shortest (m : TermMap) (start : Key) (limit : ℕ) (accepts : List String → Bool) : List Key :=
  ((m.matching start accepts).sort ShorterFirst).take limit

/-- The keys that a look-up takes, with their tags. The longer ones come first. -/
def hits (m : TermMap) (start : Key) (limit size : ℕ) (accepts : List String → Bool) :
    List (Key × List String) :=
  (((m.shortest start limit accepts).mergeSort fun a b => decide (LongerFirst a b)).take size).map
    fun key => (key, m.tagsOf key)

lemma mem_matching :
    key ∈ m.matching start accepts ↔
      start <+: key ∧ ∃ tags, m.lookup key = some tags ∧ accepts tags = true := by
  rw [matching, Finset.mem_filter, Finmap.mem_keys, Finmap.mem_iff, TagMap.tagsOf]
  constructor
  · rintro ⟨⟨tags, htags⟩, hstart, haccepts⟩
    rw [htags] at haccepts
    exact ⟨hstart, tags, htags, haccepts⟩
  · rintro ⟨hstart, tags, htags, haccepts⟩
    refine ⟨⟨tags, htags⟩, hstart, ?_⟩
    rw [htags]
    exact haccepts

/-- A look-up takes keys with the given beginning only. -/
lemma of_mem_hits {limit size : ℕ} {p : Key × List String}
    (h : p ∈ m.hits start limit size accepts) :
    start <+: p.1 ∧ m.lookup p.1 = some p.2 ∧ accepts p.2 = true := by
  obtain ⟨key, hkey, rfl⟩ := List.mem_map.mp h
  have hsorted := List.mem_of_mem_take (List.mem_mergeSort.mp (List.mem_of_mem_take hkey))
  obtain ⟨hstart, tags, htags, haccepts⟩ := mem_matching.mp ((Finset.mem_sort _).mp hsorted)
  refine ⟨hstart, ?_⟩
  rw [TagMap.tagsOf, htags]
  exact ⟨rfl, haccepts⟩

/-- A look-up with room for all keys takes all of them. -/
lemma mem_hits_iff {limit size : ℕ} (hlimit : m.keys.card ≤ limit) (hsize : m.keys.card ≤ size)
    {p : Key × List String} :
    p ∈ m.hits start limit size accepts ↔
      start <+: p.1 ∧ m.lookup p.1 = some p.2 ∧ accepts p.2 = true := by
  refine ⟨of_mem_hits, fun ⟨hstart, htags, haccepts⟩ => ?_⟩
  have hcard : (m.matching start accepts).card ≤ m.keys.card := Finset.card_filter_le _ _
  have hall : m.shortest start limit accepts = (m.matching start accepts).sort ShorterFirst := by
    refine List.take_of_length_le ?_
    rw [Finset.length_sort]
    omega
  refine List.mem_map.mpr ⟨p.1, ?_, by rw [TagMap.tagsOf, htags]; rfl⟩
  rw [hall, List.take_of_length_le (by rw [List.length_mergeSort, Finset.length_sort]; omega),
    List.mem_mergeSort, Finset.mem_sort, mem_matching]
  exact ⟨hstart, p.2, htags, haccepts⟩

/-- Of the keys that begin with a key it is the shortest itself. -/
lemma mem_shortest_self {limit : ℕ} (h : key ∈ m.matching key accepts) (hlimit : 0 < limit) :
    key ∈ m.shortest key limit accepts := by
  obtain ⟨first, rest, hsort⟩ := List.exists_cons_of_ne_nil
    (List.ne_nil_of_mem ((Finset.mem_sort ShorterFirst).mpr h))
  have hfirst : key <+: first := by
    have hmem : first ∈ m.matching key accepts := by
      rw [← Finset.mem_sort ShorterFirst, hsort]
      exact List.mem_cons_self
    exact (mem_matching.mp hmem).1
  have hself : key = first := by
    have hmem : key ∈ first :: rest := hsort ▸ (Finset.mem_sort ShorterFirst).mpr h
    rcases List.mem_cons.mp hmem with heq | hrest
    · exact heq
    · have hordered := hsort ▸ Finset.pairwise_sort (m.matching key accepts) ShorterFirst
      rcases List.rel_of_pairwise_cons hordered hrest with hlt | ⟨hlength, -⟩
      · exact absurd hlt hfirst.length_le.not_gt
      · exact hfirst.eq_of_length hlength.symm
  obtain ⟨limit, rfl⟩ := Nat.exists_eq_succ_of_ne_zero hlimit.ne'
  rw [shortest, hsort, List.take_succ_cons, ← hself]
  exact List.mem_cons_self

/-- A look-up of a key takes the key itself, unless the size cuts off what the limit lets pass. -/
lemma mem_hits_self {limit size : ℕ} {tags : List String} (htags : m.lookup key = some tags)
    (haccepts : accepts tags = true) (hlimit : 0 < limit) (hsize : min limit m.keys.card ≤ size) :
    (key, tags) ∈ m.hits key limit size accepts := by
  have hmatching : key ∈ m.matching key accepts :=
    mem_matching.mpr ⟨List.prefix_rfl, tags, htags, haccepts⟩
  have hcard : (m.matching key accepts).card ≤ m.keys.card := Finset.card_filter_le _ _
  have hroom : (m.shortest key limit accepts).length ≤ size := by
    rw [shortest, List.length_take, Finset.length_sort]
    omega
  refine List.mem_map.mpr ⟨key, ?_, by rw [TagMap.tagsOf, htags]; rfl⟩
  rw [List.take_of_length_le (by rwa [List.length_mergeSort]), List.mem_mergeSort]
  exact mem_shortest_self hmatching hlimit

end TermMap

end SemanticQuery.Dictionary
