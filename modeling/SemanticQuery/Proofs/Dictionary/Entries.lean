import SemanticQuery.Proofs.Dictionary.Search

/-!
# Entries of tries

The entries of a trie are its keys with their tags, each key once and in the order of the keys. So
two tries that stand for one map have the same entries and as many keys.
-/

namespace SemanticQuery.Dictionary.Trie

variable {t : Trie} {m : TermMap}

lemma branchEntries_eq (branches : List (Char × Trie)) :
    branchEntries branches =
      branches.flatMap fun p => p.2.entries.map fun q => (p.1 :: q.1, q.2) := by
  induction branches with
  | nil => rfl
  | cons p branches ih => rw [branchEntries, ih, List.flatMap_cons]

/-- The entries are what is looked up. -/
lemma mem_entries (h : t.IsSorted) {p : Key × List String} :
    p ∈ t.entries ↔ t.get? p.1 = some p.2 := by
  induction h generalizing p with
  | @node tags branches hbranches hbelow ih =>
    obtain ⟨key, own⟩ := p
    simp only [entries, branchEntries_eq, List.mem_append, Option.mem_toList, List.mem_flatMap,
      List.mem_map, Option.map_eq_some_iff, Prod.mk.injEq]
    cases key with
    | nil => simp [get?, descend, Trie.tags]
    | cons c key =>
      rw [get?_cons, Option.bind_eq_some_iff]
      simp only [Trie.branches, ← SortedMap.mem_iff_lookup hbranches]
      constructor
      · rintro (⟨_, _, hkey, _⟩ | ⟨q, hq, r, hr, hkey, rfl⟩)
        · exact absurd hkey.symm (List.cons_ne_nil c key)
        · obtain ⟨rfl, rfl⟩ := List.cons.inj hkey
          exact ⟨q.2, hq, (ih q hq).mp hr⟩
      · rintro ⟨below, hc, hget⟩
        exact .inr ⟨(c, below), hc, (key, own), (ih _ hc).mpr hget, rfl, rfl⟩

lemma isSorted_entries (h : t.IsSorted) : SortedMap.IsSorted t.entries := by
  induction h with
  | @node tags branches hbranches hbelow ih =>
    have hdeeper : SortedMap.IsSorted (branchEntries branches) := by
      rw [branchEntries_eq]
      refine List.pairwise_flatMap.mpr ⟨fun p hp => ?_, List.Pairwise.imp ?_ hbranches⟩
      · refine List.pairwise_map.mpr ((ih p hp).imp fun hlt => ?_)
        exact List.cons_lt_cons_iff.mpr (.inr ⟨rfl, hlt⟩)
      · intro p q hlt x hx y hy
        obtain ⟨_, -, rfl⟩ := List.mem_map.mp hx
        obtain ⟨_, -, rfl⟩ := List.mem_map.mp hy
        exact List.cons_lt_cons_iff.mpr (.inl hlt)
    cases tags with
    | none => exact hdeeper
    | some own =>
      change SortedMap.IsSorted (([], own) :: branchEntries branches)
      refine List.pairwise_cons.mpr ⟨fun p hp => ?_, hdeeper⟩
      rw [branchEntries_eq] at hp
      obtain ⟨q, -, hp⟩ := List.mem_flatMap.mp hp
      obtain ⟨r, -, rfl⟩ := List.mem_map.mp hp
      exact List.nil_lt_cons q.1 r.1

lemma length_branchEntries {branches : List (Char × Trie)}
    (h : ∀ p ∈ branches, p.2.entries.length = p.2.size) :
    (branchEntries branches).length = branchSizes branches := by
  induction branches with
  | nil => rfl
  | cons p branches ih =>
    obtain ⟨hp, hrest⟩ := List.forall_mem_cons.mp h
    rw [branchEntries, branchSizes, List.length_append, List.length_map, hp, ih hrest]

lemma length_entries (h : t.IsSorted) : t.entries.length = t.size := by
  induction h with
  | @node tags branches hbranches hbelow ih =>
    rw [entries, size, List.length_append, length_branchEntries ih]
    cases tags <;> rfl

namespace Represents

lemma entries_eq (h : t.Represents m) : t.entries = m.pairs :=
  TagMap.eq_pairs (isSorted_entries h.sorted) fun p => by rw [mem_entries h.sorted, h.get?_eq]

lemma size_eq (h : t.Represents m) : t.size = m.keys.card := by
  rw [← length_entries h.sorted, h.entries_eq, TagMap.pairs, List.length_map, Finset.length_sort]

end Represents

end SemanticQuery.Dictionary.Trie
