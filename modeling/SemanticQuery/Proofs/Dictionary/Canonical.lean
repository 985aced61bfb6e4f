import Mathlib.Data.Finset.Card
import SemanticQuery.Proofs.Dictionary.Entries

/-!
# Canonical tries

A trie in which every branch leads to a key has one form for each map: two of them that give every
key the same tags are equal. Inserting and erasing keep this form, because a branch that leads to no
key any more is cut off.
-/

namespace SemanticQuery.Dictionary.Trie

/-- Every node below the root has tags or branches. -/
inductive IsPruned : Trie → Prop where
  | node (tags : Option (List String)) {branches : List (Char × Trie)}
    (halive : ∀ p ∈ branches, p.2.isDead = false) (hbelow : ∀ p ∈ branches, IsPruned p.2) :
    IsPruned (node tags branches)

/-- The branches stand in order, and each of them leads to a key. -/
structure IsCanonical (t : Trie) : Prop where
  sorted : t.IsSorted
  pruned : t.IsPruned

variable {t t' : Trie} {new : List String} {key : Key}

/-! ### Branches lead to keys -/

lemma IsPruned.exists_get? (h : t.IsPruned) (halive : t.isDead = false) :
    ∃ key tags, t.get? key = some tags := by
  induction h with
  | @node tags branches hbranches hbelow ih =>
    cases tags with
    | some own => exact ⟨[], own, rfl⟩
    | none =>
      cases branches with
      | nil => simp [isDead, Trie.tags, Trie.branches] at halive
      | cons p rest =>
        obtain ⟨key, own, hkey⟩ := ih p List.mem_cons_self (hbranches p List.mem_cons_self)
        refine ⟨p.1 :: key, own, ?_⟩
        rw [get?_cons, Trie.branches, SortedMap.lookup_cons, if_pos rfl, Option.bind_some, hkey]

namespace IsCanonical

lemma of_lookup (h : t.IsCanonical) {c : Char} {below : Trie}
    (hc : t.branches.lookup c = some below) : below.IsCanonical ∧ below.isDead = false := by
  have hmem : (c, below) ∈ t.branches := (SortedMap.mem_iff_lookup h.sorted.branches).mpr hc
  obtain ⟨_, halive, hbelow⟩ := h.pruned
  exact ⟨⟨h.sorted.of_lookup hc, hbelow _ hmem⟩, halive _ hmem⟩

/-- There is a branch for a character exactly where a key goes on with it. -/
lemma isSome_lookup_iff (h : t.IsCanonical) (c : Char) :
    (t.branches.lookup c).isSome ↔ ∃ key tags, t.get? (c :: key) = some tags := by
  constructor
  · intro hbranch
    obtain ⟨below, hc⟩ := Option.isSome_iff_exists.mp hbranch
    obtain ⟨hbelow, halive⟩ := h.of_lookup hc
    obtain ⟨key, tags, hkey⟩ := hbelow.pruned.exists_get? halive
    exact ⟨key, tags, by rw [get?_cons, hc, Option.bind_some, hkey]⟩
  · rintro ⟨key, tags, hkey⟩
    rw [get?_cons] at hkey
    obtain ⟨below, hc, -⟩ := Option.bind_eq_some_iff.mp hkey
    rw [hc, Option.isSome_some]

/-- Canonical tries that give every key the same tags are equal. -/
lemma eq_of_get?_eq (h : t.IsCanonical) (h' : t'.IsCanonical)
    (heq : ∀ key, t.get? key = t'.get? key) : t = t' := by
  obtain ⟨hsorted, hpruned⟩ := h
  induction hsorted generalizing t' with
  | @node tags branches hbranches hbelow ih =>
    have h : (node tags branches).IsCanonical := ⟨.node tags hbranches hbelow, hpruned⟩
    obtain ⟨tags', branches'⟩ := t'
    have htags : tags = tags' := heq []
    have hlookup : ∀ c, branches.lookup c = branches'.lookup c := by
      intro c
      have hsome : (branches.lookup c).isSome ↔ (branches'.lookup c).isSome := by
        refine (h.isSome_lookup_iff c).trans (Iff.trans ?_ (h'.isSome_lookup_iff c).symm)
        simp only [heq]
      cases hc : branches.lookup c with
      | none =>
        rw [hc] at hsome
        exact (Option.not_isSome_iff_eq_none.mp fun hbranch => by simp [hbranch] at hsome).symm
      | some below =>
        rw [hc] at hsome
        obtain ⟨below', hc'⟩ := Option.isSome_iff_exists.mp (hsome.mp rfl)
        have hmem : (c, below) ∈ branches := (SortedMap.mem_iff_lookup hbranches).mpr hc
        have hsame : below = below' := by
          refine ih (c, below) hmem (h'.of_lookup hc').1 (fun key => ?_) (h.of_lookup hc).1.pruned
          have hkey := heq (c :: key)
          rwa [get?_cons, get?_cons, Trie.branches, Trie.branches, hc, hc'] at hkey
        rw [hc', hsame]
    have hsame : branches = branches' :=
      SortedMap.eq_of_lookup_eq hbranches h'.sorted.branches hlookup
    rw [htags, hsame]

/-! ### Changes -/

lemma alter (h : t.IsCanonical) {c : Char} {f : Option Trie → Option Trie}
    (hf : ∀ below ∈ f (t.branches.lookup c), below.IsCanonical ∧ below.isDead = false)
    (tags : Option (List String)) :
    (Trie.node tags (SortedMap.alter c f t.branches)).IsCanonical := by
  obtain ⟨_, halive, hbelow⟩ := h.pruned
  refine ⟨h.sorted.alter (fun below hbelow => (hf below hbelow).1.sorted) tags,
    .node tags (fun p hp => ?_) fun p hp => ?_⟩
  · rcases SortedMap.mem_alter h.sorted.branches hp with hp | hp
    · exact halive p hp
    · exact (hf p.2 hp).2
  · rcases SortedMap.mem_alter h.sorted.branches hp with hp | hp
    · exact hbelow p hp
    · exact (hf p.2 hp).1.pruned

/-- The tags at the root are free. -/
lemma retag (h : t.IsCanonical) (tags : Option (List String)) :
    (Trie.node tags t.branches).IsCanonical := by
  obtain ⟨_, halive, hbelow⟩ := h.pruned
  exact ⟨.node tags h.sorted.branches fun p hp => h.sorted.of_mem hp, .node tags halive hbelow⟩

lemma empty : Trie.empty.IsCanonical := ⟨isSorted_empty, .node none (by simp) (by simp)⟩

lemma getD_lookup (h : t.IsCanonical) (c : Char) :
    ((t.branches.lookup c).getD Trie.empty).IsCanonical := by
  cases hc : t.branches.lookup c with
  | none => exact empty
  | some below => exact (h.of_lookup hc).1

lemma insert (h : t.IsCanonical) (new : List String) (key : Key) :
    (t.insert new key).IsCanonical := by
  induction key generalizing t with
  | nil => exact h.retag _
  | cons c key ih =>
    refine h.alter (fun below hbelow => ?_) _
    obtain rfl := Option.mem_some.mp hbelow
    have hbefore := h.getD_lookup c
    refine ⟨ih hbefore, ?_⟩
    -- the new key is below the branch
    by_contra hdead
    have hnone := get?_of_isDead (Bool.not_eq_false _ ▸ hdead) key
    rw [get?_insert hbefore.sorted, if_pos rfl] at hnone
    exact absurd hnone (Option.some_ne_none _)

lemma erase (h : t.IsCanonical) (key : Key) : (t.erase key).IsCanonical := by
  induction key generalizing t with
  | nil => exact h.retag _
  | cons c key ih =>
    refine h.alter (fun below hbelow => ?_) _
    obtain ⟨hmap, halive⟩ := Option.filter_eq_some_iff.mp hbelow
    obtain ⟨old, hold, rfl⟩ := Option.map_eq_some_iff.mp hmap
    exact ⟨ih (h.of_lookup hold).1, by simpa using halive⟩

/-- Erasing a key that is not there changes nothing. -/
lemma erase_of_get?_eq_none (h : t.IsCanonical) (hkey : t.get? key = none) :
    t.erase key = t := by
  refine (h.erase key).eq_of_get?_eq h fun k => ?_
  rw [get?_erase h.sorted]
  split_ifs with hk
  · rw [hk, hkey]
  · rfl

end IsCanonical

/-! ### Numbers of keys -/

/-- The keys of a trie. -/
def keys (t : Trie) : Finset Key := (t.entries.map Prod.fst).toFinset

namespace IsSorted

lemma mem_keys (h : t.IsSorted) : key ∈ t.keys ↔ (t.get? key).isSome := by
  simp [keys, mem_entries h, Option.isSome_iff_exists]

lemma card_keys (h : t.IsSorted) : t.keys.card = t.size := by
  have hnodup : (t.entries.map Prod.fst).Nodup :=
    List.pairwise_map.mpr ((isSorted_entries h).imp fun hlt => hlt.ne)
  rw [keys, List.toFinset_card_of_nodup hnodup, List.length_map, length_entries h]

lemma size_insert (h : t.IsSorted) (new : List String) (key : Key) :
    (t.insert new key).size = if (t.get? key).isSome then t.size else t.size + 1 := by
  have hkeys : (t.insert new key).keys = Insert.insert key t.keys := by
    ext k
    rw [(h.insert new key).mem_keys, get?_insert h, Finset.mem_insert, h.mem_keys]
    split_ifs with hk <;> simp [hk]
  rw [← (h.insert new key).card_keys, hkeys, ← h.card_keys]
  split_ifs with hkey
  · rw [Finset.insert_eq_of_mem (h.mem_keys.mpr hkey)]
  · rw [Finset.card_insert_of_notMem (mt h.mem_keys.mp hkey)]

lemma size_erase (h : t.IsSorted) (key : Key) :
    (t.erase key).size = if (t.get? key).isSome then t.size - 1 else t.size := by
  have hkeys : (t.erase key).keys = t.keys.erase key := by
    ext k
    rw [(h.erase key).mem_keys, get?_erase h, Finset.mem_erase, h.mem_keys]
    split_ifs with hk <;> simp [hk]
  rw [← (h.erase key).card_keys, hkeys, ← h.card_keys]
  split_ifs with hkey
  · rw [Finset.card_erase_of_mem (h.mem_keys.mpr hkey)]
  · rw [Finset.erase_eq_of_notMem (mt h.mem_keys.mp hkey)]

lemma size_pos (h : t.IsSorted) (hkey : (t.get? key).isSome) : 0 < t.size := by
  rw [← h.card_keys]
  exact Finset.card_pos.mpr ⟨key, h.mem_keys.mpr hkey⟩

end IsSorted

end SemanticQuery.Dictionary.Trie
