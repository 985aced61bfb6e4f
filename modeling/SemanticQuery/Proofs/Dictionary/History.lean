import SemanticQuery.Proofs.Dictionary.Canonical
import SemanticQuery.Proofs.Occurrence

/-!
# Histories of tries

What a key has after a history of changes: the tags that it was given since it was last removed. A
trie that is changed step by step, and that counts its keys on the way, stands for exactly this map,
and it has the one form that a canonical trie of the map has.
-/

namespace SemanticQuery.Dictionary

/-! ### Tags in the order in which they were first seen -/

/-- Joining tags keeps the order in which they were first seen. -/
lemma union_eraseDups (tags others : List String) :
    union tags.eraseDups others = (tags ++ others).eraseDups := by
  induction others generalizing tags with
  | nil => rw [List.append_nil]; rfl
  | cons tag others ih =>
    have hcontains : tags.eraseDups.contains tag = tags.contains tag := by
      rw [Bool.eq_iff_iff, List.contains_iff_mem, List.contains_iff_mem, List.mem_eraseDups]
    have hnext : union tags.eraseDups (tag :: others) =
        union (if tags.eraseDups.contains tag then tags.eraseDups else tags.eraseDups ++ [tag])
          others := rfl
    rw [hnext, hcontains, ← eraseDups_concat, ih, List.append_assoc, List.singleton_append]

namespace Trie

/-! ### Histories -/

/-- A change of a trie. -/
inductive Change where
  | insert (key : Key) (tags : List String)
  | remove (key : Key)

namespace Change

/-- Whether a change removes a key. -/
def removes (key : Key) : Change → Bool
  | .insert _ _ => false
  | .remove k => k == key

/-- The tags that a change gives to a key. -/
def tagsFor? (key : Key) : Change → Option (List String)
  | .insert k tags => if k = key then some tags else none
  | .remove _ => none

end Change

/-- The lists of tags that a key was given since it was last removed, the first one first. -/
def given (history : List Change) (key : Key) : List (List String) :=
  (history.reverse.takeWhile fun change => !change.removes key).reverse.filterMap
    (Change.tagsFor? key)

/-- The tags of a key after a history, each where it was first seen. -/
def tagsAfter (history : List Change) (key : Key) : Option (List String) :=
  match given history key with
  | [] => none
  | lists => some lists.flatten.eraseDups

variable {t : Trie} {history : List Change} {key : Key}

lemma given_concat (history : List Change) (change : Change) (key : Key) :
    given (history ++ [change]) key =
      if change.removes key then [] else given history key ++ (change.tagsFor? key).toList := by
  unfold given
  rw [List.reverse_append, List.reverse_singleton, List.singleton_append, List.takeWhile_cons]
  cases change.removes key with
  | true => rfl
  | false =>
    rw [Bool.not_false, if_pos rfl, List.reverse_cons, List.filterMap_append]
    cases hgiven : change.tagsFor? key <;> simp [hgiven]

lemma getD_tagsAfter (history : List Change) (key : Key) :
    (tagsAfter history key).getD [] = (given history key).flatten.eraseDups := by
  unfold tagsAfter
  split
  next hnone => rw [hnone]; rfl
  next => rfl

lemma tagsAfter_insert (history : List Change) (k : Key) (tags : List String) (key : Key) :
    tagsAfter (history ++ [.insert k tags]) key =
      if key = k then some (union ((tagsAfter history key).getD []) tags)
      else tagsAfter history key := by
  have hgiven : given (history ++ [.insert k tags]) key =
      given history key ++ if key = k then [tags] else [] := by
    rw [given_concat, Change.removes, if_neg Bool.false_ne_true, Change.tagsFor?]
    simp only [eq_comm (a := k)]
    split_ifs <;> rfl
  by_cases hk : key = k
  · rw [if_pos hk] at hgiven ⊢
    rw [getD_tagsAfter, union_eraseDups, tagsAfter, hgiven]
    split
    next hnone => simp at hnone
    next => rw [List.flatten_append, List.flatten_singleton]
  · rw [if_neg hk] at hgiven ⊢
    rw [tagsAfter, hgiven, List.append_nil, tagsAfter]

lemma tagsAfter_remove (history : List Change) (k key : Key) :
    tagsAfter (history ++ [.remove k]) key =
      if key = k then none else tagsAfter history key := by
  have hgiven : given (history ++ [.remove k]) key = if key = k then [] else given history key := by
    rw [given_concat, Change.removes, Change.tagsFor?, Option.toList_none, List.append_nil]
    simp only [beq_iff_eq, eq_comm (a := k)]
  rw [tagsAfter, hgiven, tagsAfter]
  split_ifs <;> rfl

lemma nodup_of_mem_tagsAfter {tags : List String} (h : tags ∈ tagsAfter history key) :
    tags.Nodup := by
  have htags : (tagsAfter history key).getD [] = tags := by
    rw [Option.mem_def.mp h, Option.getD_some]
  rw [← htags, getD_tagsAfter]
  exact nodup_eraseDups _

/-! ### Changes -/

/-- The trie after a change. -/
def change (t : Trie) : Change → Trie
  | .insert key tags => t.insert tags key
  | .remove key => t.erase key

/-- The trie after a history. -/
def run (history : List Change) : Trie := history.foldl change empty

/-- The tags of a key, and the trie without the key. A branch is cut off where a key was removed
below it and nothing is left there. -/
def remove : Key → Trie → Option (List String) × Trie
  | [], t => (t.tags, node none t.branches)
  | c :: key, t =>
    match t.branches.lookup c with
    | none => (none, t)
    | some below =>
      let (removed, rest) := remove key below
      (removed,
        node t.tags
          (SortedMap.alter c (fun _ => if removed.isSome && rest.isDead then none else some rest)
            t.branches))

/-- Removing gives the tags that the key had and erases it. -/
lemma IsCanonical.remove_eq (h : t.IsCanonical) (key : Key) :
    remove key t = (t.get? key, t.erase key) := by
  induction key generalizing t with
  | nil => rfl
  | cons c key ih =>
    have hbranches := h.sorted.branches
    rw [remove, get?_cons, Trie.erase]
    cases hc : t.branches.lookup c with
    | none =>
      have hsame : t = node t.tags t.branches := by cases t; rfl
      rw [SortedMap.alter_eq_self hbranches (by rw [hc]; rfl), ← hsame]
      rfl
    | some below =>
      obtain ⟨hbelow, halive⟩ := h.of_lookup hc
      dsimp only
      rw [ih hbelow, Option.bind_some]
      refine congrArg (Prod.mk _) (congrArg (node _) (SortedMap.alter_congr hbranches ?_))
      rw [hc, Option.map_some]
      cases hkey : below.get? key with
      | some own => cases hdead : (below.erase key).isDead <;> simp [Option.filter, hdead]
      | none =>
        -- nothing was removed, so the branch still leads to a key
        rw [hbelow.erase_of_get?_eq_none hkey]
        simp [Option.filter, halive]

/-! ### Tries that count their keys -/

/-- A trie with the number of its keys. -/
structure Counted where
  trie : Trie
  count : Nat

namespace Counted

/-- The trie without keys. -/
def empty : Counted := ⟨.empty, 0⟩

/-- The trie with more tags for a key, which is counted if it is new. -/
def insert (tags : List String) (key : Key) (c : Counted) : Counted :=
  ⟨c.trie.insert tags key, if (c.trie.get? key).isSome then c.count else c.count + 1⟩

/-- The tags of a key, and the trie without the key, which is no longer counted if it was there. -/
def remove (key : Key) (c : Counted) : Option (List String) × Counted :=
  let (removed, rest) := c.trie.remove key
  (removed, ⟨rest, if removed.isSome then c.count - 1 else c.count⟩)

/-- The trie after a change. -/
def change (c : Counted) : Change → Counted
  | .insert key tags => c.insert tags key
  | .remove key => (c.remove key).2

/-- The trie after a history. -/
def run (history : List Change) : Counted := history.foldl change empty

/-- A trie is the canonical one of the map after a history, and the count is right. -/
structure Agrees (c : Counted) (history : List Change) : Prop where
  trie_eq : c.trie = Trie.run history
  canonical : c.trie.IsCanonical
  get?_eq : ∀ key, c.trie.get? key = tagsAfter history key
  count_eq : c.count = c.trie.size

variable {c : Counted}

lemma agrees_empty : empty.Agrees [] where
  trie_eq := rfl
  canonical := .empty
  get?_eq key := get?_empty key
  count_eq := rfl

namespace Agrees

lemma insert (h : c.Agrees history) (key : Key) (tags : List String) :
    (c.insert tags key).Agrees (history ++ [.insert key tags]) where
  trie_eq := by
    rw [Trie.run, List.foldl_concat, ← Trie.run, ← h.trie_eq]
    rfl
  canonical := h.canonical.insert tags key
  get?_eq k := by
    rw [tagsAfter_insert, ← h.get?_eq k, Counted.insert, get?_insert h.canonical.sorted]
    split_ifs with hk
    · rw [hk]
    · rfl
  count_eq := by
    rw [Counted.insert, h.canonical.sorted.size_insert, h.count_eq]

lemma remove (h : c.Agrees history) (key : Key) :
    (c.remove key).1 = tagsAfter history key ∧
      (c.remove key).2.Agrees (history ++ [.remove key]) := by
  have hremove : c.remove key = (c.trie.get? key,
      ⟨c.trie.erase key, if (c.trie.get? key).isSome then c.count - 1 else c.count⟩) := by
    rw [Counted.remove, h.canonical.remove_eq]
  rw [hremove]
  refine ⟨h.get?_eq key, ?_, h.canonical.erase key, fun k => ?_, ?_⟩
  · rw [Trie.run, List.foldl_concat, ← Trie.run, ← h.trie_eq]
    rfl
  · rw [tagsAfter_remove, ← h.get?_eq k, get?_erase h.canonical.sorted]
  · rw [h.canonical.sorted.size_erase, h.count_eq]

lemma change (h : c.Agrees history) (change : Change) :
    (c.change change).Agrees (history ++ [change]) := by
  cases change with
  | insert key tags => exact h.insert key tags
  | remove key => exact (h.remove key).2

end Agrees

lemma agrees_run (history : List Change) : (run history).Agrees history := by
  induction history using List.reverseRecOn with
  | nil => exact agrees_empty
  | append_singleton history change ih =>
    rw [run, List.foldl_concat]
    exact ih.change change

lemma Agrees.mem_entries_iff (h : c.Agrees history) (key : Key) (tags : List String) :
    (key, tags) ∈ c.trie.entries ↔ tagsAfter history key = some tags := by
  rw [mem_entries h.canonical.sorted, h.get?_eq]

/-- Tries with the same entries are equal, with all their nodes and their counts. -/
lemma Agrees.eq_iff {c' : Counted} {history' : List Change} (h : c.Agrees history)
    (h' : c'.Agrees history') : c' = c ↔ c'.trie.entries = c.trie.entries := by
  constructor
  · intro heq
    rw [heq]
  · intro hentries
    have htrie : c'.trie = c.trie := by
      refine h'.canonical.eq_of_get?_eq h.canonical fun key => Option.ext fun tags => ?_
      rw [← mem_entries h'.canonical.sorted (p := (key, tags)),
        ← mem_entries h.canonical.sorted (p := (key, tags)), hentries]
    have hcount : c'.count = c.count := by rw [h'.count_eq, h.count_eq, htrie]
    obtain ⟨trie, count⟩ := c
    obtain ⟨trie', count'⟩ := c'
    obtain rfl : trie' = trie := htrie
    obtain rfl : count' = count := hcount
    rfl

/-- After every history a trie is a finite map: looking up, removing and listing tell of a key the
tags that it was given since it was last removed, each once and where it was first seen. The entries
ascend, the count is their number, no branch leads nowhere, and a trie with the same entries is the
same trie. -/
theorem canonical_run (history : List Change) :
    let c := run history
    (∀ key, c.trie.get? key = tagsAfter history key ∧
        (c.remove key).1 = tagsAfter history key) ∧
      (∀ key tags, (key, tags) ∈ c.trie.entries ↔ tagsAfter history key = some tags) ∧
      (∀ key, ∀ tags ∈ tagsAfter history key, tags.Nodup ∧ 0 < c.count) ∧
      c.trie.entries.Pairwise (fun p q => p.1 < q.1) ∧
      c.count = c.trie.entries.length ∧ c.trie.size = c.count ∧
      c.trie.IsPruned ∧ c.trie = Trie.run history ∧
      ∀ history', run history' = c ↔ (run history').trie.entries = c.trie.entries := by
  intro c
  have h : c.Agrees history := agrees_run history
  have hsorted := h.canonical.sorted
  refine ⟨fun key => ⟨h.get?_eq key, (h.remove key).1⟩, h.mem_entries_iff,
    fun key tags htags => ⟨nodup_of_mem_tagsAfter htags, ?_⟩, isSorted_entries hsorted,
    ?_, h.count_eq.symm, h.canonical.pruned, h.trie_eq,
    fun history' => h.eq_iff (agrees_run history')⟩
  · have hkey : (c.trie.get? key).isSome := by
      rw [h.get?_eq, Option.mem_def.mp htags, Option.isSome_some]
    rw [h.count_eq]
    exact hsorted.size_pos hkey
  · rw [h.count_eq, length_entries hsorted]

/-- Once the longer of two keys is removed, the trie is the one that never had it. -/
theorem canonical_run_shared :
    let ab : Key := ['a', 'b']
    let history : List Change :=
      [.insert ab ["y", "x", "y"], .insert ['a', 'b', 'c', 'd'] ["z"], .insert [] [],
        .remove ['a', 'b', 'c', 'd']]
    tagsAfter history ab = some ["y", "x"] ∧ ["y", "x"].Nodup ∧ 0 < (run history).count ∧
      run [.insert [] [], .insert ab ["y"], .insert ab ["x"]] = run history := by
  intro ab history
  have htags : tagsAfter history ab = some ["y", "x"] := by decide +kernel
  obtain ⟨-, -, hnodup, -, -, -, -, -, hsame⟩ := canonical_run history
  exact ⟨htags, (hnodup ab _ htags).1, (hnodup ab _ htags).2, (hsame _).mpr (by decide +kernel)⟩

end Counted

end Trie

end SemanticQuery.Dictionary
