import Mathlib.Data.Char
import SemanticQuery.Dictionary.Trie
import SemanticQuery.Proofs.SortedMap

/-!
# Laws of tries

A trie whose branches ascend is a finite map: inserting changes the tags of one key, and erasing
takes away one key. Pruning changes no look-up, since a dead branch leads to no key.
-/

namespace SemanticQuery.Dictionary.Trie

/-! ### Branches in order -/

/-- At every node the branches stand in the order of their characters. -/
inductive IsSorted : Trie → Prop where
  | node (tags : Option (List String)) {branches : List (Char × Trie)}
    (hbranches : SortedMap.IsSorted branches) (hbelow : ∀ p ∈ branches, IsSorted p.2) :
    IsSorted (node tags branches)

variable {t : Trie} {new : List String} {key : Key}

lemma isSorted_empty : empty.IsSorted := .node none SortedMap.isSorted_nil (by simp)

namespace IsSorted

lemma branches (h : t.IsSorted) : SortedMap.IsSorted t.branches := by
  obtain ⟨_, hbranches, -⟩ := h
  exact hbranches

lemma of_mem (h : t.IsSorted) {p : Char × Trie} (hp : p ∈ t.branches) : p.2.IsSorted := by
  obtain ⟨_, -, hbelow⟩ := h
  exact hbelow p hp

lemma of_lookup (h : t.IsSorted) {c : Char} {below : Trie} (hc : t.branches.lookup c = some below) :
    below.IsSorted :=
  h.of_mem ((SortedMap.mem_iff_lookup h.branches).mpr hc)

/-- What lies below a branch that may be missing. -/
lemma getD_lookup (h : t.IsSorted) (c : Char) : ((t.branches.lookup c).getD empty).IsSorted := by
  cases hc : t.branches.lookup c with
  | none => exact isSorted_empty
  | some below => exact h.of_lookup hc

lemma alter (h : t.IsSorted) {c : Char} {f : Option Trie → Option Trie}
    (hf : ∀ below ∈ f (t.branches.lookup c), below.IsSorted) (tags : Option (List String)) :
    (Trie.node tags (SortedMap.alter c f t.branches)).IsSorted := by
  refine .node tags (SortedMap.isSorted_alter h.branches) fun p hp => ?_
  rcases SortedMap.mem_alter h.branches hp with hp | hp
  · exact h.of_mem hp
  · exact hf p.2 hp

lemma insert (h : t.IsSorted) (new : List String) (key : Key) : (t.insert new key).IsSorted := by
  induction key generalizing t with
  | nil => exact .node _ h.branches fun p hp => h.of_mem hp
  | cons c key ih =>
    refine h.alter (fun below hbelow => ?_) _
    obtain rfl := Option.mem_some.mp hbelow
    exact ih (h.getD_lookup c)

lemma erase (h : t.IsSorted) (key : Key) : (t.erase key).IsSorted := by
  induction key generalizing t with
  | nil => exact .node _ h.branches fun p hp => h.of_mem hp
  | cons c key ih =>
    refine h.alter (fun below hbelow => ?_) _
    obtain ⟨hmap, -⟩ := Option.filter_eq_some_iff.mp hbelow
    obtain ⟨old, hold, rfl⟩ := Option.map_eq_some_iff.mp hmap
    exact ih (h.of_lookup hold)

lemma descend (h : t.IsSorted) {below : Trie} (hbelow : descend key t = some below) :
    below.IsSorted := by
  induction key generalizing t with
  | nil =>
    obtain rfl : t = below := by simpa [Trie.descend] using hbelow
    exact h
  | cons c key ih =>
    obtain ⟨branch, hc, hbranch⟩ := Option.bind_eq_some_iff.mp hbelow
    exact ih (h.of_lookup hc) hbranch

end IsSorted

/-! ### Look-ups -/

lemma get?_cons (t : Trie) (c : Char) (key : Key) :
    t.get? (c :: key) = (t.branches.lookup c).bind fun below => below.get? key := by
  rw [get?, descend, Option.bind_assoc]
  rfl

@[simp] lemma get?_empty (key : Key) : empty.get? key = none := by
  cases key <;> rfl

lemma get?_getD_empty (below : Option Trie) (key : Key) :
    (below.getD empty).get? key = below.bind fun t => t.get? key := by
  cases below <;> simp

lemma get?_of_isDead (h : t.isDead = true) (key : Key) : t.get? key = none := by
  obtain ⟨tags, branches⟩ := t
  obtain ⟨rfl, rfl⟩ : tags = none ∧ branches = [] := by
    simpa [isDead, Trie.tags, Trie.branches] using h
  exact get?_empty key

lemma get?_append (t : Trie) (start rest : Key) :
    t.get? (start ++ rest) = (descend start t).bind fun below => below.get? rest := by
  induction start generalizing t with
  | nil => rfl
  | cons c start ih =>
    rw [List.cons_append, get?_cons, descend, Option.bind_assoc]
    exact Option.bind_congr fun below _ => ih below

/-- A changed branch changes the keys that begin with its character. -/
lemma get?_node_alter (h : t.IsSorted) (tags : Option (List String)) (c d : Char)
    (f : Option Trie → Option Trie) (k : Key) :
    (node tags (SortedMap.alter c f t.branches)).get? (d :: k) =
      if d = c then (f (t.branches.lookup c)).bind fun below => below.get? k
      else t.get? (d :: k) := by
  have hlookup : (SortedMap.alter c f t.branches).lookup d =
      if d = c then f (t.branches.lookup c) else t.branches.lookup d :=
    SortedMap.lookup_alter h.branches d
  rw [get?_cons, get?_cons, branches, hlookup]
  split_ifs <;> rfl

/-- Inserting joins the tags of one key. -/
lemma get?_insert (h : t.IsSorted) (new : List String) (key k : Key) :
    (t.insert new key).get? k =
      if k = key then some (union ((t.get? key).getD []) new) else t.get? k := by
  induction key generalizing t k with
  | nil =>
    cases k with
    | nil => rfl
    | cons d k => rw [if_neg (List.cons_ne_nil d k), get?_cons, get?_cons]; rfl
  | cons c key ih =>
    cases k with
    | nil => rfl
    | cons d k =>
      rw [insert, get?_node_alter h]
      by_cases hd : d = c
      · subst hd
        rw [if_pos rfl, Option.bind_some, ih (h.getD_lookup d), get?_getD_empty, get?_getD_empty,
          ← get?_cons, ← get?_cons]
        simp
      · rw [if_neg hd, if_neg (by simp [hd])]

/-- Pruning a dead trie changes no look-up. -/
lemma get?_pruned (t : Option Trie) (k : Key) :
    ((t.filter fun rest => !rest.isDead).bind fun rest => rest.get? k) =
      t.bind fun rest => rest.get? k := by
  cases t with
  | none => rfl
  | some rest =>
    by_cases hdead : rest.isDead = true
    · simp [Option.filter, hdead, get?_of_isDead hdead]
    · simp [Option.filter, hdead]

/-- Erasing takes away one key. -/
lemma get?_erase (h : t.IsSorted) (key k : Key) :
    (t.erase key).get? k = if k = key then none else t.get? k := by
  induction key generalizing t k with
  | nil =>
    cases k with
    | nil => rfl
    | cons d k => rw [if_neg (List.cons_ne_nil d k), get?_cons, get?_cons]; rfl
  | cons c key ih =>
    cases k with
    | nil => rfl
    | cons d k =>
      rw [erase, get?_node_alter h]
      by_cases hd : d = c
      · subst hd
        rw [if_pos rfl, get?_pruned, get?_cons]
        cases hc : t.branches.lookup d with
        | none => simp
        | some below =>
          rw [Option.map_some, Option.bind_some, Option.bind_some, ih (h.of_lookup hc)]
          simp
      · rw [if_neg hd, if_neg (by simp [hd])]

end SemanticQuery.Dictionary.Trie
