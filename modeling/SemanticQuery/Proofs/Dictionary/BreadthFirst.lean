import Mathlib
import SemanticQuery.Proofs.Dictionary.History

/-!
# Searches breadth first

A search that takes the nodes from a queue, and puts the branches of each node behind the others,
meets the nodes level by level. So it meets the keys with the shorter ones first, and where it stops
at its limit it has missed none that comes before those it has found.
-/

namespace SemanticQuery.Dictionary.Trie

variable {t : Trie} {accepts : List String → Bool}

/-! ### Queues -/

/-- The branches of a node, each with the characters that lead to it. -/
def unfolded (p : Key × Trie) : Level := p.2.branches.map fun (c, below) => (c :: p.1, below)

/-- The key that ends at a node, if its tags are accepted. -/
def accepted? (accepts : List String → Bool) (p : Key × Trie) : Option (Key × List String) :=
  (p.2.tags.filter accepts).map (p.1.reverse, ·)

lemma sum_sizeOf_lt (branches : List (Char × Trie)) :
    (branches.map fun q => sizeOf q.2).sum < sizeOf branches := by
  induction branches with
  | nil => decide
  | cons q branches ih =>
    rw [List.map_cons, List.sum_cons, List.cons.sizeOf_spec, Prod.mk.sizeOf_spec]
    omega

lemma sum_sizeOf_unfolded_lt (p : Key × Trie) :
    ((unfolded p).map fun q => sizeOf q.2).sum < sizeOf p.2 := by
  obtain ⟨path, tags, branches⟩ := p
  have hlt := sum_sizeOf_lt branches
  rw [unfolded, List.map_map, Trie.node.sizeOf_spec]
  exact hlt.trans_le (Nat.le_add_left _ _)

/-- The first `limit` accepted keys of a queue of nodes. The branches of a node that is taken from
the queue go to its end. -/
def serve (accepts : List String → Bool) (limit : ℕ) (queue : Level) : List (Key × List String) :=
  match limit, queue with
  | 0, _ => []
  | _, [] => []
  | limit + 1, p :: queue =>
    match accepted? accepts p with
    | some found => found :: serve accepts limit (queue ++ unfolded p)
    | none => serve accepts (limit + 1) (queue ++ unfolded p)
termination_by (queue.map fun p => sizeOf p.2).sum
decreasing_by
  all_goals
    have := sum_sizeOf_unfolded_lt p
    simp only [List.map_append, List.sum_append, List.map_cons, List.sum_cons]
    omega

lemma serve_zero (queue : Level) : serve accepts 0 queue = [] := by rw [serve]

lemma serve_nil (limit : ℕ) : serve accepts limit [] = [] := by
  cases limit <;> rw [serve]
  exact Nat.succ_ne_zero _

/-- A queue whose first nodes are those of one level is served level by level. -/
lemma serve_append (limit : ℕ) (level queue : Level) :
    serve accepts limit (level ++ queue) =
      (level.accepted accepts).take limit ++
        serve accepts (limit - (level.accepted accepts).length) (queue ++ level.next) := by
  induction level generalizing limit queue with
  | nil => simp [Level.accepted, Level.next]
  | cons p level ih =>
    have hnext : Level.next (p :: level) = unfolded p ++ Level.next level := rfl
    have haccepted : Level.accepted accepts (p :: level) =
        (accepted? accepts p).toList ++ Level.accepted accepts level := by
      rw [Level.accepted_eq, Level.accepted_eq, List.filterMap_cons]
      cases hp : accepted? accepts p <;> rw [accepted?] at hp <;> rw [hp] <;> rfl
    cases limit with
    | zero => simp [serve_zero]
    | succ limit =>
      rw [List.cons_append, serve, haccepted, hnext]
      cases accepted? accepts p with
      | none =>
        dsimp only
        rw [List.append_assoc, ih, List.append_assoc]
        rfl
      | some found =>
        dsimp only
        rw [List.append_assoc, ih, List.append_assoc, Option.toList_some, List.singleton_append,
          List.take_succ_cons, List.length_cons, Nat.add_sub_add_right, List.cons_append]

/-- Serving a queue takes the beginning of the walk from level to level. -/
lemma serve_eq_take {depth : ℕ} (limit : ℕ) {level : Level} (h : ∀ p ∈ level, p.2.height < depth) :
    serve accepts limit level = (walk accepts depth level).take limit := by
  induction depth generalizing limit level with
  | zero =>
    have hnone : level = [] :=
      List.eq_nil_iff_forall_not_mem.mpr fun p hp => Nat.not_lt_zero _ (h p hp)
    rw [hnone, serve_nil, walk, List.take_nil]
  | succ depth ih =>
    have hbelow : ∀ p ∈ level.next, p.2.height < depth := by
      intro p hp
      obtain ⟨parent, hparent, q, hq, rfl⟩ := Level.mem_next.mp hp
      have hlt := height_lt_of_mem hq
      have := h parent hparent
      dsimp only
      omega
    rw [walk, List.take_append, ← List.append_nil level, serve_append, List.append_nil,
      List.nil_append, ih _ hbelow]

/-- The first accepted keys that a queue with the node of a key serves. -/
def served (t : Trie) (start : Key) (limit : ℕ) (accepts : List String → Bool) :
    List (Key × List String) :=
  match descend start t with
  | some below => serve accepts limit [(start.reverse, below)]
  | none => []

/-- All accepted keys that begin with a key, level by level. -/
def walked (t : Trie) (start : Key) (accepts : List String → Bool) : List (Key × List String) :=
  match descend start t with
  | some below => walk accepts (below.height + 1) [(start.reverse, below)]
  | none => []

/-- The keys in the order of their characters. -/
def ordered (found : List (Key × List String)) : List (Key × List String) :=
  found.mergeSort fun p q => decide (p.1 ≤ q.1)

lemma served_eq_take (t : Trie) (start : Key) (limit : ℕ) :
    t.served start limit accepts = (t.walked start accepts).take limit := by
  unfold served walked
  split
  · exact serve_eq_take limit (by simp)
  · rw [List.take_nil]

lemma search_eq_ordered (t : Trie) (start : Key) (limit : ℕ) :
    t.search start limit accepts = ordered (t.served start limit accepts) := by
  have horder : (fun p q : Key × List String => decide ¬ q.1 < p.1) =
      fun p q => decide (p.1 ≤ q.1) := by
    funext p q
    simp only [not_lt]
  rw [served_eq_take, search, walked, ordered, ← horder]
  cases descend start t with
  | none => rw [List.take_nil, List.mergeSort_nil]
  | some below => rw [← collect_eq_take]

/-! ### Walks -/

lemma descend_append (t : Trie) (start rest : Key) :
    descend (start ++ rest) t = (descend start t).bind (descend rest) := by
  induction start generalizing t with
  | nil => rfl
  | cons c start ih =>
    rw [List.cons_append, descend, descend, Option.bind_assoc]
    exact Option.bind_congr fun below _ => ih below

/-- Where a character of a key has no branch, the key leads nowhere. -/
lemma descend_eq_none {before rest : Key} {c : Char} {below : Trie}
    (hbefore : descend before t = some below) (hc : below.branches.lookup c = none) :
    descend (before ++ c :: rest) t = none := by
  rw [descend_append, hbefore, Option.bind_some, descend, hc, Option.bind_none]

namespace Represents

variable {m : TermMap}

lemma mem_walked (h : t.Represents m) (start : Key) (p : Key × List String) :
    p ∈ t.walked start accepts ↔ start <+: p.1 ∧ t.get? p.1 = some p.2 ∧ accepts p.2 = true := by
  rw [h.get?_eq]
  cases hbelow : descend start t with
  | some below =>
    rw [walked, hbelow]
    exact h.mem_walk hbelow
  | none =>
    rw [walked, hbelow]
    refine iff_of_false List.not_mem_nil ?_
    rintro ⟨⟨rest, hrest⟩, hkey, -⟩
    rw [← h.get?_eq, ← hrest, get?_append, hbelow] at hkey
    exact absurd hkey (Option.some_ne_none _).symm

lemma pairwise_walked (h : t.Represents m) (start : Key) :
    (t.walked start accepts).Pairwise fun p q =>
      p.1.length < q.1.length ∨ p.1.length = q.1.length ∧ p.1 < q.1 := by
  unfold walked
  split
  next below hbelow =>
    have hlevel := Level.isSorted_single (h.sorted.descend hbelow) start.reverse
    refine (pairwise_walk hlevel).imp ?_
    rintro p q ⟨hlt | ⟨hlength, hle⟩, hne⟩
    · exact .inl hlt
    · exact .inr ⟨hlength, hle.lt_of_ne hne⟩
  next => exact List.Pairwise.nil

end Represents

/-! ### Histories -/

lemma exists_represents_run (history : List Change) : ∃ m, (run history).Represents m := by
  induction history using List.reverseRecOn with
  | nil => exact ⟨∅, represents_empty⟩
  | append_singleton history change ih =>
    obtain ⟨m, h⟩ := ih
    rw [run, List.foldl_concat]
    cases change with
    | insert key tags => exact ⟨_, h.insert tags key⟩
    | remove key => exact ⟨_, h.erase key⟩

lemma get?_run (history : List Change) (key : Key) :
    (run history).get? key = tagsAfter history key := by
  have h := Counted.agrees_run history
  rw [← h.trie_eq, h.get?_eq]

lemma pairwise_ordered {found : List (Key × List String)}
    (h : found.Pairwise fun p q => p.1 ≠ q.1) :
    (ordered found).Pairwise fun p q => p.1 < q.1 := by
  have hsorted : (ordered found).Pairwise fun p q => p.1 ≤ q.1 := by
    refine (List.pairwise_mergeSort ?_ ?_ found).imp of_decide_eq_true
    · intro p q r hpq hqr
      exact decide_eq_true ((of_decide_eq_true hpq).trans (of_decide_eq_true hqr))
    · intro p q
      simpa using le_total p.1 q.1
  have hdistinct : (ordered found).Pairwise fun p q => p.1 ≠ q.1 :=
    (List.mergeSort_perm found _).symm.pairwise h fun hne => hne.symm
  exact (hsorted.and hdistinct).imp fun hpq => hpq.1.lt_of_ne hpq.2

/-- After every history a search gives the first keys of those that begin with `start` and have
accepted tags, the shorter ones first and those of one length in the order of their characters, as
many as the limit allows; it gives each of them once, with its tags, in the order of the characters.
They are the keys that a queue serves. With no limit to spend, or where a character of `start` has
no branch, there are none. -/
theorem search_run (history : List Change) (start : Key) (limit : ℕ)
    (accepts : List String → Bool) :
    let t := run history
    let found := t.search start limit accepts
    (∃ ranked : List (Key × List String),
      ranked.Pairwise (fun p q =>
        p.1.length < q.1.length ∨ p.1.length = q.1.length ∧ p.1 < q.1) ∧
      (∀ key tags, (key, tags) ∈ ranked ↔
        start <+: key ∧ tagsAfter history key = some tags ∧ accepts tags = true) ∧
      found = (ranked.take limit).mergeSort (fun p q => decide (p.1 ≤ q.1)) ∧
      found.length = min limit ranked.length) ∧
    found.Pairwise (fun p q => p.1 < q.1) ∧
    found = (t.served start limit accepts).mergeSort (fun p q => decide (p.1 ≤ q.1)) ∧
    (limit = 0 ∨ (∃ before c rest below, start = before ++ c :: rest ∧
      t.descend before = some below ∧ below.branches.lookup c = none) → found = []) := by
  intro t found
  obtain ⟨m, h⟩ := exists_represents_run history
  have hranked : (t.walked start accepts).Pairwise _ := h.pairwise_walked start
  have hserved : found = ordered (t.served start limit accepts) := search_eq_ordered t start limit
  have hfound : found = ordered ((t.walked start accepts).take limit) := by
    rw [hserved, served_eq_take]
  have hlength : found.length = min limit (t.walked start accepts).length := by
    rw [hfound, ordered, List.length_mergeSort, List.length_take]
  refine ⟨⟨t.walked start accepts, hranked, fun key tags => ?_, hfound, hlength⟩, ?_, hserved, ?_⟩
  · rw [h.mem_walked, get?_run]
  · rw [hfound]
    refine pairwise_ordered ((hranked.imp ?_).sublist (List.take_sublist _ _))
    rintro p q (hlt | ⟨-, hlt⟩) heq
    · exact hlt.ne (congrArg List.length heq)
    · exact hlt.ne heq
  · intro hnone
    have hempty : (t.walked start accepts).take limit = [] := by
      rcases hnone with hlimit | ⟨before, c, rest, below, hstart, hbefore, hc⟩
      · rw [hlimit, List.take_zero]
      · rw [walked, hstart, descend_eq_none hbefore hc, List.take_nil]
    rw [hfound, hempty, ordered, List.mergeSort_nil]

/-- The limit goes to the shorter keys, a key whose tags are not accepted takes none of it, and a
character that has no branch ends the search. -/
theorem search_run_shallow :
    let history : List Change :=
      [.insert ['a', 'b', 'z', 'z'] ["x"], .insert ['a', 'b'] ["y"], .insert ['a', 'b', 'd'] ["x"],
        .insert ['a', 'b', 'c'] ["x"]]
    let accepts : List String → Bool := fun tags => tags.contains "x"
    (run history).search ['a', 'b'] 2 accepts =
        [(['a', 'b', 'c'], ["x"]), (['a', 'b', 'd'], ["x"])] ∧
      (∃ below, (run history).descend ['a'] = some below ∧ below.branches.lookup 'z' = none) ∧
      (run history).search ['a', 'z', 'b'] 2 accepts = [] := by
  intro history accepts
  obtain ⟨below, hbelow⟩ : ∃ below, (run history).descend ['a'] = some below :=
    Option.isSome_iff_exists.mp (by decide +kernel)
  have hz : (((run history).descend ['a']).bind fun p => p.branches.lookup 'z').isNone := by
    decide +kernel
  rw [hbelow, Option.bind_some, Option.isNone_iff_eq_none] at hz
  refine ⟨by cbv, ⟨below, hbelow, hz⟩, ?_⟩
  exact (search_run history ['a', 'z', 'b'] 2 accepts).2.2.2
    (.inr ⟨['a'], 'z', ['b'], below, rfl, hbelow, hz⟩)

end SemanticQuery.Dictionary.Trie
