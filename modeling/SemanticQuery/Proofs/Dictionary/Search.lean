import SemanticQuery.Proofs.Dictionary.TermMap
import SemanticQuery.Proofs.Dictionary.Trie

/-!
# Searches in tries

Every level of a trie stands in the order of its keys, so a walk from level to level meets the keys
with the shorter ones first. A search that stops at its limit has met the first keys of the map that
the trie stands for.
-/

namespace SemanticQuery.Dictionary.Trie

variable {t : Trie} {accepts : List String → Bool} {depth n : ℕ} {level : Level}

/-! ### Heights -/

lemma height_lt_of_mem {p : Char × Trie} (hp : p ∈ t.branches) : p.2.height < t.height := by
  obtain ⟨_, branches⟩ := t
  rw [Trie.branches] at hp
  rw [height]
  induction branches with
  | nil => simp at hp
  | cons q branches ih =>
    rw [branchHeights]
    rcases List.mem_cons.mp hp with rfl | hp
    · omega
    · have := ih hp
      omega

lemma length_le_height (h : t.IsSorted) {key : Key} {tags : List String}
    (hkey : t.get? key = some tags) : key.length ≤ t.height := by
  induction key generalizing t with
  | nil => exact Nat.zero_le _
  | cons c key ih =>
    rw [get?_cons] at hkey
    obtain ⟨below, hc, hbelow⟩ := Option.bind_eq_some_iff.mp hkey
    have hlt := height_lt_of_mem ((SortedMap.mem_iff_lookup h.branches).mpr hc)
    exact (ih (h.of_lookup hc) hbelow).trans_lt hlt

/-! ### Levels -/

lemma append_lt_append {a b : Key} (h : a < b) (hlength : a.length = b.length) (x y : Key) :
    a ++ x < b ++ y := by
  induction a generalizing b with
  | nil =>
    obtain rfl := List.eq_nil_of_length_eq_zero hlength.symm
    exact absurd h (lt_irrefl _)
  | cons c a ih =>
    obtain ⟨d, b, rfl⟩ := List.exists_cons_of_length_pos (l := b) (by simp at hlength; omega)
    rw [List.cons_append, List.cons_append, List.cons_lt_cons_iff]
    rcases List.cons_lt_cons_iff.mp h with hlt | ⟨rfl, hlt⟩
    · exact .inl hlt
    · exact .inr ⟨rfl, ih hlt (by simpa using hlength)⟩

namespace Level

/-- The nodes of one depth, in the order of the keys that lead to them. -/
structure IsSorted (n : ℕ) (level : Level) : Prop where
  length : ∀ p ∈ level, p.1.length = n
  ascending : level.Pairwise fun p q => p.1.reverse < q.1.reverse
  sorted : ∀ p ∈ level, p.2.IsSorted

lemma isSorted_single (h : t.IsSorted) (path : Key) : IsSorted path.length [(path, t)] where
  length := by simp
  ascending := List.pairwise_singleton _ _
  sorted := by simpa using h

lemma mem_next {p : Key × Trie} :
    p ∈ level.next ↔ ∃ parent ∈ level, ∃ q ∈ parent.2.branches, p = (q.1 :: parent.1, q.2) := by
  simp only [next, List.mem_flatMap, List.mem_map, eq_comm]

lemma accepted_eq (accepts : List String → Bool) (level : Level) :
    level.accepted accepts =
      level.filterMap fun p => (p.2.tags.filter accepts).map (p.1.reverse, ·) := by
  refine List.filterMap_congr fun ⟨path, t⟩ _ => ?_
  cases htags : t.tags with
  | none => simp [htags]
  | some tags => cases haccepts : accepts tags <;> simp [htags, haccepts]

lemma mem_accepted {p : Key × List String} :
    p ∈ level.accepted accepts ↔
      ∃ q ∈ level, p.1 = q.1.reverse ∧ q.2.tags = some p.2 ∧ accepts p.2 = true := by
  obtain ⟨key, tags⟩ := p
  simp only [accepted_eq, List.mem_filterMap, Option.map_eq_some_iff, Option.filter_eq_some_iff,
    Prod.mk.injEq]
  refine exists_congr fun q => and_congr_right fun _ => ?_
  constructor
  · rintro ⟨_, htags, rfl, rfl⟩
    exact ⟨rfl, htags⟩
  · rintro ⟨rfl, htags⟩
    exact ⟨tags, htags, rfl, rfl⟩

/-- One level further down the keys still ascend. -/
lemma IsSorted.next (h : level.IsSorted n) : IsSorted (n + 1) level.next where
  length p hp := by
    obtain ⟨parent, hparent, q, -, rfl⟩ := mem_next.mp hp
    rw [List.length_cons, h.length parent hparent]
  ascending := by
    refine List.pairwise_flatMap.mpr ⟨fun parent hparent => ?_, ?_⟩
    · refine List.pairwise_map.mpr ((h.sorted parent hparent).branches.imp fun {p q} hlt => ?_)
      rw [List.reverse_cons, List.reverse_cons]
      exact List.append_left_lt (List.cons_lt_cons_iff.mpr (.inl hlt))
    · refine h.ascending.imp_of_mem fun {parent other} hparent hother hlt => ?_
      simp only [List.mem_map, forall_exists_index, and_imp]
      rintro _ p - rfl _ q - rfl
      rw [List.reverse_cons, List.reverse_cons]
      refine append_lt_append hlt ?_ _ _
      rw [List.length_reverse, List.length_reverse, h.length parent hparent, h.length other hother]
  sorted p hp := by
    obtain ⟨parent, hparent, q, hq, rfl⟩ := mem_next.mp hp
    exact (h.sorted parent hparent).of_mem hq

/-- The keys that end on a level ascend. -/
lemma IsSorted.accepted (h : level.IsSorted n) :
    (level.accepted accepts).Pairwise fun p q => p.1 < q.1 := by
  rw [accepted_eq]
  refine List.pairwise_filterMap.mpr (h.ascending.imp fun {p q} hlt => ?_)
  intro _ hp _ hq
  obtain ⟨_, -, rfl⟩ := Option.map_eq_some_iff.mp hp
  obtain ⟨_, -, rfl⟩ := Option.map_eq_some_iff.mp hq
  exact hlt

lemma IsSorted.length_of_accepted (h : level.IsSorted n) {p : Key × List String}
    (hp : p ∈ level.accepted accepts) : p.1.length = n := by
  obtain ⟨q, hq, hkey, -⟩ := mem_accepted.mp hp
  rw [hkey, List.length_reverse, h.length q hq]

end Level

/-! ### Walks -/

/-- The accepted keys on a level and on those below it, level by level. -/
def walk (accepts : List String → Bool) : ℕ → Level → List (Key × List String)
  | 0, _ => []
  | depth + 1, level => level.accepted accepts ++ walk accepts depth level.next

/-- A walk with a limit takes the beginning of the whole walk. -/
lemma collect_eq_take (depth limit : ℕ) (level : Level) :
    collect accepts depth limit level = (walk accepts depth level).take limit := by
  induction depth generalizing limit level with
  | zero => rw [collect, walk, List.take_nil]
  | succ depth ih =>
    rw [collect, walk, List.take_append]
    by_cases hlimit : limit = 0
    · simp [hlimit]
    · have hrest : limit - ((level.accepted accepts).take limit).length =
          limit - (level.accepted accepts).length := by
        rw [List.length_take]
        omega
      simp only [beq_iff_eq, hlimit, if_false, ih, hrest]

lemma mem_walk (h : level.IsSorted n) {p : Key × List String} :
    p ∈ walk accepts depth level ↔
      ∃ q ∈ level, ∃ rest : Key, rest.length < depth ∧ p.1 = q.1.reverse ++ rest ∧
        q.2.get? rest = some p.2 ∧ accepts p.2 = true := by
  induction depth generalizing n level with
  | zero => simp [walk]
  | succ depth ih =>
    rw [walk, List.mem_append, Level.mem_accepted, ih h.next]
    constructor
    · rintro (⟨q, hq, hkey, htags, haccepts⟩ | ⟨q, hq, rest, hlt, hkey, hget, haccepts⟩)
      · exact ⟨q, hq, [], Nat.succ_pos _, by rw [hkey, List.append_nil], htags, haccepts⟩
      · obtain ⟨parent, hparent, ⟨c, below⟩, hbelow, rfl⟩ := Level.mem_next.mp hq
        have hc := (SortedMap.mem_iff_lookup (h.sorted parent hparent).branches).mp hbelow
        refine ⟨parent, hparent, c :: rest, Nat.succ_lt_succ hlt, by simp [hkey], ?_, haccepts⟩
        rw [get?_cons, hc, Option.bind_some, hget]
    · rintro ⟨q, hq, rest, hlt, hkey, hget, haccepts⟩
      cases rest with
      | nil => exact .inl ⟨q, hq, by rw [hkey, List.append_nil], hget, haccepts⟩
      | cons c rest =>
        rw [get?_cons] at hget
        obtain ⟨below, hc, hbelow⟩ := Option.bind_eq_some_iff.mp hget
        have hmem := (SortedMap.mem_iff_lookup (h.sorted q hq).branches).mpr hc
        exact .inr ⟨(c :: q.1, below), Level.mem_next.mpr ⟨q, hq, (c, below), hmem, rfl⟩, rest,
          Nat.lt_of_succ_lt_succ hlt, by simp [hkey], hbelow, haccepts⟩

/-- A walk meets every key once, the shorter keys first. -/
lemma pairwise_walk (h : level.IsSorted n) :
    (walk accepts depth level).Pairwise fun p q => ShorterFirst p.1 q.1 ∧ p.1 ≠ q.1 := by
  induction depth generalizing n level with
  | zero => exact List.Pairwise.nil
  | succ depth ih =>
    refine List.pairwise_append.mpr ⟨?_, ih h.next, fun p hp q hq => ?_⟩
    · refine h.accepted.imp_of_mem fun {p q} hp hq hlt => ⟨.inr ⟨?_, hlt.le⟩, hlt.ne⟩
      rw [h.length_of_accepted hp, h.length_of_accepted hq]
    · have hlonger : p.1.length < q.1.length := by
        obtain ⟨parent, hparent, rest, -, hkey, -⟩ := (mem_walk h.next).mp hq
        rw [h.length_of_accepted hp, hkey, List.length_append, List.length_reverse,
          h.next.length parent hparent]
        omega
      exact ⟨.inl hlonger, fun heq => hlonger.ne (congrArg List.length heq)⟩

/-! ### Searches -/

/-- The trie holds the keys of a map with their tags. -/
structure Represents (t : Trie) (m : TermMap) : Prop where
  sorted : t.IsSorted
  get?_eq : ∀ key, t.get? key = m.lookup key

variable {m : TermMap}

lemma represents_empty : empty.Represents ∅ where
  sorted := isSorted_empty
  get?_eq key := by rw [get?_empty, Finmap.lookup_empty]

namespace Represents

lemma insert (h : t.Represents m) (new : List String) (key : Key) :
    (t.insert new key).Represents (m.add key new) where
  sorted := h.sorted.insert new key
  get?_eq k := by rw [get?_insert h.sorted, TagMap.lookup_add, h.get?_eq, h.get?_eq]

lemma erase (h : t.Represents m) (key : Key) : (t.erase key).Represents (m.erase key) where
  sorted := h.sorted.erase key
  get?_eq k := by rw [get?_erase h.sorted, TagMap.lookup_erase, h.get?_eq]

/-- The walk below a key meets the keys that begin with it. -/
lemma mem_walk (h : t.Represents m) {start : Key} {below : Trie}
    (hbelow : t.descend start = some below) {p : Key × List String} :
    p ∈ walk accepts (below.height + 1) [(start.reverse, below)] ↔
      start <+: p.1 ∧ m.lookup p.1 = some p.2 ∧ accepts p.2 = true := by
  have hsorted := h.sorted.descend hbelow
  have hlookup : ∀ rest, m.lookup (start ++ rest) = below.get? rest := by
    intro rest
    rw [← h.get?_eq, get?_append, hbelow, Option.bind_some]
  simp only [Trie.mem_walk (Level.isSorted_single hsorted start.reverse), List.mem_singleton,
    exists_eq_left, List.reverse_reverse]
  constructor
  · rintro ⟨rest, -, hkey, hget, haccepts⟩
    exact ⟨⟨rest, hkey.symm⟩, by rw [hkey, hlookup, hget], haccepts⟩
  · rintro ⟨⟨rest, hkey⟩, hget, haccepts⟩
    rw [← hkey, hlookup] at hget
    exact ⟨rest, Nat.lt_succ_of_le (length_le_height hsorted hget), hkey.symm, hget, haccepts⟩

lemma walk_eq (h : t.Represents m) {start : Key} {below : Trie}
    (hbelow : t.descend start = some below) :
    walk accepts (below.height + 1) [(start.reverse, below)] =
      ((m.matching start accepts).sort ShorterFirst).map fun key => (key, m.tagsOf key) := by
  set found := walk accepts (below.height + 1) [(start.reverse, below)] with hfound
  have hpairwise : found.Pairwise fun p q => ShorterFirst p.1 q.1 ∧ p.1 ≠ q.1 :=
    pairwise_walk (Level.isSorted_single (h.sorted.descend hbelow) start.reverse)
  have hkeys : (found.map Prod.fst).toFinset = m.matching start accepts := by
    ext key
    simp only [List.mem_toFinset, List.mem_map, TermMap.mem_matching, hfound, Prod.exists,
      exists_and_right, exists_eq_right, h.mem_walk hbelow, exists_and_left]
  have hsort : (m.matching start accepts).sort ShorterFirst = found.map Prod.fst := by
    rw [← hkeys, List.toFinset_sort ShorterFirst]
    · exact List.pairwise_map.mpr (hpairwise.imp fun hpq => hpq.1)
    · exact List.pairwise_map.mpr (hpairwise.imp fun hpq => hpq.2)
  have htags : ∀ p ∈ found, (p.1, m.tagsOf p.1) = p := by
    intro p hp
    rw [TagMap.tagsOf, ((h.mem_walk hbelow).mp hp).2.1]
    rfl
  rw [hsort, List.map_map]
  exact (List.map_id found).symm.trans (List.map_congr_left fun p hp => (htags p hp).symm)

lemma matching_eq_empty (h : t.Represents m) {start : Key} (hbelow : t.descend start = none) :
    m.matching start accepts = ∅ := by
  refine Finset.eq_empty_of_forall_notMem fun key hkey => ?_
  obtain ⟨⟨rest, rfl⟩, tags, htags, -⟩ := TermMap.mem_matching.mp hkey
  rw [← h.get?_eq, get?_append, hbelow] at htags
  exact absurd htags (by simp)

/-- A search gives the shortest keys that begin with a key, in the order of the keys. -/
theorem search_eq (h : t.Represents m) (start : Key) (limit : ℕ) (accepts : List String → Bool) :
    t.search start limit accepts =
      ((m.shortest start limit accepts).mergeSort fun a b => decide (a ≤ b)).map
        fun key => (key, m.tagsOf key) := by
  rw [search, TermMap.shortest]
  cases hbelow : t.descend start with
  | none => simp [h.matching_eq_empty hbelow]
  | some below =>
    dsimp only
    rw [collect_eq_take, h.walk_eq hbelow, ← List.map_take]
    exact (List.map_mergeSort fun a _ b _ => by simp).symm

lemma search_eq_nil_iff (h : t.Represents m) (start : Key) (limit : ℕ)
    (accepts : List String → Bool) :
    t.search start limit accepts = [] ↔ limit = 0 ∨ m.matching start accepts = ∅ := by
  rw [h.search_eq, List.map_eq_nil_iff, ← List.length_eq_zero_iff, List.length_mergeSort,
    List.length_eq_zero_iff, TermMap.shortest, List.take_eq_nil_iff, ← List.length_eq_zero_iff,
    Finset.length_sort, Finset.card_eq_zero]

end Represents

end SemanticQuery.Dictionary.Trie
