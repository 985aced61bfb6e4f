import SemanticQuery.Proofs.Dictionary.Entries
import SemanticQuery.Proofs.Dictionary.Terms

/-!
# Indexes stand for maps

Every trie of an index represents the map that the same steps make of no terms, so the look-ups of
the index are those of the maps.
-/

namespace SemanticQuery.Dictionary

/-! ### Snapshots -/

/-- The tries of a state represent the maps of terms. -/
structure Snapshot.Represents (s : Snapshot) (d : Terms) : Prop where
  everyone : s.forward.Represents d.everyone
  endings : s.suffix.Represents d.endings
  sorted : SortedMap.IsSorted s.tenants
  ofTenant : ∀ id, (s.tenantTrie id).Represents (d.ofTenant id)

namespace Snapshot

variable {s : Snapshot} {d : Terms}

lemma represents_empty : Snapshot.empty.Represents .empty where
  everyone := Trie.represents_empty
  endings := Trie.represents_empty
  sorted := SortedMap.isSorted_nil
  ofTenant _ := Trie.represents_empty

/-- Registering a tenant changes no trie. -/
lemma tenantTrie_register (h : SortedMap.IsSorted s.tenants) (tenant id : Int) :
    (s.register tenant).tenantTrie id = s.tenantTrie id := by
  rw [tenantTrie, register, SortedMap.lookup_alter h, tenantTrie]
  split_ifs with hid
  · rw [hid, Option.getD_some]
  · rfl

namespace Represents

lemma register (h : s.Represents d) (tenant : Int) : (s.register tenant).Represents d where
  everyone := h.everyone
  endings := h.endings
  sorted := SortedMap.isSorted_alter h.sorted
  ofTenant id := by
    rw [tenantTrie_register h.sorted]
    exact h.ofTenant id

lemma insert (h : s.Represents d) (term : String) (tenant : Option Int) (tags : List String) :
    (s.insert term tenant tags).Represents (d.insert term tenant tags) := by
  have heveryone : Snapshot.Represents { s with forward := s.forward.insert tags (keyOf term) }
      { d with everyone := d.everyone.add (keyOf term) tags } :=
    { h with everyone := h.everyone.insert tags (keyOf term) }
  cases tenant with
  | none => exact heveryone
  | some id =>
    simp only [Snapshot.insert, Terms.insert, Option.getD_some, beq_iff_eq]
    split_ifs with hzero hpos hneg hneg
    · exact heveryone
    · omega
    · refine { h with sorted := SortedMap.isSorted_alter h.sorted, ofTenant := fun other => ?_ }
      rw [tenantTrie, SortedMap.lookup_alter h.sorted]
      dsimp only
      rw [Function.update_apply]
      split_ifs with hother
      · exact (h.ofTenant id).insert tags (keyOf term)
      · exact h.ofTenant other
    · exact h
    · omega

lemma insertSuffix (h : s.Represents d) (reversedTerm : String) (tags : List String) :
    (s.insertSuffix reversedTerm tags).Represents (d.insertSuffix reversedTerm tags) :=
  { h with endings := h.endings.insert tags (keyOf reversedTerm) }

lemma remove (h : s.Represents d) (term : String) (retained : List String) :
    (s.remove term retained).Represents (d.remove term retained) := by
  have hremoved : (s.forward.get? (keyOf term)).any namesMetricOrDimension =
      namesMetricOrDimension (d.everyone.tagsOf (keyOf term)) := by
    rw [h.everyone.get?_eq, TagMap.tagsOf]
    cases d.everyone.lookup (keyOf term) <;> rfl
  refine { h with everyone := ?_, endings := ?_ }
  · simp only [Snapshot.remove, Terms.remove, List.isEmpty_iff]
    split_ifs
    · exact h.everyone.erase (keyOf term)
    · exact (h.everyone.erase (keyOf term)).insert retained (keyOf term)
  · simp only [Snapshot.remove, Terms.remove, hremoved]
    split_ifs
    · exact h.endings.erase (keyOf term).reverse
    · exact h.endings

end Represents

end Snapshot

/-! ### Builders -/

/-- The builder holds the terms of a draft, and its endings in ascending order. -/
structure Builder.Represents (b : Builder) (d : Draft) : Prop where
  snapshot : b.snapshot.Represents d.terms
  sorted : SortedMap.IsSorted b.suffixes
  lookup_eq : ∀ ending, b.suffixes.lookup ending = d.endings.lookup ending

namespace Builder

variable {b : Builder} {d : Draft}

lemma represents_empty : Builder.empty.Represents .empty where
  snapshot := Snapshot.represents_empty
  sorted := SortedMap.isSorted_nil
  lookup_eq _ := rfl

namespace Represents

lemma give (h : b.Represents d) (a : Addition) : (b.give a).Represents (d.give a) := by
  cases a with
  | term e => exact { h with snapshot := h.snapshot.insert e.term e.tenant e.tags }
  | ending e =>
    refine { h with sorted := SortedMap.isSorted_alter h.sorted, lookup_eq := fun ending => ?_ }
    simp only [Builder.give, addSuffix, Draft.give, SortedMap.lookup_alter h.sorted,
      TagMap.lookup_add, h.lookup_eq]

lemma foldl_give (h : b.Represents d) (additions : List Addition) :
    (additions.foldl Builder.give b).Represents (additions.foldl Draft.give d) := by
  induction additions generalizing b d with
  | nil => exact h
  | cons a additions ih => exact ih (h.give a)

/-- The endings of a builder are those of the draft, one after the other. -/
lemma suffixes_eq (h : b.Represents d) : b.suffixes = d.endings.pairs :=
  TagMap.eq_pairs h.sorted fun p => by rw [SortedMap.mem_iff_lookup h.sorted, h.lookup_eq]

lemma build (h : b.Represents d) : b.build.Represents d.build := by
  rw [Builder.build, Draft.build, h.suffixes_eq, TagMap.pairs, List.foldl_map]
  exact List.foldl_rel h.snapshot fun ending _ _ _ hstate =>
    hstate.insertSuffix ending (d.endings.tagsOf ending)

end Represents

end Builder

/-! ### Look-ups -/

lemma length_surface (key : Key) : (String.ofList (surfaceOf key)).length = key.length := by
  rw [String.length_ofList, surfaceOf, List.length_map]

/-- Ranking hits puts the longer keys first. -/
lemma rank_search {t : Trie} {m : TermMap} (h : t.Represents m) {f : Key × List String → Hit}
    (hf : ∀ p, (f p).surface.length = p.1.length) (start : Key) (limit size : ℕ)
    (accepts : List String → Bool) :
    rank size ((t.search start limit accepts).map f) =
      (m.hits start limit size accepts).map f := by
  rw [rank, TermMap.hits, List.map_take, List.map_take, h.search_eq, ← mergeSort_mergeSort]
  congr 1
  rw [List.map_map, List.map_map]
  exact (List.map_mergeSort fun a _ b _ => by simp [hf]).symm

namespace Snapshot.Represents

variable {s : Snapshot} {d : Terms}

/-- A search falls back to the terms of the tenant where everyone has none. -/
lemma findPrefix_fst (h : s.Represents d) (tenant : Int) (key : Key) (limit : ℕ) (scope : Scope) :
    (s.findPrefix tenant key limit scope).1 =
      (if d.everyone.matching key scope.accepts = ∅ ∧ 0 < tenant then s.tenantTrie tenant
        else s.forward).search key limit scope.accepts := by
  have hempty : ∀ {t : Trie} {m : TermMap}, t.Represents m → limit = 0 →
      t.search key limit scope.accepts = [] :=
    fun ht hlimit => (ht.search_eq_nil_iff key limit scope.accepts).mpr (.inl hlimit)
  rw [findPrefix]
  by_cases htenant : 0 < tenant
  · by_cases hnone : s.forward.search key limit scope.accepts = []
    · rcases (h.everyone.search_eq_nil_iff key limit scope.accepts).mp hnone with hlimit | hset
      · -- with no limit to spend both searches are empty
        split_ifs <;> simp [hempty h.everyone hlimit, hempty (h.ofTenant tenant) hlimit]
      · simp [hnone, hset, htenant]
    · have hset : d.everyone.matching key scope.accepts ≠ ∅ := fun hset =>
        hnone ((h.everyone.search_eq_nil_iff key limit scope.accepts).mpr (.inr hset))
      simp [hnone, hset]
  · simp [htenant]

lemma findPrefix_snd (h : s.Represents d) (tenant : Int) (key : Key) (limit : ℕ) (scope : Scope) :
    (s.findPrefix tenant key limit scope).2.Represents d := by
  rw [findPrefix]
  split_ifs
  · exact h.register tenant
  · exact h

lemma lookupPrefix_fst (h : s.Represents d) (size : ℕ) (tenant : Int) (text : String) (limit : ℕ)
    (scope : Scope) :
    (s.lookupPrefix size tenant text limit scope).1 =
      d.lookupPrefix size tenant text limit scope := by
  have hlength : ∀ p, (Hit.ofEntry text p).surface.length = p.1.length :=
    fun p => length_surface p.1
  rw [Snapshot.lookupPrefix, Terms.lookupPrefix]
  dsimp only
  rw [h.findPrefix_fst]
  split_ifs
  · exact rank_search (h.ofTenant tenant) hlength (keyOf text) limit size scope.accepts
  · exact rank_search h.everyone hlength (keyOf text) limit size scope.accepts

lemma lookupSuffix (h : s.Represents d) (size : ℕ) (text : String) (limit : ℕ) (scope : Scope) :
    s.lookupSuffix size text limit scope = d.lookupSuffix size text limit scope := by
  have hlength : ∀ p, (Hit.ofReversed text p).surface.length = p.1.length := by
    intro p
    rw [← length_surface p.1, Hit.ofReversed, String.length_ofList, String.length_ofList,
      List.length_reverse]
  exact rank_search h.endings hlength (keyOf (reversed text)) limit size scope.accepts

lemma dimensionValues (h : s.Represents d) (model element : Int) :
    s.dimensionValues model element = d.dimensionValues model element := by
  rw [Snapshot.dimensionValues, h.everyone.entries_eq, TagMap.pairs, List.filter_map, List.map_map]
  refine congrArg (List.map _) (List.filter_congr fun key _ => ?_)
  rw [Bool.eq_iff_iff, decide_eq_true_eq]
  simp [and_assoc]

end Snapshot.Represents

/-! ### Runs -/

namespace Index

variable {i : Index} {d : Terms}

/-- One step leads from terms that the index stands for to terms that it stands for. -/
lemma represents_step (h : i.current.Represents d) (op : Op) :
    (i.step op).current.Represents (d.step op) := by
  have hbuild : ∀ additions : List Addition,
      (additions.foldl Builder.give .empty).build.Represents
        (additions.foldl Draft.give .empty).build :=
    fun additions => (Builder.represents_empty.foldl_give additions).build
  cases op with
  | insert term tenant tags => exact h.insert term tenant tags
  | insertSuffix reversedTerm tags => exact h.insertSuffix reversedTerm tags
  | remove term retained => exact h.remove term retained
  | clear => exact Snapshot.represents_empty
  | rebuild additions => exact hbuild additions
  | reload text =>
    simp only [step, Terms.step, reload]
    cases Entries.load text with
    | error _ => exact h
    | ok es =>
      have hdocument : Snapshot.ofEntries es = (es.additions.foldl Builder.give .empty).build := by
        rw [Entries.additions, List.foldl_append, List.foldl_map, List.foldl_map]
        rfl
      simp only [Except.map, Except.toOption, Option.getD_some, publish, hdocument]
      exact hbuild es.additions
  | lookupPrefix tenant text limit scope => exact h.findPrefix_snd tenant (keyOf text) limit scope
  | lookupSuffix text limit scope => exact h

lemma represents_run (h : i.current.Represents d) (ops : List Op) :
    (i.run ops).current.Represents (d.run ops) := by
  induction ops generalizing i d with
  | nil => exact h
  | cons op ops ih => exact ih (represents_step h op)

lemma represents_run_empty (size : ℕ) (ops : List Op) :
    ((ofSnapshot size .empty).run ops).current.Represents (Terms.empty.run ops) :=
  represents_run Snapshot.represents_empty ops

lemma searchSize_step (i : Index) (op : Op) : (i.step op).searchSize = i.searchSize := by
  cases op with
  | reload text =>
    simp only [step, reload]
    cases Entries.load text <;> rfl
  | _ => rfl

lemma searchSize_run (i : Index) (ops : List Op) : (i.run ops).searchSize = i.searchSize := by
  induction ops generalizing i with
  | nil => rfl
  | cons op ops ih => exact (ih (i.step op)).trans (searchSize_step i op)

/-- After any steps the look-ups of an index are those of the maps after the same steps. -/
theorem lookups_run (size : ℕ) (ops : List Op) (tenant : Int) (text : String) (limit : ℕ)
    (scope : Scope) :
    (((ofSnapshot size .empty).run ops).lookupPrefix tenant text limit scope).1 =
        (Terms.empty.run ops).lookupPrefix size tenant text limit scope ∧
      ((ofSnapshot size .empty).run ops).lookupSuffix text limit scope =
        (Terms.empty.run ops).lookupSuffix size text limit scope := by
  have h : ((ofSnapshot size .empty).run ops).current.Represents (Terms.empty.run ops) :=
    represents_run Snapshot.represents_empty ops
  rw [lookupPrefix, lookupSuffix, searchSize_run]
  exact ⟨h.lookupPrefix_fst size tenant text limit scope, h.lookupSuffix size text limit scope⟩

/-- The limit keeps the shorter terms, and of these the longer one comes first. -/
example :
    (((ofSnapshot 10 .empty).run
      [.insert "New York" none ["_1"], .insert "new" none ["_2"], .insert "newer" (some 0) ["_3"],
        .insert "newest" (some 7) ["_4"]]).lookupPrefix 7 "NEW" 2 .all).1 =
      [⟨"newer", ["_3"], "NEW"⟩, ⟨"new", ["_2"], "NEW"⟩] := by
  cbv

end Index

end SemanticQuery.Dictionary
