import SemanticQuery.Proofs.Dictionary.Refinement

/-!
# Order of loading

The terms of an index do not depend on the order in which they were added, nor on whether a builder
or the index itself was given them, but for the order of the tags of a term. No look-up tells these
orders apart.
-/

namespace SemanticQuery.Dictionary

lemma mem_union {tag : String} {tags others : List String} :
    tag ∈ union tags others ↔ tag ∈ tags ∨ tag ∈ others := by
  induction others generalizing tags with
  | nil => simp [union]
  | cons other others ih =>
    have hnext : union tags (other :: others) =
        union (if tags.contains other then tags else tags ++ [other]) others := rfl
    rw [hnext, ih, List.mem_cons]
    split_ifs with hother
    · have hmem : other ∈ tags := by simpa using hother
      grind
    · rw [List.mem_append, List.mem_singleton, or_assoc]

/-! ### Maps up to the order of tags -/

namespace TagMap

variable {α β : Type} [DecidableEq α] [DecidableEq β] {m m' : TagMap α}
  {ps ps' : List (α × List String)}

/-- The keys are those of the pairs, each with the tags of all its pairs. -/
structure Collects (m : TagMap α) (ps : List (α × List String)) : Prop where
  mem_keys : ∀ key, key ∈ m.keys ↔ ∃ p ∈ ps, p.1 = key
  mem_tagsOf : ∀ key tag, tag ∈ m.tagsOf key ↔ ∃ p ∈ ps, p.1 = key ∧ tag ∈ p.2

/-- Two maps have the same keys, each with the same tags in some order. -/
structure Alike (m m' : TagMap α) : Prop where
  keys_eq : m.keys = m'.keys
  mem_tagsOf : ∀ key tag, tag ∈ m.tagsOf key ↔ tag ∈ m'.tagsOf key

lemma keys_add (m : TagMap α) (key : α) (tags : List String) :
    (m.add key tags).keys = insert key m.keys := by
  ext k
  simp [add, Finmap.mem_keys, Finmap.mem_insert]

lemma tagsOf_add (m : TagMap α) (key k : α) (tags : List String) :
    (m.add key tags).tagsOf k = if k = key then union (m.tagsOf key) tags else m.tagsOf k := by
  rw [tagsOf, lookup_add]
  split_ifs <;> rfl

namespace Collects

lemma empty : Collects (∅ : TagMap α) [] where
  mem_keys key := by simp
  mem_tagsOf key tag := by simp [tagsOf]

lemma add (h : m.Collects ps) (key : α) (tags : List String) :
    (m.add key tags).Collects (ps ++ [(key, tags)]) where
  mem_keys k := by
    rw [keys_add, Finset.mem_insert, h.mem_keys]
    simp [or_and_right, exists_or, or_comm, eq_comm]
  mem_tagsOf k tag := by
    rw [tagsOf_add]
    by_cases hk : k = key
    · simp [hk, mem_union, h.mem_tagsOf, or_and_right, exists_or]
    · simp [hk, Ne.symm hk, h.mem_tagsOf, or_and_right, exists_or]

lemma foldl_add (h : m.Collects ps) (qs : List (α × List String)) :
    (qs.foldl (fun m q => m.add q.1 q.2) m).Collects (ps ++ qs) := by
  induction qs generalizing m ps with
  | nil => simpa using h
  | cons q qs ih => simpa using ih (h.add q.1 q.2)

/-- Pairs that were first collected under other keys. -/
lemma regroup {raw : TagMap β} {qs : List (β × List String)} (hraw : raw.Collects qs) {f : β → α}
    {keys : List β} (hkeys : ∀ key, key ∈ keys ↔ key ∈ raw.keys)
    (h : m.Collects (keys.map fun key => (f key, raw.tagsOf key))) :
    m.Collects (qs.map fun q => (f q.1, q.2)) where
  mem_keys key := by
    rw [h.mem_keys]
    simp only [List.mem_map, exists_exists_and_eq_and, hkeys, hraw.mem_keys]
  mem_tagsOf key tag := by
    rw [h.mem_tagsOf]
    simp only [List.mem_map, exists_exists_and_eq_and, hkeys, hraw.mem_keys, hraw.mem_tagsOf]
    grind

lemma alike (h : m.Collects ps) (h' : m'.Collects ps') (hperm : ps.Perm ps') : m.Alike m' where
  keys_eq := by
    ext key
    rw [h.mem_keys, h'.mem_keys]
    simp only [hperm.mem_iff]
  mem_tagsOf key tag := by
    rw [h.mem_tagsOf, h'.mem_tagsOf]
    simp only [hperm.mem_iff]

end Collects

end TagMap

/-! ### Terms up to the order of tags -/

namespace Addition

/-- The step that adds to an index. -/
def op : Addition → Op
  | .term e => .insert e.term e.tenant e.tags
  | .ending e => .insertSuffix (reversed e.term) e.tags

/-- The key and the tags that are added to the terms of everyone, which are those of id zero, or to
those of a tenant. -/
def forward? (id : Int) : Addition → Option (Key × List String)
  | .term e => if e.tenant.getD 0 = id then some (keyOf e.term, e.tags) else none
  | .ending _ => none

/-- The reversed term and the tags that are added to the endings. -/
def ending? : Addition → Option (String × List String)
  | .term _ => none
  | .ending e => some (reversed e.term, e.tags)

end Addition

/-- The terms of everyone and of tenants are those that were added. -/
structure Terms.Collects (d : Terms) (l : List Addition) : Prop where
  everyone : d.everyone.Collects (l.filterMap (Addition.forward? 0))
  ofTenant : ∀ id, 0 < id → (d.ofTenant id).Collects (l.filterMap (Addition.forward? id))

/-- The endings are those that were added. -/
def Terms.CollectsEndings (d : Terms) (l : List Addition) : Prop :=
  d.endings.Collects ((l.filterMap Addition.ending?).map fun p => (keyOf p.1, p.2))

namespace Terms

variable {d : Terms} {l : List Addition}

lemma collects_empty : empty.Collects [] where
  everyone := .empty
  ofTenant _ _ := .empty

lemma Collects.insert (h : d.Collects l) (e : Entry) :
    (d.insert e.term e.tenant e.tags).Collects (l ++ [.term e]) where
  everyone := by
    rw [everyone_insert, List.filterMap_append]
    split_ifs with hid
    · simpa [Addition.forward?, hid] using h.everyone.add (keyOf e.term) e.tags
    · simpa [Addition.forward?, hid] using h.everyone
  ofTenant id hpos := by
    rw [ofTenant_insert, List.filterMap_append]
    split_ifs with hid
    · simpa [Addition.forward?, hid.2] using (h.ofTenant id hpos).add (keyOf e.term) e.tags
    · have hne : e.tenant.getD 0 ≠ id := fun heq => hid ⟨hpos, heq⟩
      simpa [Addition.forward?, hne] using h.ofTenant id hpos

lemma Collects.ending (h : d.Collects l) (e : Entry) : d.Collects (l ++ [.ending e]) where
  everyone := by simpa [List.filterMap_cons, Addition.forward?] using h.everyone
  ofTenant id hpos := by simpa [List.filterMap_cons, Addition.forward?] using h.ofTenant id hpos

lemma collects_run (l : List Addition) :
    (empty.run (l.map Addition.op)).Collects l ∧
      (empty.run (l.map Addition.op)).CollectsEndings l := by
  induction l using List.reverseRecOn with
  | nil => exact ⟨collects_empty, .empty⟩
  | append_singleton l a ih =>
    obtain ⟨h, hendings⟩ := ih
    have hrun : empty.run ((l ++ [a]).map Addition.op) =
        (empty.run (l.map Addition.op)).step a.op := by
      rw [List.map_append, run, List.foldl_append]
      rfl
    rw [hrun]
    cases a with
    | term e =>
      refine ⟨h.insert e, ?_⟩
      simpa [CollectsEndings, Addition.op, step, List.filterMap_cons, Addition.ending?]
        using hendings
    | ending e =>
      refine ⟨{ h.ending e with }, ?_⟩
      simpa [CollectsEndings, Addition.op, step, insertSuffix, Addition.ending?]
        using hendings.add (keyOf (reversed e.term)) e.tags

end Terms

namespace Draft

lemma collects_give (l : List Addition) :
    let d := l.foldl give empty
    d.terms.Collects l ∧ d.terms.endings = ∅ ∧
      d.endings.Collects (l.filterMap Addition.ending?) := by
  induction l using List.reverseRecOn with
  | nil => exact ⟨Terms.collects_empty, rfl, .empty⟩
  | append_singleton l a ih =>
    obtain ⟨h, hnone, hendings⟩ := ih
    rw [List.foldl_append]
    cases a with
    | term e =>
      refine ⟨h.insert e, ?_, ?_⟩
      · simpa [give] using hnone
      · simpa [give, List.filterMap_cons, Addition.ending?] using hendings
    | ending e =>
      refine ⟨h.ending e, hnone, ?_⟩
      simpa [give, Addition.ending?] using hendings.add (reversed e.term) e.tags

lemma collects_build (l : List Addition) :
    (l.foldl give empty).build.Collects l ∧ (l.foldl give empty).build.CollectsEndings l := by
  obtain ⟨h, hnone, hraw⟩ := collects_give l
  set d := l.foldl give empty
  refine ⟨⟨by simpa using h.everyone, fun id hpos => by simpa using h.ofTenant id hpos⟩, ?_⟩
  have hendings : d.build.endings =
      ((d.endings.keys.sort (· ≤ ·)).map fun ending =>
        (keyOf ending, d.endings.tagsOf ending)).foldl (fun m p => m.add p.1 p.2) ∅ := by
    rw [build, List.foldl_map, ← hnone]
    exact (List.foldl_hom Terms.endings fun _ _ => rfl).symm
  rw [Terms.CollectsEndings, hendings]
  have hadded := TagMap.Collects.empty.foldl_add
    ((d.endings.keys.sort (· ≤ ·)).map fun ending => (keyOf ending, d.endings.tagsOf ending))
  exact hraw.regroup (fun ending => Finset.mem_sort _) (by simpa using hadded)

end Draft

/-! ### Look-ups -/

lemma Scope.accepts_congr (scope : Scope) {tags tags' : List String}
    (h : ∀ tag, tag ∈ tags ↔ tag ∈ tags') : scope.accepts tags = scope.accepts tags' := by
  cases scope with
  | all => rfl
  | models ids =>
    rw [accepts, accepts, belongsToAny, belongsToAny, Bool.eq_iff_iff]
    simp only [List.any_eq_true, h]

/-- Two hits are the same but for the order of their tags. -/
structure Hit.Alike (a b : Hit) : Prop where
  surface_eq : a.surface = b.surface
  segment_eq : a.segment = b.segment
  mem_tags : ∀ tag, tag ∈ a.tags ↔ tag ∈ b.tags

namespace TagMap.Alike

variable {m m' : TermMap}

lemma matching_eq (h : m.Alike m') (start : Key) (scope : Scope) :
    m.matching start scope.accepts = m'.matching start scope.accepts := by
  ext key
  simp only [TermMap.matching, Finset.mem_filter, h.keys_eq,
    scope.accepts_congr (h.mem_tagsOf key)]

lemma hits (h : m.Alike m') {f : Key × List String → Hit}
    (hf : ∀ {key tags tags'}, (∀ tag, tag ∈ tags ↔ tag ∈ tags') →
      (f (key, tags)).Alike (f (key, tags')))
    (start : Key) (limit size : ℕ) (scope : Scope) :
    List.Forall₂ Hit.Alike ((m.hits start limit size scope.accepts).map f)
      ((m'.hits start limit size scope.accepts).map f) := by
  rw [TermMap.hits, TermMap.hits, TermMap.shortest, TermMap.shortest, h.matching_eq start scope]
  simp only [List.map_map, List.forall₂_map_left_iff, List.forall₂_map_right_iff, List.forall₂_same]
  exact fun key _ => hf (h.mem_tagsOf key)

end TagMap.Alike

/-- Two dictionaries have the same terms but for the order of tags. -/
structure Terms.Alike (d d' : Terms) : Prop where
  everyone : d.everyone.Alike d'.everyone
  endings : d.endings.Alike d'.endings
  ofTenant : ∀ id, 0 < id → (d.ofTenant id).Alike (d'.ofTenant id)

namespace Terms

variable {d d' : Terms} {l l' : List Addition}

lemma Collects.alike (h : d.Collects l) (hendings : d.CollectsEndings l) (h' : d'.Collects l')
    (hendings' : d'.CollectsEndings l') (hperm : l.Perm l') : d.Alike d' where
  everyone := h.everyone.alike h'.everyone (hperm.filterMap _)
  endings := TagMap.Collects.alike hendings hendings' ((hperm.filterMap _).map _)
  ofTenant id hpos := (h.ofTenant id hpos).alike (h'.ofTenant id hpos) (hperm.filterMap _)

namespace Alike

lemma lookupPrefix (h : d.Alike d') (size : ℕ) (tenant : Int) (text : String) (limit : ℕ)
    (scope : Scope) :
    List.Forall₂ Hit.Alike (d.lookupPrefix size tenant text limit scope)
      (d'.lookupPrefix size tenant text limit scope) := by
  have hf : ∀ {key : Key} {tags tags' : List String}, (∀ tag, tag ∈ tags ↔ tag ∈ tags') →
      (Hit.ofEntry text (key, tags)).Alike (Hit.ofEntry text (key, tags')) :=
    fun htags => ⟨rfl, rfl, htags⟩
  rw [Terms.lookupPrefix, Terms.lookupPrefix, h.everyone.matching_eq]
  split_ifs with htenant
  · exact (h.ofTenant tenant htenant.2).hits hf _ _ _ _
  · exact h.everyone.hits hf _ _ _ _

lemma lookupSuffix (h : d.Alike d') (size : ℕ) (text : String) (limit : ℕ) (scope : Scope) :
    List.Forall₂ Hit.Alike (d.lookupSuffix size text limit scope)
      (d'.lookupSuffix size text limit scope) :=
  h.endings.hits (fun htags => ⟨rfl, rfl, fun tag => by simp [Hit.ofReversed, htags]⟩) _ _ _ _

lemma dimensionValues_eq (h : d.Alike d') (model element : Int) :
    d.dimensionValues model element = d'.dimensionValues model element := by
  simp only [dimensionValues, h.everyone.keys_eq, h.everyone.mem_tagsOf]

end Alike

end Terms

/-! ### Indexes -/

namespace Index

/-- Two indexes are the same for who looks up, but for the order of the tags of a term. -/
structure Alike (i j : Index) : Prop where
  lookupPrefix : ∀ tenant text limit scope, List.Forall₂ Hit.Alike
    (i.lookupPrefix tenant text limit scope).1 (j.lookupPrefix tenant text limit scope).1
  lookupSuffix : ∀ text limit scope, List.Forall₂ Hit.Alike
    (i.lookupSuffix text limit scope) (j.lookupSuffix text limit scope)
  dimensionValues : ∀ model element,
    i.current.dimensionValues model element = j.current.dimensionValues model element
  forward_size : i.current.forward.size = j.current.forward.size
  suffix_size : i.current.suffix.size = j.current.suffix.size

/-- The index of what a builder makes of additions. -/
def built (size : ℕ) (l : List Addition) : Index :=
  ofSnapshot size (l.foldl Builder.give .empty).build

/-- The index to which additions were made one by one. -/
def grown (size : ℕ) (l : List Addition) : Index := (ofSnapshot size .empty).run (l.map Addition.op)

variable {i j : Index} {d d' : Terms}

lemma alike_of_represents (hi : i.current.Represents d) (hj : j.current.Represents d')
    (hsize : i.searchSize = j.searchSize) (h : d.Alike d') : i.Alike j where
  lookupPrefix tenant text limit scope := by
    rw [Index.lookupPrefix, Index.lookupPrefix, hi.lookupPrefix_fst, hj.lookupPrefix_fst, hsize]
    exact h.lookupPrefix j.searchSize tenant text limit scope
  lookupSuffix text limit scope := by
    rw [Index.lookupSuffix, Index.lookupSuffix, hi.lookupSuffix, hj.lookupSuffix, hsize]
    exact h.lookupSuffix j.searchSize text limit scope
  dimensionValues model element := by
    rw [hi.dimensionValues, hj.dimensionValues, h.dimensionValues_eq]
  forward_size := by rw [hi.everyone.size_eq, hj.everyone.size_eq, h.everyone.keys_eq]
  suffix_size := by rw [hi.endings.size_eq, hj.endings.size_eq, h.endings.keys_eq]

/-- Additions in any order, given to a builder or to the index itself, make indexes that answer
alike. -/
theorem alike_of_perm (size : ℕ) {l l' : List Addition} (hperm : l.Perm l') :
    ∀ i ∈ [built size l, grown size l], ∀ j ∈ [built size l', grown size l'], i.Alike j := by
  have hloaded : ∀ l, ∀ i ∈ [built size l, grown size l], i.searchSize = size ∧
      ∃ d : Terms, i.current.Represents d ∧ d.Collects l ∧ d.CollectsEndings l := by
    intro l i hi
    obtain rfl | rfl : i = built size l ∨ i = grown size l := by simpa using hi
    · exact ⟨rfl, _, (Builder.represents_empty.foldl_give l).build, Draft.collects_build l⟩
    · exact ⟨searchSize_run _ _, _, represents_run_empty _ _, Terms.collects_run l⟩
  intro i hi j hj
  obtain ⟨hisize, d, hd, hcollects, hendings⟩ := hloaded l i hi
  obtain ⟨hjsize, d', hd', hcollects', hendings'⟩ := hloaded l' j hj
  exact alike_of_represents hd hd' (hisize.trans hjsize.symm)
    (hcollects.alike hendings hcollects' hendings' hperm)

/-- Terms that differ in case or in blanks meet under one key, in another order of their tags. -/
theorem alike_built_grown :
    let l : List Addition :=
      [.ending ⟨"A b", none, ["_1_suffix"]⟩, .term ⟨"a b", none, ["_1"]⟩,
        .ending ⟨"a#b", none, ["_3_suffix"]⟩, .term ⟨"A B", some 0, ["_3"]⟩]
    l.Perm l.reverse ∧ (built 10 l).Alike (grown 10 l.reverse) ∧
      ((built 10 l).lookupPrefix 0 "a" 5 .all).1 = [⟨"a b", ["_1", "_3"], "a"⟩] ∧
      ((grown 10 l.reverse).lookupPrefix 0 "a" 5 .all).1 = [⟨"a b", ["_3", "_1"], "a"⟩] := by
  intro l
  have hperm : l.Perm l.reverse := l.reverse_perm.symm
  have halike := alike_of_perm 10 hperm (built 10 l) List.mem_cons_self (grown 10 l.reverse)
    (List.mem_cons_of_mem _ (List.mem_singleton_self _))
  exact ⟨hperm, halike, by decide +kernel, by decide +kernel⟩

end Index

end SemanticQuery.Dictionary
