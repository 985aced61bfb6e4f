import SemanticQuery.Matching.Search
import SemanticQuery.Proofs.Dictionary.Registration
import SemanticQuery.Proofs.Matching.Segments

/-!
# Units of a match

The segments of a text are looked up one after the other, and each look-up may register the tenant.
No look-up sees that, so the hits of a segment are those that it has before the match, and the
segments may come in any order.
-/

namespace SemanticQuery.Matching

open Dictionary

/-- The hits that a segment has in an index: the terms with which it begins, then those that end
with it, without those whose tags all end in `entity`. -/
def segmentHits (limit : ℕ) (q : Query) (i : Index) (s : Segment) : List Hit :=
  ((i.lookupPrefix q.tenant s.rest limit q.scope).1 ++
    i.lookupSuffix s.rest limit q.scope).filter fun h =>
      ∃ tag ∈ h.tags, ¬"entity".toList <:+ tag.toList

/-- What a segment does to the index in which it is looked up. -/
def Query.lookup (q : Query) (limit : ℕ) (s : Segment) : Op :=
  .lookupPrefix q.tenant s.rest limit q.scope

variable {limit : ℕ} {q : Query} {i k : Index} {new : Int → Prop} {units : List Segment}

lemma isKept_eq (h : Hit) :
    isKept h = decide (∃ tag ∈ h.tags, ¬"entity".toList <:+ tag.toList) := by
  rw [isKept, Bool.eq_iff_iff, decide_eq_true_eq, List.any_eq_true]
  simp only [isEntity, Bool.not_eq_true', Bool.eq_false_iff, ne_eq, List.isSuffixOf_iff_suffix]
  rfl

/-! ### One unit -/

/-- A segment has the hits that it had before others registered the tenant. -/
lemma matchSegment_fst (h : i.current.Registers k.current new)
    (hsize : k.searchSize = i.searchSize) (s : Segment) :
    (matchSegment limit q k s).1 = segmentHits limit q i s := by
  have hbegun := h.lookupPrefix_fst i.searchSize q.tenant s.rest limit q.scope
  -- the endings are looked up after the unit itself may have registered the tenant
  have hended := (h.findPrefix q.tenant s.rest limit q.scope).lookupSuffix i.searchSize s.rest
    limit q.scope
  rw [segmentHits, Index.lookupPrefix, Index.lookupSuffix, ← hbegun, ← hended, ← hsize]
  exact List.filter_congr fun h _ => isKept_eq h

/-! ### All units -/

lemma matchSegments_snd (limit : ℕ) (q : Query) (k : Index) (units : List Segment) :
    (matchSegments limit q k units).2 = k.run (units.map (q.lookup limit)) := by
  induction units generalizing k with
  | nil => rfl
  | cons s units ih => exact ih (k.step (q.lookup limit s))

/-- Every segment has the hits that it had before all of them. -/
lemma matchSegments_fst (h : i.current.Registers k.current new)
    (hsize : k.searchSize = i.searchSize) :
    (matchSegments limit q k units).1 = units.map fun s => (s, segmentHits limit q i s) := by
  induction units generalizing k new with
  | nil => rfl
  | cons s units ih =>
    -- the units behind meet an index in which this one may have registered the tenant
    have hwrites : (q.lookup limit s).writes = false := rfl
    have hstep := Index.registers_step h hwrites
    have hlater := ih hstep ((Index.searchSize_step k _).trans hsize)
    rw [List.map_cons, ← matchSegment_fst h hsize s, ← hlater]
    rfl

lemma registers_matchSegments (h : SortedMap.IsSorted i.current.tenants) (limit : ℕ) (q : Query)
    (units : List Segment) :
    i.current.Registers (matchSegments limit q i units).2.current fun id =>
      ∃ s ∈ units, (q.lookup limit s).Misses i.current id := by
  rw [matchSegments_snd]
  refine (Index.registers_run (.refl h) ?_).congr fun id => ?_
  · simp [Query.lookup, Op.writes]
  · simp

lemma matchSegments_snd_eq (limit : ℕ) (q : Query) (i : Index) (units : List Segment) :
    (matchSegments limit q i units).2 =
      { i with current := (matchSegments limit q i units).2.current } := by
  rw [matchSegments_snd]
  refine i.run_eq fun op hop => ?_
  obtain ⟨s, -, rfl⟩ := List.mem_map.mp hop
  rfl

/-- The units may come in any order. -/
lemma matchSegments_snd_perm (h : SortedMap.IsSorted i.current.tenants) {units' : List Segment}
    (hperm : units'.Perm units) :
    (matchSegments limit q i units').2 = (matchSegments limit q i units).2 := by
  have hunits := registers_matchSegments h limit q units
  have hunits' := registers_matchSegments h limit q units'
  have hcurrent := hunits'.unique (hunits.congr fun id => by simp only [hperm.mem_iff])
  rw [matchSegments_snd_eq, hcurrent, ← matchSegments_snd_eq]

/-- A unit registers the tenant where everyone has no term with which the segment begins. -/
lemma misses_lookup_iff {d : Terms} (h : i.current.Represents d) (hlimit : 0 < limit) (s : Segment)
    (id : Int) :
    (q.lookup limit s).Misses i.current id ↔
      q.tenant = id ∧ 0 < id ∧ d.everyone.matching (keyOf s.rest) q.scope.accepts = ∅ := by
  rw [Query.lookup, Op.Misses, h.everyone.search_eq_nil_iff, or_iff_right hlimit.ne']

/-! ### Texts -/

/-- After any steps a match has one answer for each start, under a segment that divides the text
there. The answers and the index after the match do not depend on the order of the units, and the
tenant is registered where everyone has nothing for one of the segments. Offsets are words, so the
text is no longer than words count, and no protected token ends behind them. -/
theorem matchText_run (size : ℕ) (ops : List Op) (hlimit : 0 < limit) (q : Query)
    (hlength : q.text.toList.length < Number.wordBound)
    (hranges : ∀ p ∈ q.ranges, p.1 + p.2 < Number.wordBound) :
    let i := (Index.ofSnapshot size .empty).run ops
    let segment := segmentAt q.text.toList
    ∃ starts found j,
      segmentStarts q.text.toList.length q.ranges = .ok starts ∧
      matchText limit q i = .ok (found, j) ∧
      found = starts.map (fun o => (segment o, segmentHits limit q i (segment o))) ∧
      (found.map Prod.fst).Nodup ∧
      (∀ o ∈ starts, (segment o).before.length = o ∧
        (segment o).before ++ (segment o).rest = q.text) ∧
      (∀ units, units.Perm (starts.map segment) →
        ∃ found', matchSegments limit q i units = (found', j) ∧ found'.Perm found) ∧
      j = { i with current := j.current } ∧
      i.current.Registers j.current fun id =>
        q.tenant = id ∧ 0 < id ∧ ∃ o ∈ starts,
          (Terms.empty.run ops).everyone.matching (keyOf (segment o).rest) q.scope.accepts = ∅ := by
  intro i segment
  have hi : i.current.Represents (Terms.empty.run ops) := Index.represents_run_empty size ops
  have hfst : ∀ units, (matchSegments limit q i units).1 =
      units.map fun s => (s, segmentHits limit q i s) :=
    fun units => matchSegments_fst (.refl hi.sorted) rfl
  obtain ⟨starts, hstarts, hbounds, hascend⟩ := exists_startsFrom hlength hranges 0
  have hfound : (matchSegments limit q i (starts.map segment)).1 =
      starts.map fun o => (segment o, segmentHits limit q i (segment o)) := by
    rw [hfst, List.map_map]
    rfl
  refine ⟨starts, _, (matchSegments limit q i (starts.map segment)).2, hstarts, ?text, rfl, ?keys,
    ?divided, ?units, matchSegments_snd_eq limit q i _, ?tenants⟩
  case text =>
    rw [matchText, Query.segments, segmentStarts, hstarts]
    exact congrArg Except.ok (Prod.ext hfound rfl)
  case keys =>
    rw [List.map_map]
    exact nodup_segments q.text.toList (fun o ho => (hbounds o ho).2) hascend
  case divided =>
    intro o ho
    refine ⟨length_before q.text.toList (hbounds o ho).2.le, ?_⟩
    rw [before_append_rest, String.ofList_toList]
  case units =>
    intro units hperm
    refine ⟨(matchSegments limit q i units).1,
      Prod.ext rfl (matchSegments_snd_perm hi.sorted hperm), ?_⟩
    rw [← hfound, hfst, hfst]
    exact hperm.map _
  case tenants =>
    refine (registers_matchSegments hi.sorted limit q _).congr fun id => ?_
    simp only [List.mem_map, exists_exists_and_eq_and, misses_lookup_iff hi hlimit]
    constructor
    · rintro ⟨o, ho, htenant, hid, hnone⟩
      exact ⟨htenant, hid, o, ho, hnone⟩
    · rintro ⟨htenant, hid, o, ho, hnone⟩
      exact ⟨o, ho, htenant, hid, hnone⟩

/-- The last segment registers the tenant, in any order, and an entity is not kept. -/
theorem matchText_run_protected :
    let ops : List Op :=
      [.insert "30bet" none ["_1", "_9_entity"], .insert "a30bc" none ["_entity"],
        .insertSuffix "b03c" ["_3"]]
    let q : Query := ⟨"a30b", 7, .all, [(1, 2)]⟩
    let i := (Index.ofSnapshot 10 .empty).run ops
    let segment := segmentAt q.text.toList
    0 < 3 ∧ q.text.toList.length < Number.wordBound ∧
      (∀ p ∈ q.ranges, p.1 + p.2 < Number.wordBound) ∧
      ∃ found j, matchText 3 q i = .ok (found, j) ∧
        found = [(⟨"", "a30b"⟩, []),
          (⟨"a", "30b"⟩, [⟨"30bet", ["_1", "_9_entity"], "30b"⟩, ⟨"c30b", ["_3"], "30b"⟩]),
          (⟨"a30", "b"⟩, [⟨"c30b", ["_3"], "b"⟩])] ∧
        (∃ found', matchSegments 3 q i [segment 3, segment 0, segment 1] = (found', j) ∧
          found'.Perm found) ∧
        i.current.hasTenant 7 = false ∧ j.current.hasTenant 7 = true := by
  intro ops q i segment
  have hlength : q.text.toList.length < Number.wordBound := by decide
  have hranges : ∀ p ∈ q.ranges, p.1 + p.2 < Number.wordBound := by decide
  obtain ⟨starts, found, j, hstarts, htext, hfound, -, -, hunits, -, htenants⟩ :=
    matchText_run 10 ops (by decide : 0 < 3) q hlength hranges
  obtain rfl : starts = [0, 1, 3] := by
    have hscan : segmentStarts q.text.toList.length q.ranges = .ok [0, 1, 3] := by decide +kernel
    exact (Except.ok.inj (hscan.symm.trans hstarts)).symm
  refine ⟨by decide, hlength, hranges, found, j, htext, ?_, hunits _ ?_, by decide +kernel, ?_⟩
  · rw [hfound]
    decide +kernel
  · exact (List.perm_append_singleton (segment 3) [segment 0, segment 1]).symm
  · exact (htenants.hasTenant 7).mpr (.inr ⟨rfl, by decide, 3, by decide, by decide⟩)

end SemanticQuery.Matching
