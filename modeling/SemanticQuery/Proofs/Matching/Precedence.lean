import SemanticQuery.Proofs.Matching.Search

/-!
# Precedence of longer terms

Each of the two look-ups of a segment gives the longer terms first. Their hits stand one behind the
other, so those of the segment do so exactly where no ending comes behind a shorter beginning.
-/

namespace SemanticQuery.Matching

open Dictionary

/-- A longer term comes before a shorter one. -/
def LongestFirst (hits : List Hit) : Prop :=
  hits.Pairwise fun a b => b.surface.length ≤ a.surface.length

instance : DecidablePred LongestFirst := fun hits =>
  inferInstanceAs (Decidable (hits.Pairwise fun a b => b.surface.length ≤ a.surface.length))

variable {hits begun ended : List Hit}

/-! ### Lists of hits -/

lemma longestFirst_rank (size : ℕ) (hits : List Hit) : LongestFirst (rank size hits) := by
  have hsorted : (hits.mergeSort fun a b => decide (b.surface.length ≤ a.surface.length)).Pairwise
      fun a b => decide (b.surface.length ≤ a.surface.length) = true := by
    refine List.pairwise_mergeSort (fun a b c hab hbc => ?_) (fun a b => ?_) hits
    · simp only [decide_eq_true_eq] at hab hbc ⊢
      omega
    · simp only [Bool.or_eq_true, decide_eq_true_eq]
      omega
  exact (hsorted.sublist (List.take_sublist size _)).imp of_decide_eq_true

lemma LongestFirst.filter (h : LongestFirst hits) (p : Hit → Bool) :
    LongestFirst (hits.filter p) :=
  h.sublist List.filter_sublist

/-- Two lists that are in order are so together where their ends that meet are. -/
lemma longestFirst_append_iff (hbegun : LongestFirst begun) (hended : LongestFirst ended) :
    LongestFirst (begun ++ ended) ↔
      ∀ a ∈ begun.getLast?, ∀ b ∈ ended.head?, b.surface.length ≤ a.surface.length := by
  rw [LongestFirst, List.pairwise_append]
  constructor
  · rintro ⟨-, -, h⟩ a ha b hb
    exact h a (List.mem_of_getLast? ha) b (List.mem_of_head? hb)
  · intro h
    refine ⟨hbegun, hended, fun a ha b hb => ?_⟩
    have : Std.Refl fun a b : Hit => b.surface.length ≤ a.surface.length := ⟨fun _ => le_rfl⟩
    have hlast := List.getLast?_eq_some_getLast (List.ne_nil_of_mem ha)
    have hfirst := List.head?_eq_some_head (List.ne_nil_of_mem hb)
    calc b.surface.length
      _ ≤ (ended.head (List.ne_nil_of_mem hb)).surface.length := hended.rel_head hb
      _ ≤ (begun.getLast (List.ne_nil_of_mem ha)).surface.length := h _ hlast _ hfirst
      _ ≤ a.surface.length := hbegun.rel_getLast ha

/-! ### Segments -/

lemma segmentHits_eq (limit : ℕ) (q : Query) (i : Index) (s : Segment) :
    segmentHits limit q i s = (i.lookupPrefix q.tenant s.rest limit q.scope).1.filter isKept ++
      (i.lookupSuffix s.rest limit q.scope).filter isKept := by
  rw [segmentHits, ← List.filter_append]
  exact List.filter_congr fun h _ => (isKept_eq h).symm

lemma matchText_eq (limit : ℕ) {q : Query} (i : Index) {units : List Segment}
    (h : q.segments = .ok units) : matchText limit q i = .ok (matchSegments limit q i units) := by
  rw [matchText, h]
  rfl

lemma exists_matchSegments_eq {limit : ℕ} {q : Query} {i : Index}
    {answer : List (Segment × List Hit) × Index} (h : matchText limit q i = .ok answer) :
    ∃ units, matchSegments limit q i units = answer := by
  cases hunits : q.segments with
  | error failure => simp [matchText, hunits, Except.map] at h
  | ok units => exact ⟨units, Except.ok.inj ((matchText_eq limit i hunits).symm.trans h)⟩

/-- After any steps the hits of a segment are the terms with which it begins and then those that end
with it, both with the longer terms first. So all of them have the longer terms first exactly where
the longest of the endings is no longer than the shortest of the beginnings. -/
theorem longestFirst_matchText_iff (size : ℕ) (ops : List Op) (limit : ℕ) (q : Query)
    {found : List (Segment × List Hit)} {j : Index}
    (hmatch : matchText limit q ((Index.ofSnapshot size .empty).run ops) = .ok (found, j))
    {s : Segment} {hits : List Hit} (hmem : (s, hits) ∈ found) :
    let i := (Index.ofSnapshot size .empty).run ops
    let begun := (i.lookupPrefix q.tenant s.rest limit q.scope).1.filter isKept
    let ended := (i.lookupSuffix s.rest limit q.scope).filter isKept
    hits = begun ++ ended ∧ LongestFirst begun ∧ LongestFirst ended ∧
      (LongestFirst hits ↔
        ∀ a ∈ begun.getLast?, ∀ b ∈ ended.head?, b.surface.length ≤ a.surface.length) := by
  intro i begun ended
  have hi : i.current.Represents (Terms.empty.run ops) := Index.represents_run_empty size ops
  have hhits : hits = begun ++ ended := by
    obtain ⟨units, hunits⟩ := exists_matchSegments_eq hmatch
    have hfound := congrArg Prod.fst hunits
    rw [matchSegments_fst (.refl hi.sorted) rfl] at hfound
    have hunit : (s, hits) ∈ units.map fun s => (s, segmentHits limit q i s) := hfound ▸ hmem
    obtain ⟨_, -, hpair⟩ := List.mem_map.mp hunit
    obtain ⟨rfl, rfl⟩ := Prod.mk.inj hpair
    exact segmentHits_eq limit q i _
  have hbegun : LongestFirst begun := (longestFirst_rank _ _).filter isKept
  have hended : LongestFirst ended := (longestFirst_rank _ _).filter isKept
  exact ⟨hhits, hbegun, hended, hhits ▸ longestFirst_append_iff hbegun hended⟩

/-- An ending that is longer than its segment comes behind a beginning that is no shorter. -/
theorem longestFirst_matchText_iff_begun :
    let i := (Index.ofSnapshot 10 .empty).run
      [.insert "abcd" none ["_1_2"], .insertSuffix (reversed "xxab") ["_1_3_metric_suffix"]]
    let q : Query := ⟨"ab", 0, .all, [(0, 2)]⟩
    let hits : List Hit := [⟨"abcd", ["_1_2"], "ab"⟩, ⟨"xxab", ["_1_3_metric"], "ab"⟩]
    ∃ found j, matchText 3 q i = .ok (found, j) ∧ (⟨"", "ab"⟩, hits) ∈ found ∧
      LongestFirst hits := by
  intro i q hits
  have hsegments : q.segments = .ok [⟨"", "ab"⟩] := by decide +kernel
  have hmatch := matchText_eq 3 i hsegments
  have hmem : (⟨"", "ab"⟩, hits) ∈ (matchSegments 3 q i [⟨"", "ab"⟩]).1 := by decide +kernel
  obtain ⟨-, -, -, hfirst⟩ := longestFirst_matchText_iff 10 _ 3 q hmatch hmem
  exact ⟨_, _, hmatch, hmem, hfirst.mpr (by decide +kernel)⟩

/-- The term that ends with the text is longer than the one that begins with it and comes behind. -/
theorem not_longestFirst_matchText :
    let i := (Index.ofSnapshot 10 .empty).run
      [.insert "b" none ["_1_2_metric"], .insertSuffix (reversed "ab") ["_1_3_metric_suffix"]]
    let q : Query := ⟨"b", 0, .all, []⟩
    let hits : List Hit := [⟨"b", ["_1_2_metric"], "b"⟩, ⟨"ab", ["_1_3_metric"], "b"⟩]
    ∃ found j, matchText 3 q i = .ok (found, j) ∧ (⟨"", "b"⟩, hits) ∈ found ∧
      ¬LongestFirst hits := by
  intro i q hits
  have hsegments : q.segments = .ok [⟨"", "b"⟩] := by decide +kernel
  exact ⟨_, _, matchText_eq 3 i hsegments, by decide +kernel, by decide⟩

end SemanticQuery.Matching
