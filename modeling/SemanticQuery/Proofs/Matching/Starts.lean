import SemanticQuery.Proofs.Matching.Segments

/-!
# Starts of segments

What a scan skips lies inside exactly one token at which it stops, and no other token has any
effect. A scan is refused exactly where a token at which it stops ends behind the last word.
-/

namespace SemanticQuery.Matching

variable {ranges : List (ℕ × ℕ)} {length : ℕ}

/-- The starts of segments ascend from the first offset, and what they leave out lies inside exactly
one token that begins at one of them. Another map with the same tokens there has the same starts,
where a token without characters counts as none. -/
theorem segmentStarts_skips (hlength : length < Number.wordBound)
    (hranges : ∀ p ∈ ranges, p.1 + p.2 < Number.wordBound) :
    ∃ starts, segmentStarts length ranges = .ok starts ∧ starts.Pairwise (· < ·) ∧
      (∀ s ∈ starts, s < length) ∧ (0 < length → starts.head? = some 0) ∧
      (∀ x < length, x ∉ starts ↔ ∃! s, s ∈ starts ∧ ∃ token,
        ranges.lookup s = some token ∧ 1 < token ∧ s < x ∧ x < s + token) ∧
      ∀ ranges', (∀ s ∈ starts,
          (ranges'.lookup s).filter (0 < ·) = (ranges.lookup s).filter (0 < ·)) →
        segmentStarts length ranges' = .ok starts := by
  refine ⟨stops ranges length 0, startsFrom_eq_ok hlength hranges 0,
    ascending_stops ranges length 0, fun s hs => (bounds_of_mem_stops hs).2, ?first, ?skipped,
    ?tokens⟩
  case first =>
    intro hpos
    rw [stops, if_pos hpos, List.head?_cons]
  case skipped =>
    intro x hx
    have hinside : ∀ s, (s < x ∧ x < s + stride ranges s) ↔ ∃ token,
        ranges.lookup s = some token ∧ 1 < token ∧ s < x ∧ x < s + token := by
      intro s
      rw [and_congr_right lt_add_stride_iff]
      tauto
    rw [notMem_stops_iff (Nat.zero_le x) hx]
    simp only [← hinside]
    exact ⟨existsUnique_skipping, ExistsUnique.exists⟩
  case tokens =>
    intro ranges' htokens
    have hstride : ∀ s ∈ stops ranges length 0, stride ranges' s = stride ranges s := by
      intro s hs
      rw [stride_eq, stride_eq, htokens s hs]
    rw [segmentStarts, startsFrom_congr hstride]
    exact startsFrom_eq_ok hlength hranges 0

/-- The token inside the first one has no effect, and the last one reaches behind the text. -/
theorem segmentStarts_skips_nested :
    let ranges := [(0, 3), (1, 5), (3, 0), (4, 1), (5, 9)]
    7 < Number.wordBound ∧ (∀ p ∈ ranges, p.1 + p.2 < Number.wordBound) ∧
      segmentStarts 7 ranges = .ok [0, 3, 4, 5] ∧
      segmentStarts 7 [(0, 3), (4, 1), (5, 9), (6, 4)] = .ok [0, 3, 4, 5] := by
  intro ranges
  have hlength : 7 < Number.wordBound := by decide
  have hranges : ∀ p ∈ ranges, p.1 + p.2 < Number.wordBound := by decide
  obtain ⟨starts, hstarts, -, -, -, -, htokens⟩ := segmentStarts_skips hlength hranges
  obtain rfl : starts = [0, 3, 4, 5] := by
    have hscan : segmentStarts 7 ranges = .ok [0, 3, 4, 5] := by decide +kernel
    exact (Except.ok.inj (hscan.symm.trans hstarts)).symm
  exact ⟨hlength, hranges, hstarts, htokens _ (by decide)⟩

/-- On words the scan stops where it does on numbers, at no more offsets than there are, and goes on
behind each of them, exactly where every token at which it stops ends at a word. Where one of them
ends behind the last word the scan is refused. -/
theorem segmentStarts_overflow_iff (hlength : length < Number.wordBound)
    (ranges : List (ℕ × ℕ)) :
    let starts := stops ranges length 0
    starts.length ≤ length ∧ starts.Pairwise (· < ·) ∧
      (segmentStarts length ranges = .ok starts ↔ ∀ s ∈ starts, ∀ token,
        ranges.lookup s = some token → s + token < Number.wordBound) ∧
      (segmentStarts length ranges = .error .overflow ↔ ∃ s ∈ starts, ∃ token,
        ranges.lookup s = some token ∧ Number.wordBound ≤ s + token) := by
  intro starts
  have hwords : (∀ s ∈ starts, s + stride ranges s < Number.wordBound) ↔ ∀ s ∈ starts, ∀ token,
      ranges.lookup s = some token → s + token < Number.wordBound :=
    forall₂_congr fun s hs => add_stride_lt_iff (by have := (bounds_of_mem_stops hs).2; omega)
  have hbehind : (∃ s ∈ starts, ∃ token, ranges.lookup s = some token ∧
      Number.wordBound ≤ s + token) ↔ ¬ ∀ s ∈ starts, s + stride ranges s < Number.wordBound := by
    rw [hwords]
    push Not
    rfl
  refine ⟨length_stops_le ranges length 0, ascending_stops ranges length 0, ?_, ?_⟩
  · rw [← hwords, segmentStarts, startsFrom_eq]
    split_ifs with h
    · exact iff_of_true rfl h
    · exact iff_of_false not_false h
  · rw [hbehind, segmentStarts, startsFrom_eq]
    split_ifs with h
    · exact iff_of_false not_false (not_not_intro h)
    · exact iff_of_true rfl h

/-- A token may end at the last word but not behind it, and one that is skipped may do so. -/
theorem segmentStarts_overflow_iff_last :
    10 < Number.wordBound ∧
      segmentStarts 10 [(0, 5), (2, 0xFFFFFFFFFFFFFFFF), (5, 0xFFFFFFFFFFFFFFFA)] = .ok [0, 5] ∧
      segmentStarts 10 [(0, 5), (5, 0xFFFFFFFFFFFFFFFB)] = .error .overflow := by
  have hlength : 10 < Number.wordBound := by decide
  have hstops : stops [(0, 5), (2, 0xFFFFFFFFFFFFFFFF), (5, 0xFFFFFFFFFFFFFFFA)] 10 0 = [0, 5] := by
    decide +kernel
  have hstops' : stops [(0, 5), (5, 0xFFFFFFFFFFFFFFFB)] 10 0 = [0, 5] := by decide +kernel
  obtain ⟨-, -, hok, -⟩ := segmentStarts_overflow_iff hlength
    [(0, 5), (2, 0xFFFFFFFFFFFFFFFF), (5, 0xFFFFFFFFFFFFFFFA)]
  obtain ⟨-, -, -, herror⟩ := segmentStarts_overflow_iff hlength [(0, 5), (5, 0xFFFFFFFFFFFFFFFB)]
  rw [hstops] at hok
  rw [hstops'] at herror
  refine ⟨hlength, hok.mpr ?_, herror.mpr ?_⟩
  · simp [List.lookup_cons, Number.wordBound]
  · exact ⟨5, by decide, _, rfl, by decide⟩

/-- Behind the second stop there is no word. Counted in words the scan would go back to an offset
that it has skipped. -/
theorem segmentStarts_overflow_back :
    let ranges := [(0, 5), (2, 8), (5, 0xFFFFFFFFFFFFFFFD)]
    (∀ p ∈ ranges, p.1 < Number.wordBound ∧ p.2 < Number.wordBound) ∧
      5 ∈ stops ranges 10 0 ∧ ranges.lookup 5 = some 0xFFFFFFFFFFFFFFFD ∧
      Number.wordBound ≤ 5 + 0xFFFFFFFFFFFFFFFD ∧
      (5 + 0xFFFFFFFFFFFFFFFD) % Number.wordBound = 2 ∧
      segmentStarts 10 ranges = .error .overflow := by
  decide +kernel

end SemanticQuery.Matching
