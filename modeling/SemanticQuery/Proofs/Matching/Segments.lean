import Mathlib.Data.List.Sort
import Mathlib.Tactic.Common
import SemanticQuery.Matching.Segment

/-!
# Segments of a text

The scan of a text stops at ascending offsets, each before one of the characters. So every start has
a segment of its own, which divides the text there. On words the scan goes as it does on numbers,
except where a token at which it stops ends behind the last word.
-/

namespace SemanticQuery.Matching

section

variable {ranges ranges' : List (ℕ × ℕ)} {length offset x : ℕ}

/-! ### Strides -/

lemma stride_cases (ranges : List (ℕ × ℕ)) (offset : ℕ) :
    stride ranges offset = 1 ∨ (offset, stride ranges offset) ∈ ranges := by
  rw [stride]
  split
  case h_1 length hlookup =>
    split_ifs
    · refine .inr ?_
      obtain ⟨before, behind, hsplit, -⟩ := List.lookup_eq_some_iff.mp hlookup
      simp [hsplit]
    · exact .inl rfl
  case h_2 => exact .inl rfl

/-- A token without characters counts as none. -/
lemma stride_eq (ranges : List (ℕ × ℕ)) (offset : ℕ) :
    stride ranges offset = ((ranges.lookup offset).filter (0 < ·)).getD 1 := by
  rw [stride]
  cases ranges.lookup offset with
  | none => rfl
  | some token => by_cases h : 0 < token <;> simp [Option.filter_some, h]

/-- An offset is skipped inside a token of more than one character. -/
lemma lt_add_stride_iff (hx : offset < x) :
    x < offset + stride ranges offset ↔
      ∃ token, ranges.lookup offset = some token ∧ 1 < token ∧ x < offset + token := by
  rw [stride]
  cases ranges.lookup offset with
  | none => simp; omega
  | some token =>
    simp only [Option.some.injEq, exists_eq_left']
    split_ifs <;> omega

/-- Where the next character is a word, only a token leads behind the last word. -/
lemma add_stride_lt_iff (hnext : offset + 1 < Number.wordBound) :
    offset + stride ranges offset < Number.wordBound ↔
      ∀ token, ranges.lookup offset = some token → offset + token < Number.wordBound := by
  rw [stride]
  cases ranges.lookup offset with
  | none => simpa using hnext
  | some token =>
    simp only [Option.some.injEq, forall_eq']
    split_ifs <;> omega

/-! ### Scans -/

/-- The offsets at which a scan stops that counts without a bound. -/
def stops (ranges : List (ℕ × ℕ)) (length offset : ℕ) : List ℕ :=
  if offset < length then offset :: stops ranges length (offset + stride ranges offset) else []
termination_by length - offset
decreasing_by
  have := stride_pos ranges offset
  omega

lemma bounds_of_mem_stops {s : ℕ} (hs : s ∈ stops ranges length offset) :
    offset ≤ s ∧ s < length := by
  fun_induction stops ranges length offset with
  | case1 offset hlt ih =>
    rcases List.mem_cons.mp hs with rfl | hlater
    · exact ⟨le_rfl, hlt⟩
    · exact ⟨(Nat.le_add_right _ _).trans (ih hlater).1, (ih hlater).2⟩
  | case2 => simp at hs

lemma ascending_stops (ranges : List (ℕ × ℕ)) (length offset : ℕ) :
    (stops ranges length offset).Pairwise (· < ·) := by
  fun_induction stops ranges length offset with
  | case1 offset hlt ih =>
    have hnext : offset < offset + stride ranges offset :=
      Nat.lt_add_of_pos_right (stride_pos ranges offset)
    exact List.pairwise_cons.mpr ⟨fun s hs => hnext.trans_le (bounds_of_mem_stops hs).1, ih⟩
  | case2 => exact List.Pairwise.nil

/-- A scan stops again behind what it skips. -/
lemma add_stride_le_of_lt {s s' : ℕ} (hs : s ∈ stops ranges length offset)
    (hs' : s' ∈ stops ranges length offset) (hlt : s < s') : s + stride ranges s ≤ s' := by
  fun_induction stops ranges length offset with
  | case1 offset hoffset ih =>
    rcases List.mem_cons.mp hs' with rfl | hs'
    · -- no stop comes before the first one
      rcases List.mem_cons.mp hs with rfl | hs
      · exact absurd hlt (lt_irrefl _)
      · have := (bounds_of_mem_stops hs).1
        omega
    · rcases List.mem_cons.mp hs with rfl | hs
      · exact (bounds_of_mem_stops hs').1
      · exact ih hs hs'
  | case2 => simp at hs

lemma length_stops_le (ranges : List (ℕ × ℕ)) (length offset : ℕ) :
    (stops ranges length offset).length ≤ length - offset := by
  fun_induction stops ranges length offset with
  | case1 offset hlt ih =>
    have := stride_pos ranges offset
    rw [List.length_cons]
    omega
  | case2 => exact Nat.zero_le _

/-- A scan skips the offsets inside the tokens at which it stops. -/
lemma notMem_stops_iff (hx : offset ≤ x) (hlt : x < length) :
    x ∉ stops ranges length offset ↔
      ∃ s ∈ stops ranges length offset, s < x ∧ x < s + stride ranges s := by
  fun_induction stops ranges length offset with
  | case1 offset hoffset ih =>
    rcases lt_or_ge x (offset + stride ranges offset) with hskipped | hbehind
    · -- up to the next stop everything behind the offset is skipped
      have hlater : ∀ s ∈ stops ranges length (offset + stride ranges offset), x < s :=
        fun s hs => hskipped.trans_le (bounds_of_mem_stops hs).1
      rw [List.mem_cons, not_or]
      constructor
      · rintro ⟨hne, -⟩
        exact ⟨offset, List.mem_cons_self, lt_of_le_of_ne hx (Ne.symm hne), hskipped⟩
      · rintro ⟨s, hs, hsx, -⟩
        rcases List.mem_cons.mp hs with rfl | hs
        · exact ⟨hsx.ne', fun hmem => (hlater x hmem).false⟩
        · exact absurd hsx (hlater s hs).le.not_gt
    · have hpos := stride_pos ranges offset
      have hne : x ≠ offset := by omega
      simp only [List.mem_cons, hne, false_or, exists_eq_or_imp, ih hbehind,
        hbehind.not_gt, and_false]
  | case2 offset hoffset => omega

/-- What is skipped lies inside one token only. -/
lemma existsUnique_skipping
    (h : ∃ s ∈ stops ranges length offset, s < x ∧ x < s + stride ranges s) :
    ∃! s, s ∈ stops ranges length offset ∧ s < x ∧ x < s + stride ranges s := by
  obtain ⟨s, hs, hlt, hskipped⟩ := h
  refine ⟨s, ⟨hs, hlt, hskipped⟩, fun s' ⟨hs', hlt', hskipped'⟩ => ?_⟩
  rcases lt_trichotomy s' s with h | h | h
  · have := add_stride_le_of_lt hs' hs h
    omega
  · exact h
  · have := add_stride_le_of_lt hs hs' h
    omega

lemma stops_congr
    (h : ∀ s ∈ stops ranges length offset, stride ranges' s = stride ranges s) :
    stops ranges' length offset = stops ranges length offset := by
  fun_induction stops ranges length offset with
  | case1 offset hlt ih =>
    rw [stops, if_pos hlt, h offset List.mem_cons_self,
      ih fun s hs => h s (List.mem_cons_of_mem _ hs)]
  | case2 offset hle => rw [stops, if_neg hle]

/-- On words a scan stops where it does on numbers, unless it goes on behind the last word. -/
lemma startsFrom_eq (ranges : List (ℕ × ℕ)) (length offset : ℕ) :
    startsFrom ranges length offset =
      if ∀ s ∈ stops ranges length offset, s + stride ranges s < Number.wordBound then
        .ok (stops ranges length offset)
      else .error .overflow := by
  fun_induction stops ranges length offset with
  | case1 offset hlt ih =>
    rw [startsFrom, if_pos hlt]
    dsimp only
    rw [ih]
    simp only [List.forall_mem_cons]
    by_cases hnext : offset + stride ranges offset < Number.wordBound
    · simp only [hnext, if_true, true_and]
      split_ifs <;> rfl
    · simp only [hnext, if_false, false_and]
  | case2 offset hle => simp [startsFrom, hle]

/-- Only the lengths of the tokens at which a scan stops have an effect. -/
lemma startsFrom_congr
    (h : ∀ s ∈ stops ranges length offset, stride ranges' s = stride ranges s) :
    startsFrom ranges' length offset = startsFrom ranges length offset := by
  rw [startsFrom_eq, startsFrom_eq, stops_congr h]
  congr 1
  exact propext (forall₂_congr fun s hs => by rw [h s hs])

/-! ### Starts -/

lemma startsFrom_eq_ok (hlength : length < Number.wordBound)
    (hranges : ∀ p ∈ ranges, p.1 + p.2 < Number.wordBound) (offset : ℕ) :
    startsFrom ranges length offset = .ok (stops ranges length offset) := by
  rw [startsFrom_eq, if_pos]
  intro s hs
  have hs : s < length := (bounds_of_mem_stops hs).2
  -- the scan goes on behind the next character or behind a protected token
  rcases stride_cases ranges s with hone | hmem
  · omega
  · exact hranges _ hmem

/-- A scan does not overflow where no protected token ends behind the last offset, and its starts
ascend. -/
lemma exists_startsFrom (hlength : length < Number.wordBound)
    (hranges : ∀ p ∈ ranges, p.1 + p.2 < Number.wordBound) (offset : ℕ) :
    ∃ starts, startsFrom ranges length offset = .ok starts ∧
      (∀ o ∈ starts, offset ≤ o ∧ o < length) ∧ starts.Pairwise (· < ·) :=
  ⟨stops ranges length offset, startsFrom_eq_ok hlength hranges offset,
    fun _ => bounds_of_mem_stops, ascending_stops ranges length offset⟩

end

/-! ### Segments -/

section

variable (text : List Char) {offset : ℕ}

lemma length_before (h : offset ≤ text.length) :
    (segmentAt text offset).before.length = offset := by
  rw [segmentAt, String.length_ofList, List.length_take, Nat.min_eq_left h]

lemma before_append_rest (offset : ℕ) :
    (segmentAt text offset).before ++ (segmentAt text offset).rest = String.ofList text := by
  rw [segmentAt, ← String.ofList_append, List.take_append_drop]

/-- Different starts have different segments. -/
lemma nodup_segments {starts : List ℕ} (hbounds : ∀ o ∈ starts, o < text.length)
    (hascend : starts.Pairwise (· < ·)) : (starts.map (segmentAt text)).Nodup := by
  refine List.Nodup.map_on (fun o ho o' ho' hsame => ?_) (hascend.imp ne_of_lt)
  rw [← length_before text (hbounds o ho).le, ← length_before text (hbounds o' ho').le, hsame]

end

end SemanticQuery.Matching
