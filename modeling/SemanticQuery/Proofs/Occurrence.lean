import Mathlib.Data.List.Basic
import Mathlib.Data.List.Induction

/-!
# First occurrences

The first element of a list with a property, and the elements of a list, each once, in the order in
which they first occur.
-/

namespace SemanticQuery

variable {α : Type} {l : List α} {a : α}

/-! ### The first with a property -/

/-- An element is the first one with a property: it has it, and none before it has. -/
def IsFirstWith (P : α → Prop) (l : List α) (a : α) : Prop :=
  P a ∧ ∃ before after, l = before ++ a :: after ∧ ∀ b ∈ before, ¬P b

lemma IsFirstWith.mem {P : α → Prop} (h : IsFirstWith P l a) : a ∈ l := by
  obtain ⟨-, before, after, rfl, -⟩ := h
  exact List.mem_append_right _ List.mem_cons_self

lemma exists_isFirstWith {P : α → Prop} (ha : a ∈ l) (hP : P a) : ∃ b, IsFirstWith P l b := by
  induction l with
  | nil => exact absurd ha List.not_mem_nil
  | cons b l ih =>
    by_cases hb : P b
    · exact ⟨b, hb, [], l, rfl, fun _ h => absurd h List.not_mem_nil⟩
    · have ha : a ∈ l := (List.mem_cons.mp ha).resolve_left fun h => hb (h ▸ hP)
      obtain ⟨c, hc, before, after, rfl, hbefore⟩ := ih ha
      refine ⟨c, hc, b :: before, after, rfl, fun d hd => ?_⟩
      rcases List.mem_cons.mp hd with rfl | hd
      · exact hb
      · exact hbefore d hd

lemma find?_eq_some_iff_isFirstWith {p : α → Bool} {P : α → Prop} (h : ∀ b, p b = true ↔ P b) :
    l.find? p = some a ↔ IsFirstWith P l a := by
  simp only [List.find?_eq_some_iff_append, IsFirstWith, ← h, Bool.not_eq_true',
    Bool.not_eq_true]

/-! ### Elements in the order of their first occurrence -/

section

variable [BEq α]

/-- The elements of a list, in the order in which they first occur. -/
structure IsFirstOccurrences (mentions once : List α) : Prop where
  mem_iff : ∀ a, a ∈ once ↔ a ∈ mentions
  ordered : once.Pairwise fun a b => mentions.idxOf a < mentions.idxOf b

lemma IsFirstOccurrences.nodup {once : List α} (h : IsFirstOccurrences l once) : once.Nodup := by
  refine h.ordered.imp fun hlt heq => ?_
  rw [heq] at hlt
  exact Nat.lt_irrefl _ hlt

variable [LawfulBEq α]

lemma eraseDups_concat (l : List α) (a : α) :
    (l ++ [a]).eraseDups = if l.contains a then l.eraseDups else l.eraseDups ++ [a] := by
  rw [List.eraseDups_append]
  by_cases ha : a ∈ l
  · simp [List.removeAll, ha]
  · simp [List.removeAll, ha, List.eraseDups_cons]

lemma isFirstOccurrences_eraseDups (l : List α) : IsFirstOccurrences l l.eraseDups where
  mem_iff _ := List.mem_eraseDups
  ordered := by
    induction l using List.reverseRecOn with
    | nil => exact .nil
    | append_singleton l a ih =>
      -- the places of earlier elements do not change
      have hplace : ∀ b ∈ l, (l ++ [a]).idxOf b = l.idxOf b := fun b hb =>
        List.idxOf_append_of_mem hb
      have hearlier : l.eraseDups.Pairwise
          fun b c => (l ++ [a]).idxOf b < (l ++ [a]).idxOf c := by
        refine ih.imp_of_mem fun hb hc hlt => ?_
        rwa [hplace _ (List.mem_eraseDups.mp hb), hplace _ (List.mem_eraseDups.mp hc)]
      rw [eraseDups_concat]
      split
      next => exact hearlier
      next hnew =>
        refine List.pairwise_append.mpr ⟨hearlier, List.pairwise_singleton _ a, ?_⟩
        rintro b hb c hc
        obtain rfl := List.mem_singleton.mp hc
        have hb := List.mem_eraseDups.mp hb
        rw [hplace b hb, List.idxOf_append_of_notMem (by simpa using hnew), List.idxOf_cons_self,
          Nat.add_zero]
        exact List.idxOf_lt_length_of_mem hb

lemma nodup_eraseDups (l : List α) : l.eraseDups.Nodup := (isFirstOccurrences_eraseDups l).nodup

end

end SemanticQuery
