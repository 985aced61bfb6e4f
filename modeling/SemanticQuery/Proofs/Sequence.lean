import Mathlib.Data.List.Forall2
import Mathlib.Tactic.Common

/-!
# Steps that may fail

A list of steps that all succeed gives one result for each step, in their order. Where the steps that
fail are left out, it gives one result for each of the others.
-/

namespace SemanticQuery

variable {α β ε : Type} {f : α → Except ε β} {as : List α} {bs : List β}

lemma exists_mem_of_forall₂ {R : α → β → Prop} {a : α} (h : List.Forall₂ R as bs) (ha : a ∈ as) :
    ∃ b ∈ bs, R a b := by
  induction h with
  | nil => exact absurd ha List.not_mem_nil
  | cons hfirst _ ih =>
    rcases List.mem_cons.mp ha with rfl | ha
    · exact ⟨_, List.mem_cons_self, hfirst⟩
    · obtain ⟨b, hb, hab⟩ := ih ha
      exact ⟨b, List.mem_cons_of_mem _ hb, hab⟩

lemma forall₂_of_mapM_eq_ok (h : as.mapM f = .ok bs) :
    List.Forall₂ (fun a b => f a = .ok b) as bs := by
  induction as generalizing bs with
  | nil =>
    obtain rfl : bs = [] := by simpa [pure, Except.pure, eq_comm] using h
    exact .nil
  | cons a as ih =>
    rw [List.mapM_cons] at h
    cases ha : f a with
    | error failure => simp [ha, bind, Except.bind] at h
    | ok b =>
      cases has : as.mapM f with
      | error failure => simp [ha, has, bind, Except.bind] at h
      | ok rest =>
        obtain rfl : b :: rest = bs := by
          simpa [ha, has, bind, Except.bind, pure, Except.pure] using h
        exact .cons ha (ih has)

lemma mem_iff_of_mapM_eq_ok (h : as.mapM f = .ok bs) (b : β) :
    b ∈ bs ↔ ∃ a ∈ as, f a = .ok b := by
  have hall := forall₂_of_mapM_eq_ok h
  clear h
  induction hall with
  | nil => simp
  | cons ha _ ih => simp [ha, ih, eq_comm]

lemma forall₂_filterMap (g : α → Option β) (as : List α) :
    List.Forall₂ (fun a b => g a = some b) (as.filter fun a => (g a).isSome) (as.filterMap g) := by
  induction as with
  | nil => exact .nil
  | cons a as ih =>
    cases h : g a with
    | none => simpa [h] using ih
    | some b => simpa [h] using ih

end SemanticQuery
