import Mathlib.Data.List.Induction
import Mathlib.Data.List.Sort
import Mathlib.Tactic.Common
import SemanticQuery.SortedMap

/-!
# Laws of sorted maps

A map whose keys ascend has one value under each key, and changing the value under one key keeps the
others and their order.
-/

namespace SemanticQuery.SortedMap

variable {α β : Type} {m : List (α × β)} {key : α} {f : Option β → Option β}

/-! ### Any pairs -/

section

variable [DecidableEq α] [BEq α] [LawfulBEq α]

lemma lookup_cons (k key : α) (b : β) (m : List (α × β)) :
    ((key, b) :: m).lookup k = if k = key then some b else m.lookup k := by
  by_cases h : k = key
  · simp [h]
  · have hne : (k == key) = false := by simpa using h
    simp [List.lookup_cons, hne, h]

lemma lookup_toList (k key : α) (b : Option β) (m : List (α × β)) :
    (b.toList.map (key, ·) ++ m).lookup k =
      if k = key then b.or (m.lookup key) else m.lookup k := by
  cases b with
  | none => simp +contextual
  | some b => simp [lookup_cons]

end

section

variable [LT α]

/-- The keys ascend. -/
def IsSorted (m : List (α × β)) : Prop := m.Pairwise fun p q => p.1 < q.1

lemma isSorted_nil : IsSorted ([] : List (α × β)) := List.Pairwise.nil

lemma isSorted_toList {b : Option β} (h : IsSorted m) (hlt : ∀ p ∈ m, key < p.1) :
    IsSorted (b.toList.map (key, ·) ++ m) := by
  cases b with
  | none => exact h
  | some b => exact List.pairwise_cons.mpr ⟨hlt, h⟩

lemma mem_alter_cases [DecidableLT α] [DecidableEq α] {p : α × β} (hp : p ∈ alter key f m) :
    p.1 = key ∨ p ∈ m := by
  have hone : ∀ {b : Option β}, p ∈ b.toList.map (key, ·) → p.1 = key := by
    intro b hp
    obtain ⟨_, _, rfl⟩ := List.mem_map.mp hp
    rfl
  induction m with
  | nil => exact .inl (hone hp)
  | cons q m ih =>
    obtain ⟨k', b⟩ := q
    rw [alter] at hp
    split_ifs at hp with hlt heq
    · exact (List.mem_append.mp hp).imp_left hone
    · exact (List.mem_append.mp hp).imp hone (List.mem_cons_of_mem _)
    · rcases List.mem_cons.mp hp with rfl | hp
      · exact .inr List.mem_cons_self
      · exact (ih hp).imp_right (List.mem_cons_of_mem _)

end

/-! ### Ascending pairs -/

section

variable [LT α] [IsStrictTotalOrder α (· < ·)]

section

variable [BEq α] [LawfulBEq α]

lemma lookup_eq_none_of_lt (h : ∀ p ∈ m, key < p.1) : m.lookup key = none := by
  refine List.lookup_eq_none_iff.mpr fun p hp => ?_
  have hne : key ≠ p.1 := by
    intro heq
    exact irrefl_of (· < ·) key (heq ▸ h p hp)
  simpa using hne

/-- The pairs of a map are those that are looked up. -/
lemma mem_iff_lookup [DecidableEq α] (h : IsSorted m) {b : β} :
    (key, b) ∈ m ↔ m.lookup key = some b := by
  induction m with
  | nil => simp
  | cons p m ih =>
    obtain ⟨k, b'⟩ := p
    obtain ⟨hbelow, hm⟩ := List.pairwise_cons.mp h
    rw [lookup_cons]
    by_cases heq : key = k
    · subst heq
      have hnone : (key, b) ∉ m := fun hmem => irrefl_of (· < ·) key (hbelow _ hmem)
      simp [hnone, eq_comm]
    · simp [heq, ih hm]

/-- Two maps with the same look-ups are one. -/
lemma eq_of_lookup_eq [DecidableEq α] {m' : List (α × β)} (h : IsSorted m) (h' : IsSorted m')
    (hlookup : ∀ key, m.lookup key = m'.lookup key) : m = m' := by
  refine List.Pairwise.eq_of_mem_iff h h' fun p => ?_
  obtain ⟨key, b⟩ := p
  rw [mem_iff_lookup h, mem_iff_lookup h', hlookup]

end

variable [DecidableLT α] [DecidableEq α]

lemma isSorted_alter (h : IsSorted m) : IsSorted (alter key f m) := by
  induction m with
  | nil =>
    have hone : IsSorted ((f none).toList.map (key, ·) ++ []) := isSorted_toList h (by simp)
    simpa [alter] using hone
  | cons p m ih =>
    obtain ⟨k', b⟩ := p
    obtain ⟨hbelow, hm⟩ := List.pairwise_cons.mp h
    rw [alter]
    split_ifs with hlt heq
    · refine isSorted_toList h fun p hp => ?_
      rcases List.mem_cons.mp hp with rfl | hp
      · exact hlt
      · exact trans_of (· < ·) hlt (hbelow p hp)
    · subst heq
      exact isSorted_toList hm hbelow
    · refine List.pairwise_cons.mpr ⟨fun p hp => ?_, ih hm⟩
      rcases mem_alter_cases hp with hkey | hp
      · rw [hkey]
        rcases trichotomous_of (· < ·) key k' with hkey | hkey | hkey
        · exact absurd hkey hlt
        · exact absurd hkey heq
        · exact hkey
      · exact hbelow p hp

lemma isSorted_ofList (pairs : List (α × β)) : IsSorted (ofList pairs) := by
  induction pairs using List.reverseRecOn with
  | nil => exact isSorted_nil
  | append_singleton pairs p ih =>
    rw [ofList, List.foldl_concat]
    exact isSorted_alter ih

variable [BEq α] [LawfulBEq α]

/-- Only the value under the key changes. -/
lemma lookup_alter (h : IsSorted m) (k : α) :
    (alter key f m).lookup k = if k = key then f (m.lookup key) else m.lookup k := by
  induction m with
  | nil => simpa [alter] using lookup_toList k key (f none) []
  | cons p m ih =>
    obtain ⟨k', b⟩ := p
    obtain ⟨hbelow, hm⟩ := List.pairwise_cons.mp h
    rw [alter]
    by_cases hlt : key < k'
    · have hnone : ((k', b) :: m).lookup key = none := by
        refine lookup_eq_none_of_lt fun p hp => ?_
        rcases List.mem_cons.mp hp with rfl | hp
        · exact hlt
        · exact trans_of (· < ·) hlt (hbelow p hp)
      rw [if_pos hlt, lookup_toList, hnone, Option.or_none]
    rw [if_neg hlt]
    by_cases heq : key = k'
    · subst heq
      rw [if_pos rfl, lookup_toList, lookup_eq_none_of_lt hbelow, Option.or_none, lookup_cons,
        lookup_cons, if_pos rfl]
      split_ifs <;> rfl
    · rw [if_neg heq, lookup_cons, lookup_cons, lookup_cons, if_neg heq, ih hm]
      split_ifs with hk hk'
      · exact absurd (hk'.symm.trans hk) heq
      all_goals rfl

/-- What counts of a change is what it makes of the value under the key. -/
lemma alter_congr {g : Option β → Option β} (h : IsSorted m)
    (hfg : f (m.lookup key) = g (m.lookup key)) : alter key f m = alter key g m := by
  refine eq_of_lookup_eq (isSorted_alter h) (isSorted_alter h) fun k => ?_
  rw [lookup_alter h, lookup_alter h, hfg]

lemma alter_eq_self (h : IsSorted m) (hf : f (m.lookup key) = m.lookup key) :
    alter key f m = m := by
  refine eq_of_lookup_eq (isSorted_alter h) h fun k => ?_
  rw [lookup_alter h]
  split_ifs with hk
  · rw [hk, hf]
  · rfl

/-- Of several pairs under one key the last counts. -/
lemma lookup_ofList (pairs : List (α × β)) (k : α) :
    (ofList pairs).lookup k = pairs.reverse.lookup k := by
  induction pairs using List.reverseRecOn with
  | nil => rfl
  | append_singleton pairs p ih =>
    have hconcat : ofList (pairs ++ [p]) = alter p.1 (fun _ => some p.2) (ofList pairs) := by
      rw [ofList, List.foldl_concat]
      rfl
    rw [hconcat, lookup_alter (isSorted_ofList pairs), ih, List.reverse_append,
      List.reverse_singleton, List.singleton_append, lookup_cons]

lemma mem_ofList_iff {pairs : List (α × β)} {b : β} :
    (key, b) ∈ ofList pairs ↔ ∃ before after, pairs = before ++ (key, b) :: after ∧
      ∀ p ∈ after, p.1 ≠ key := by
  rw [mem_iff_lookup (isSorted_ofList pairs), lookup_ofList, List.lookup_eq_some_iff]
  simp only [bne_iff_ne, ne_eq]
  constructor
  · rintro ⟨later, earlier, hpairs, hlater⟩
    refine ⟨earlier.reverse, later.reverse, ?_, fun p hp => ?_⟩
    · simpa using congrArg List.reverse hpairs
    · exact fun heq => hlater p (List.mem_reverse.mp hp) heq.symm
  · rintro ⟨before, after, rfl, hafter⟩
    refine ⟨after.reverse, before.reverse, by simp, fun p hp => ?_⟩
    exact fun heq => hafter p (List.mem_reverse.mp hp) heq.symm

/-- The keys of a map of pairs are theirs. -/
lemma exists_mem_ofList_iff {pairs : List (α × β)} :
    (∃ b, (key, b) ∈ ofList pairs) ↔ ∃ p ∈ pairs, p.1 = key := by
  simp only [mem_iff_lookup (isSorted_ofList pairs), lookup_ofList, ← Option.isSome_iff_exists,
    List.lookup_isSome_iff, List.mem_reverse, beq_iff_eq, eq_comm (a := key)]

/-- Of the pairs that a list gives, the last one under a key counts. -/
lemma mem_ofList_filterMap_iff {γ : Type} {l : List γ} {f : γ → Option (α × β)} {b : β} :
    (key, b) ∈ ofList (l.filterMap f) ↔
      ∃ before c after, l = before ++ c :: after ∧ f c = some (key, b) ∧
        ∀ d ∈ after, ∀ b', f d ≠ some (key, b') := by
  rw [mem_ofList_iff]
  constructor
  · rintro ⟨before, after, heq, hafter⟩
    obtain ⟨front, back, rfl, rfl, hback⟩ := List.filterMap_eq_append_iff.mp heq
    obtain ⟨skipped, c, rest, rfl, -, hc, rfl⟩ := List.filterMap_eq_cons_iff.mp hback
    refine ⟨front ++ skipped, c, rest, by simp, hc, fun d hd b' hf => ?_⟩
    exact hafter _ (List.mem_filterMap.mpr ⟨d, hd, hf⟩) rfl
  · rintro ⟨before, c, after, rfl, hc, hafter⟩
    refine ⟨before.filterMap f, after.filterMap f, by simp [hc], fun p hp hkey => ?_⟩
    obtain ⟨d, hd, hf⟩ := List.mem_filterMap.mp hp
    exact hafter d hd p.2 (by rw [hf, ← hkey])

/-- A pair of a changed map is the new one or one of the others. -/
lemma mem_alter (h : IsSorted m) {p : α × β} (hp : p ∈ alter key f m) :
    p ∈ m ∨ f (m.lookup key) = some p.2 := by
  have hlookup := (mem_iff_lookup (isSorted_alter h)).mp hp
  rw [lookup_alter h] at hlookup
  split_ifs at hlookup with hkey
  · exact .inr hlookup
  · exact .inl ((mem_iff_lookup h).mpr hlookup)

end

end SemanticQuery.SortedMap
