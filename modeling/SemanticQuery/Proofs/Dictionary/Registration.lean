import SemanticQuery.Proofs.Dictionary.Refinement

/-!
# Tenants that look up

A look-up changes no term. It registers the tenant who looks up what everyone has not, and the
current generation stays the current one until the next change.
-/

namespace SemanticQuery.Dictionary

namespace Op

/-- Whether a step makes a new generation. -/
def writes : Op → Bool
  | .reload text => (Entries.load text).isOk
  | .lookupPrefix .. | .lookupSuffix .. => false
  | _ => true

/-- A tenant looks up what everyone has not. -/
def Misses (s : Snapshot) (id : Int) : Op → Prop
  | .lookupPrefix tenant text limit scope =>
    tenant = id ∧ 0 < id ∧ s.forward.search (keyOf text) limit scope.accepts = []
  | _ => False

end Op

/-! ### Snapshots -/

/-- The terms of two states are the same, and some more tenants are registered in the second. -/
structure Snapshot.Registers (s s' : Snapshot) (new : Int → Prop) : Prop where
  forward : s'.forward = s.forward
  suffix : s'.suffix = s.suffix
  tenantTrie : ∀ id, s'.tenantTrie id = s.tenantTrie id
  hasTenant : ∀ id, s'.hasTenant id = true ↔ s.hasTenant id = true ∨ new id
  sorted : SortedMap.IsSorted s'.tenants

namespace Snapshot

variable {s s' : Snapshot} {new : Int → Prop}

lemma hasTenant_register (h : SortedMap.IsSorted s.tenants) (tenant id : Int) :
    (s.register tenant).hasTenant id = true ↔ s.hasTenant id = true ∨ tenant = id := by
  rw [hasTenant, register, SortedMap.lookup_alter h, hasTenant]
  by_cases hid : id = tenant
  · simp [hid]
  · simp [hid, Ne.symm hid]

lemma lookup_tenants (s : Snapshot) (id : Int) :
    s.tenants.lookup id = if s.hasTenant id then some (s.tenantTrie id) else none := by
  rw [hasTenant, tenantTrie]
  cases s.tenants.lookup id <;> rfl

lemma findPrefix_snd (s : Snapshot) (tenant : Int) (key : Key) (limit : ℕ) (scope : Scope) :
    (s.findPrefix tenant key limit scope).2 =
      if 0 < tenant ∧ s.forward.search key limit scope.accepts = [] then s.register tenant
      else s := by
  rw [findPrefix]
  by_cases htenant : 0 < tenant <;>
    by_cases hnone : s.forward.search key limit scope.accepts = [] <;> simp [htenant, hnone]

namespace Registers

lemma refl (h : SortedMap.IsSorted s.tenants) : s.Registers s fun _ => False where
  forward := rfl
  suffix := rfl
  tenantTrie _ := rfl
  hasTenant _ := (or_false _).symm.to_iff
  sorted := h

lemma register (h : s.Registers s' new) (tenant : Int) :
    s.Registers (s'.register tenant) fun id => new id ∨ tenant = id where
  forward := h.forward
  suffix := h.suffix
  tenantTrie id := (tenantTrie_register h.sorted tenant id).trans (h.tenantTrie id)
  hasTenant id := by rw [hasTenant_register h.sorted, h.hasTenant, or_assoc]
  sorted := SortedMap.isSorted_alter h.sorted

lemma congr (h : s.Registers s' new) {new' : Int → Prop} (hnew : ∀ id, new id ↔ new' id) :
    s.Registers s' new' :=
  { h with hasTenant := fun id => by rw [h.hasTenant, hnew] }

lemma findPrefix (h : s.Registers s' new) (tenant : Int) (text : String) (limit : ℕ)
    (scope : Scope) :
    s.Registers (s'.findPrefix tenant (keyOf text) limit scope).2 fun id =>
      new id ∨ (Op.lookupPrefix tenant text limit scope).Misses s id := by
  rw [findPrefix_snd, h.forward]
  split_ifs with hmiss
  · refine (h.register tenant).congr fun id => or_congr_right ?_
    constructor
    · rintro rfl
      exact ⟨rfl, hmiss⟩
    · exact fun hid => hid.1
  · refine h.congr fun id => (or_iff_left ?_).symm
    rintro ⟨rfl, hid⟩
    exact hmiss hid

/-- A look-up does not see who is registered. -/
lemma lookupPrefix_fst (h : s.Registers s' new) (size : ℕ) (tenant : Int) (text : String)
    (limit : ℕ) (scope : Scope) :
    (s'.lookupPrefix size tenant text limit scope).1 =
      (s.lookupPrefix size tenant text limit scope).1 := by
  have hfound : (s'.findPrefix tenant (keyOf text) limit scope).1 =
      (s.findPrefix tenant (keyOf text) limit scope).1 := by
    rw [Snapshot.findPrefix, Snapshot.findPrefix, h.forward, h.tenantTrie]
    split_ifs <;> rfl
  rw [Snapshot.lookupPrefix, Snapshot.lookupPrefix]
  dsimp only
  rw [hfound]

lemma lookupSuffix (h : s.Registers s' new) (size : ℕ) (text : String) (limit : ℕ)
    (scope : Scope) :
    s'.lookupSuffix size text limit scope = s.lookupSuffix size text limit scope := by
  rw [Snapshot.lookupSuffix, Snapshot.lookupSuffix, h.suffix]

/-- The order in which tenants were registered leaves no trace. -/
lemma unique {s₁ s₂ : Snapshot} (h₁ : s.Registers s₁ new) (h₂ : s.Registers s₂ new) :
    s₁ = s₂ := by
  have hforward : s₁.forward = s₂.forward := h₁.forward.trans h₂.forward.symm
  have hsuffix : s₁.suffix = s₂.suffix := h₁.suffix.trans h₂.suffix.symm
  have htenants : s₁.tenants = s₂.tenants := by
    refine SortedMap.eq_of_lookup_eq h₁.sorted h₂.sorted fun id => ?_
    have hhas : s₁.hasTenant id = s₂.hasTenant id :=
      Bool.eq_iff_iff.mpr ((h₁.hasTenant id).trans (h₂.hasTenant id).symm)
    rw [lookup_tenants, lookup_tenants, hhas, h₁.tenantTrie, h₂.tenantTrie]
  cases s₁
  cases s₂
  exact Snapshot.mk.injEq .. ▸ ⟨hforward, hsuffix, htenants⟩

end Registers

end Snapshot

/-! ### Indexes -/

namespace Index

variable {i : Index} {s : Snapshot} {new : Int → Prop}

/-- A step either makes a new generation or stays in the current one. -/
lemma step_cases (i : Index) (op : Op) :
    op.writes = true ∧ (∃ s, i.step op = i.publish s) ∨
      op.writes = false ∧ ∃ s, i.step op = { i with current := s } := by
  cases op with
  | reload text =>
    rw [Op.writes, step, reload]
    cases Entries.load text with
    | error _ => exact .inr ⟨rfl, i.current, rfl⟩
    | ok es => exact .inl ⟨rfl, _, rfl⟩
  | lookupPrefix tenant text limit scope => exact .inr ⟨rfl, _, rfl⟩
  | lookupSuffix text limit scope => exact .inr ⟨rfl, i.current, rfl⟩
  | _ => exact .inl ⟨rfl, _, rfl⟩

lemma registers_step (h : s.Registers i.current new) {op : Op} (hop : op.writes = false) :
    s.Registers (i.step op).current fun id => new id ∨ op.Misses s id := by
  have hsame : s.Registers i.current fun id => new id ∨ False :=
    h.congr fun id => (or_false _).symm.to_iff
  cases op with
  | reload text =>
    rw [Op.writes] at hop
    rw [step, reload]
    cases hload : Entries.load text with
    | error _ => exact hsame
    | ok es => simp [hload, Except.isOk, Except.toBool] at hop
  | lookupPrefix tenant text limit scope => exact h.findPrefix tenant text limit scope
  | lookupSuffix text limit scope => exact hsame
  | _ => exact absurd hop (by simp [Op.writes])

/-- Steps without changes register those who look up what everyone has not. -/
lemma registers_run (h : s.Registers i.current new) {ops : List Op}
    (hops : ∀ op ∈ ops, op.writes = false) :
    s.Registers (i.run ops).current fun id => new id ∨ ∃ op ∈ ops, op.Misses s id := by
  induction ops generalizing i new with
  | nil => exact h.congr fun id => by simp
  | cons op ops ih =>
    have hstep := registers_step h (hops op List.mem_cons_self)
    refine (ih hstep fun op' hop' => hops op' (List.mem_cons_of_mem op hop')).congr fun id => ?_
    simp only [List.mem_cons, exists_eq_or_imp, or_assoc]

/-- Steps without changes leave all but the current generation as it is. -/
lemma run_eq (i : Index) {ops : List Op} (hops : ∀ op ∈ ops, op.writes = false) :
    i.run ops = { i with current := (i.run ops).current } := by
  induction ops generalizing i with
  | nil => rfl
  | cons op ops ih =>
    change (i.step op).run ops = { i with current := ((i.step op).run ops).current }
    rcases step_cases i op with ⟨hop, -⟩ | ⟨-, s, hstep⟩
    · exact absurd (hops op List.mem_cons_self) (by simp [hop])
    · rw [hstep]
      exact ih _ fun op' hop' => hops op' (List.mem_cons_of_mem op hop')

/-! ### Generations -/

lemma generation?_generation (i : Index) : i.generation? i.generation = some i.current := by
  simp [generation?, generation]

lemma generation?_of_lt {n : ℕ} (hn : n < i.generation) : i.generation? n = i.earlier[n]? :=
  List.getElem?_append_left hn

lemma generation?_publish (s : Snapshot) {n : ℕ} (hn : n ≤ i.generation) :
    (i.publish s).generation? n = i.generation? n := by
  refine List.getElem?_append_left ?_
  simpa [publish, generation] using Nat.lt_succ_of_le hn

/-- Earlier generations stay as they were. -/
lemma generation?_run_of_lt {n : ℕ} (hn : n < i.generation) (ops : List Op) :
    (i.run ops).generation? n = i.generation? n := by
  induction ops generalizing i with
  | nil => rfl
  | cons op ops ih =>
    change ((i.step op).run ops).generation? n = i.generation? n
    rcases step_cases i op with ⟨-, s, hstep⟩ | ⟨-, s, hstep⟩
    · have hlater : n < (i.publish s).generation := by
        simpa [publish, generation] using Nat.lt_succ_of_lt hn
      rw [hstep, ih hlater, generation?_publish s hn.le]
    · have hlater : n < { i with current := s }.generation := hn
      rw [hstep, ih hlater, generation?_of_lt hlater, generation?_of_lt hn]

/-- A generation ends with the next change. -/
lemma generation?_run (i : Index) (ops : List Op) :
    (i.run ops).generation? i.generation =
      some (i.run (ops.takeWhile fun op => !op.writes)).current := by
  induction ops generalizing i with
  | nil => exact generation?_generation i
  | cons op ops ih =>
    change ((i.step op).run ops).generation? i.generation = _
    rcases step_cases i op with ⟨hop, s, hstep⟩ | ⟨hop, s, hstep⟩
    · have hlater : i.generation < (i.publish s).generation := by simp [publish, generation]
      rw [List.takeWhile_cons_of_neg (by simp [hop]), hstep, generation?_run_of_lt hlater,
        generation?_publish s le_rfl, generation?_generation]
      rfl
    · rw [List.takeWhile_cons_of_pos (by simp [hop])]
      have hgeneration : (i.step op).generation = i.generation := by rw [hstep]; rfl
      rw [← hgeneration, ih]
      rfl

end Index

end SemanticQuery.Dictionary
