import SemanticQuery.Proofs.Correction.TenantSafety

/-!
# The tenant's condition over runs of passes

Once filters are injected, the condition on the tenant is a conjunct behind every further pass, in
whatever order the passes come, and no pass makes another one of it. What carries this is that a
condition with such a conjunct has no open `OR`: nothing that later passes put in parentheses hides
it.
-/

namespace SemanticQuery.Correction

open Sql

variable {c : Config} {r : Request} {s : Statement} {column : String} {i : Int}

/-! ### Conjuncts that equate -/

/-- A condition with an equation among its conjuncts has no open `OR`. -/
lemma hasOpenOr_of_numberIs_mem {e : Expr} (hwell : e.isWellJoined = true)
    (h : .numberIs column i ∈ e.deepConjuncts) : e.hasOpenOr = false := by
  by_contra hopen
  obtain ⟨left, right, rfl⟩ := Expr.eq_or_of_hasOpenOr hwell (by simpa using hopen)
  simp [Expr.deepConjuncts, Expr.numberIs] at h

lemma map_closed_of_numberIs_mem {condition : Option Expr}
    (hwell : ∀ k ∈ condition, k.isWellJoined = true)
    (h : .numberIs column i ∈ conjunctsOf condition) : condition.map Expr.closed = condition := by
  cases condition with
  | none => rfl
  | some e =>
    have hopen := hasOpenOr_of_numberIs_mem (hwell e rfl) (by simpa using h)
    rw [Option.map_some, Expr.closed_of_not_hasOpenOr hopen]

lemma conjunctsOf_alsoHolds {condition : Option Expr} {e : Expr}
    (hopen : ∀ k ∈ condition, k.hasOpenOr = false) :
    conjunctsOf (some (alsoHolds condition e)) = conjunctsOf condition ++ e.deepConjuncts := by
  cases condition with
  | none => simp [alsoHolds]
  | some k =>
    have hclosed : (parenthesized k).deepConjuncts = k.deepConjuncts := by
      unfold parenthesized
      split
      · rfl
      · simp [Expr.deepConjuncts, hopen k rfl]
    simp [alsoHolds, hclosed]

lemma count_map_mapExprs {f : Expr → Expr} (hf : KeepsPlain f) (es : List Expr) :
    (es.map (Expr.mapExprs f)).count (.numberIs column i) = es.count (.numberIs column i) := by
  rw [List.count_eq_countP, List.countP_map, List.count_eq_countP]
  refine List.countP_congr fun k _ => ?_
  simp [hf.mapExprs_eq_numberIs_iff]

/-! ### Injection -/

section

variable {rn : Renaming} {condition : Option Expr} {wanted : List Expr}

/-- An equation that is a conjunct is not added. -/
lemma print_ne_of_mem_lacking (h : .numberIs column i ∈ conjunctsOf condition) {a : Expr}
    (ha : a ∈ lacking rn condition wanted) : a.print ≠ (Expr.numberIs column i).print := by
  intro hprint
  rw [lacking_eq] at ha
  refine (mem_of_mem_missing ha).2 (List.mem_map.mpr ⟨_, h, ?_⟩)
  rw [Expr.rename_numberIs, hprint]

variable (hwanted : ∀ w ∈ wanted, ∃ name, w.comparedName? = some name)
include hwanted

lemma count_injected (hwell : ∀ k ∈ condition, k.isWellJoined = true)
    (h : .numberIs column i ∈ conjunctsOf condition) :
    (conjunctsOf (injected rn condition wanted)).count (.numberIs column i) =
      (conjunctsOf condition).count (.numberIs column i) := by
  by_cases hlacking : lacking rn condition wanted = []
  · rw [injected_of_lacking_eq_nil hlacking]
  · have hnone : (lacking rn condition wanted).count (.numberIs column i) = 0 :=
      List.count_eq_zero.mpr fun hmem => print_ne_of_mem_lacking h hmem rfl
    rw [conjunctsOf_injected hwanted hlacking, map_closed_of_numberIs_mem hwell h,
      List.count_append, hnone, Nat.add_zero]

/-- A wanted equation is a conjunct behind an injection, if no other expression that it is compared
with prints like it. -/
lemma numberIs_mem_injected (hwell : ∀ k ∈ condition, k.isWellJoined = true)
    (hmem : .numberIs column i ∈ wanted)
    (halike : ∀ k ∈ (conjunctsOf condition).map (Expr.rename rn) ++ wanted,
      k.print = (Expr.numberIs column i).print → k = .numberIs column i) :
    .numberIs column i ∈ conjunctsOf (injected rn condition wanted) := by
  by_cases hpresent : .numberIs column i ∈ conjunctsOf condition
  · rw [← List.count_pos_iff, count_injected hwanted hwell hpresent]
    exact List.count_pos_iff.mpr hpresent
  have hadded : .numberIs column i ∈ lacking rn condition wanted := by
    rw [lacking_eq]
    rcases print_mem_of_missing ((conjunctsOf condition).map fun k => (k.rename rn).print) hmem with
      hprint | ⟨a, ha, hprint⟩
    · obtain ⟨k, hk, hprint⟩ := List.mem_map.mp hprint
      have hrenamed := halike (k.rename rn)
        (List.mem_append_left _ (List.mem_map_of_mem hk)) hprint
      rw [Expr.rename, (Expr.keepsPlain_renameHere rn).mapExprs_eq_numberIs_iff] at hrenamed
      exact absurd (hrenamed ▸ hk) hpresent
    · have ha' := halike a (List.mem_append_right _ (mem_of_mem_missing ha).1) hprint
      exact ha' ▸ ha
  rw [conjunctsOf_injected hwanted (List.ne_nil_of_mem hadded)]
  exact List.mem_append_right _ hadded

end

/-! ### Single passes -/

/-- The condition of a statement behind a pass. -/
def conditionBehind (c : Config) (r : Request) (s : Statement) : Pass → Option Expr
  | .dateDefault => dated c r s
  | .dateDiff => s.condition?.map Expr.executable
  | .filterInjection => injected r.renamings s.condition? (r.wanted c.tenantBizName)
  | .aliasSubstitution => s.condition?.map (Expr.rename r.renamings)

lemma condition?_mapExprs {f : Expr → Expr} (hs : s.selection?.isSome = true) :
    (s.mapExprs f).condition? = s.condition?.map (Expr.mapExprs f) := by
  have hmapped := Statement.mapExprs_withCondition (f := f) s.condition? s
  rw [Statement.withCondition_condition?] at hmapped
  rw [hmapped]
  exact Statement.condition?_withCondition (by simpa using hs) _

lemma isSome_selection?_apply (hs : s.selection?.isSome = true) (p : Pass) :
    (p.apply c r s).selection?.isSome = true := by
  cases p with
  | dateDefault => rw [Pass.apply_dateDefault hs]; simpa using hs
  | dateDiff => rw [Pass.apply_dateDiff]; simpa [Statement.executable] using hs
  | filterInjection => rw [Pass.apply_filterInjection hs]; simpa using hs
  | aliasSubstitution => rw [Pass.apply_aliasSubstitution]; simpa [Statement.rename] using hs

lemma condition?_apply (hs : s.selection?.isSome = true) (p : Pass) :
    (p.apply c r s).condition? = conditionBehind c r s p := by
  cases p with
  | dateDefault =>
    rw [Pass.apply_dateDefault hs]
    exact Statement.condition?_withCondition hs _
  | dateDiff =>
    rw [Pass.apply_dateDiff]
    exact condition?_mapExprs hs
  | filterInjection =>
    rw [Pass.apply_filterInjection hs]
    exact Statement.condition?_withCondition hs _
  | aliasSubstitution =>
    rw [Pass.apply_aliasSubstitution]
    exact condition?_mapExprs hs

lemma isWellJoined_conditionBehind (hwell : s.IsWellJoined) (p : Pass) :
    ∀ k ∈ conditionBehind c r s p, k.isWellJoined = true := by
  have hmapped : ∀ {f : Expr → Expr}, KeepsJoints f →
      ∀ k ∈ s.condition?.map (Expr.mapExprs f), k.isWellJoined = true := by
    intro f hf k hk
    obtain ⟨e, he, rfl⟩ := Option.map_eq_some_iff.mp hk
    exact (hf.isWellJoined_mapExprs e).trans (hwell e he)
  cases p with
  | dateDefault => exact isWellJoined_dated hwell
  | dateDiff => exact hmapped Expr.keepsJoints_executableHere
  | filterInjection => exact isWellJoined_injected exists_comparedName?_of_mem_wanted hwell
  | aliasSubstitution => exact hmapped (Expr.keepsJoints_renameHere r.renamings)

/-- No pass makes another conjunct of an equation that is one, and none loses it. -/
lemma count_conditionBehind (hwell : s.IsWellJoined)
    (h : .numberIs column i ∈ conjunctsOf s.condition?) (p : Pass) :
    (conjunctsOf (conditionBehind c r s p)).count (.numberIs column i) =
      (conjunctsOf s.condition?).count (.numberIs column i) := by
  cases p with
  | dateDefault =>
    have hopen : ∀ k ∈ s.condition?, k.hasOpenOr = false := fun k hk =>
      hasOpenOr_of_numberIs_mem (hwell k hk) (by simpa [Option.mem_def.mp hk] using h)
    rw [conditionBehind]
    unfold dated
    split
    next e he =>
      have hdate : e.deepConjuncts.count (.numberIs column i) = 0 := by
        obtain ⟨date, rfl⟩ := exists_columnIs_of_dateCondition? he
        refine List.count_eq_zero.mpr ?_
        cases i <;> simp [Expr.columnIs, Expr.deepConjuncts, Expr.numberIs, Expr.numeral]
      rw [conjunctsOf_alsoHolds hopen, List.count_append, hdate, Nat.add_zero]
    next _ => rfl
  | dateDiff =>
    have hmap := Expr.keepsJoints_executableHere.conjunctsOf_map s.condition?
    exact (congrArg _ hmap).trans (count_map_mapExprs Expr.keepsPlain_executableHere _)
  | filterInjection => exact count_injected exists_comparedName?_of_mem_wanted hwell h
  | aliasSubstitution =>
    have hmap := (Expr.keepsJoints_renameHere r.renamings).conjunctsOf_map s.condition?
    exact (congrArg _ hmap).trans (count_map_mapExprs (Expr.keepsPlain_renameHere _) _)

/-! ### Runs -/

/-- A well joined selection. -/
structure IsSound (s : Statement) : Prop where
  isSome : s.selection?.isSome = true
  isWellJoined : s.IsWellJoined

lemma IsSound.apply (h : IsSound s) (p : Pass) : IsSound (p.apply c r s) where
  isSome := isSome_selection?_apply h.isSome p
  isWellJoined := by
    rw [Statement.IsWellJoined, condition?_apply h.isSome]
    exact isWellJoined_conditionBehind h.isWellJoined p

lemma IsSound.run (h : IsSound s) (passes : List Pass) : IsSound (Pass.run c r passes s) := by
  induction passes generalizing s with
  | nil => exact h
  | cons p passes ih => exact ih (h.apply p)

/-- An equation stands `n` times, and at least once, among the conjuncts of a selection. -/
structure Equates (column : String) (i : Int) (n : Nat) (s : Statement) : Prop extends
    IsSound s where
  mem : .numberIs column i ∈ conjunctsOf s.condition?
  count : (conjunctsOf s.condition?).count (.numberIs column i) = n

namespace Equates

variable {n : Nat}

/-- One pass keeps the number of times. -/
lemma apply (h : Equates column i n s) (p : Pass) : Equates column i n (p.apply c r s) := by
  have hcount : (conjunctsOf (p.apply c r s).condition?).count (.numberIs column i) =
      (conjunctsOf s.condition?).count (.numberIs column i) := by
    rw [condition?_apply h.isSome]
    exact count_conditionBehind h.isWellJoined h.mem p
  refine ⟨h.toIsSound.apply p, ?_, hcount.trans h.count⟩
  rw [← List.count_pos_iff, hcount]
  exact List.count_pos_iff.mpr h.mem

/-- Passes in any order keep it. -/
lemma run (h : Equates column i n s) (passes : List Pass) :
    Equates column i n (Pass.run c r passes s) := by
  induction passes generalizing s with
  | nil => exact h
  | cons p passes ih => exact ih (h.apply p)

end Equates

variable {tenant : Int} {d : Element}

/-- The expressions that an injection compares the wanted conditions with: the conjuncts with their
strings renamed, and the wanted conditions themselves. -/
def comparedWithWanted (c : Config) (r : Request) (s : Statement) : List Expr :=
  (conjunctsOf s.condition?).map (Expr.rename r.renamings) ++ r.wanted c.tenantBizName

/-- Passes in any order: from an injection on the condition on the tenant is a conjunct, as many
times as right behind that injection, and no later injection adds a condition that prints like it.
At that injection, what prints like the condition has to be the condition. -/
theorem tenant_mem_run (before after : List Pass) (hs : s.selection?.isSome = true)
    (hwell : s.IsWellJoined) (haccepted : r.AcceptsFilters c.tenantBizName)
    (htenant : r.tenant = some tenant) (hreal : tenant ∉ noTenants)
    (hd : r.schema.dimension? r.models c.tenantBizName = some d)
    (halike : ∀ k ∈ comparedWithWanted c r (Pass.run c r before s),
      k.print = (Expr.numberIs d.name tenant).print → k = .numberIs d.name tenant) :
    let injected := Pass.run c r (before ++ [.filterInjection]) s
    let later := Pass.run c r after injected
    .numberIs d.name tenant ∈ conjunctsOf later.condition? ∧
      (conjunctsOf later.condition?).count (.numberIs d.name tenant) =
        (conjunctsOf injected.condition?).count (.numberIs d.name tenant) ∧
      ∀ a ∈ lacking r.renamings later.condition? (r.wanted c.tenantBizName),
        a.print ≠ (Expr.numberIs d.name tenant).print := by
  intro injected later
  have hbefore : IsSound (Pass.run c r before s) := IsSound.run ⟨hs, hwell⟩ before
  have hinjected : injected = Pass.filterInjection.apply c r (Pass.run c r before s) := by
    simp [injected, Pass.run]
  have hmem : .numberIs d.name tenant ∈ conjunctsOf injected.condition? := by
    rw [hinjected, condition?_apply hbefore.isSome]
    exact numberIs_mem_injected exists_comparedName?_of_mem_wanted hbefore.isWellJoined
      (numberIs_mem_wanted haccepted htenant hreal hd).2 halike
  have hequates : Equates d.name tenant
      ((conjunctsOf injected.condition?).count (.numberIs d.name tenant)) injected :=
    ⟨hinjected ▸ hbefore.apply .filterInjection, hmem, rfl⟩
  have hlater := hequates.run (c := c) (r := r) after
  exact ⟨hlater.mem, hlater.count, fun a => print_ne_of_mem_lacking hlater.mem⟩

set_option maxRecDepth 100000 in
/-- Behind an open `OR`, a date and a second injection the condition on the tenant is a conjunct
once. -/
theorem tenant_mem_run_dated :
    let r := { tenantRequest with date := some "2024-05-01" }
    let s := Statement.ofCondition (some (.binary .or (.columnIs "p" "x") (.columnIs "q" "y")))
    let injected := Pass.run .standard r ([.aliasSubstitution] ++ [.filterInjection]) s
    let later := Pass.run .standard r [.dateDefault, .filterInjection] injected
    Expr.numberIs "tenant" 7 ∈ conjunctsOf later.condition? ∧
      (conjunctsOf later.condition?).count (.numberIs "tenant" 7) = 1 := by
  intro r s injected later
  have hwell : s.IsWellJoined := by
    intro e he
    cases he
    rfl
  have haccepted : r.AcceptsFilters Config.standard.tenantBizName := by
    unfold Request.AcceptsFilters
    decide +kernel
  have hd : r.schema.dimension? r.models Config.standard.tenantBizName = some tenantDimension := by
    decide +kernel
  have halike : ∀ k ∈ comparedWithWanted .standard r (Pass.run .standard r [.aliasSubstitution] s),
      k.print = (Expr.numberIs tenantDimension.name 7).print →
        k = .numberIs tenantDimension.name 7 := by
    decide +kernel
  have honce : (conjunctsOf injected.condition?).count (.numberIs "tenant" 7) = 1 := by
    decide +kernel
  obtain ⟨hmem, hcount, -⟩ := tenant_mem_run [.aliasSubstitution] [.dateDefault, .filterInjection]
    rfl hwell haccepted rfl (by decide) hd halike
  exact ⟨hmem, hcount.trans honce⟩

end SemanticQuery.Correction
