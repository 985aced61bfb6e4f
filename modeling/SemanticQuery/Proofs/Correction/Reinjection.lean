import SemanticQuery.Proofs.Correction.Injection
import SemanticQuery.Proofs.Sql.Equality
import SemanticQuery.Sql.Reading

/-!
# Injecting twice

A second injection with the same request compares renamed conditions with conditions that were
renamed once more. It finds nothing lacking exactly where every wanted condition prints like a
renamed conjunct of what the first injection left behind, which a schema that renames one stored
value into another does not give.
-/

namespace SemanticQuery.Correction

open Sql

variable {r : Request} {tenantBizName : String} {s : Statement} {wanted : List Expr}

/-! ### The second injection -/

lemma lacking_injected_eq_nil_iff {rn : Renaming} {condition : Option Expr}
    (hwanted : ∀ w ∈ wanted, ∃ name, w.comparedName? = some name)
    (h : lacking rn condition wanted ≠ []) :
    lacking rn (injected rn condition wanted) wanted = [] ↔
      ∀ w ∈ wanted,
        (∃ k ∈ conjunctsOf (condition.map Expr.closed), (k.rename rn).print = w.print) ∨
          ∃ a ∈ lacking rn condition wanted, (a.rename rn).print = w.print := by
  rw [lacking_eq, missing_eq_nil_iff, conjunctsOf_injected hwanted h]
  simp only [List.map_append, List.mem_append, List.mem_map]

/-- A second injection changes nothing exactly where the first one changed nothing, or where every
wanted condition prints like a renamed conjunct, be it one that the statement had or one that was
added. -/
theorem inject_again_eq_none_iff {o : Option Statement}
    (hwanted : conditions r.renamings (r.allFilters tenantBizName) = .ok wanted)
    (h : inject r tenantBizName s = .ok o) :
    inject r tenantBizName (o.getD s) = .ok none ↔
      o = none ∨ ∀ w ∈ wanted,
        (∃ k ∈ conjunctsOf (s.condition?.map Expr.closed),
          (k.rename r.renamings).print = w.print) ∨
        ∃ a ∈ lacking r.renamings s.condition? wanted, (a.rename r.renamings).print = w.print := by
  cases hs : s.selection? with
  | none =>
    obtain rfl : o = none := by
      rw [inject_of_not_selection hs hwanted] at h
      exact (Except.ok.inj h).symm
    simp [h]
  | some selection =>
    have hsome : s.selection?.isSome = true := by simp [hs]
    have hfirst := inject_eq hsome hwanted
    rw [h, Except.ok.injEq] at hfirst
    by_cases hlacking : lacking r.renamings s.condition? wanted = []
    · rw [if_pos hlacking] at hfirst
      subst hfirst
      simp [h]
    · rw [if_neg hlacking] at hfirst
      subst hfirst
      -- The second run meets the condition that the first one left.
      have hsecond : (s.withCondition (injected r.renamings s.condition? wanted)).condition? =
          injected r.renamings s.condition? wanted :=
        Statement.condition?_withCondition hsome _
      rw [Option.getD_some, inject_eq (by simpa using hsome) hwanted, hsecond]
      rw [← lacking_injected_eq_nil_iff (exists_comparedName?_of_mem hwanted) hlacking]
      simp only [reduceCtorEq, false_or]
      split <;> simp_all

set_option maxRecDepth 100000 in
/-- Behind an open `OR` and a stored value that is no name, the second injection has nothing to
do. -/
theorem inject_again_stored :
    let or : Expr := .binary .or (.columnIs "p" "u") (.columnIs "q" "y")
    let added : Expr := .binary .and (.nested or) (.columnIs "p" "u")
    conditions (requestFor "u" "v").renamings ((requestFor "u" "v").allFilters "tenant_id") =
        .ok [.columnIs "p" "u"] ∧
      inject (requestFor "u" "v") "tenant_id" (.ofCondition (some or)) =
        .ok (some (.ofCondition (some added))) ∧
      inject (requestFor "u" "v") "tenant_id" (.ofCondition (some added)) = .ok none := by
  intro or added
  have hwanted :
      conditions (requestFor "u" "v").renamings ((requestFor "u" "v").allFilters "tenant_id") =
        .ok [.columnIs "p" "u"] := by
    decide +kernel
  have h : inject (requestFor "u" "v") "tenant_id" (.ofCondition (some or)) =
      .ok (some (.ofCondition (some added))) := by
    decide +kernel
  exact ⟨hwanted, h, (inject_again_eq_none_iff hwanted h).mpr (.inr (by decide +kernel))⟩

set_option maxRecDepth 100000 in
/-- Where `x` is stored as `y` and `y` as `z`, the second injection adds the condition again. -/
theorem inject_again_chained :
    ¬ ∀ (r : Request) (tenantBizName : String) (s : Statement) (o : Option Statement),
      s.IsWellJoined → s.selection?.isSome = true → inject r tenantBizName s = .ok o →
        inject r tenantBizName (o.getD s) = .ok none := by
  intro h
  have hfirst : inject (requestFor "y" "z") "tenant_id" (.ofCondition none) =
      .ok (some (.ofCondition (some (.columnIs "p" "y")))) := by
    decide +kernel
  have hsecond := h _ _ _ _ (by simp [Statement.IsWellJoined, Statement.ofCondition,
    Statement.condition?, Statement.selection?]) rfl hfirst
  revert hsecond
  decide +kernel

end SemanticQuery.Correction
