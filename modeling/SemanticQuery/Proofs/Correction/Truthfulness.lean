import SemanticQuery.Proofs.Correction.FilterParity

/-!
# What a pass reports

A pass reports a change exactly where it changes the statement. No pass finds that out by comparing:
a date makes the condition larger, and so does every condition that is joined to it; a difference of
dates that is made executable is none any longer; and no string is renamed to itself. Only the
injection fails, at the first filter that is refused, and then it has changed nothing.
-/

namespace SemanticQuery

open Sql

/-! ### Strings that are renamed -/

namespace Sql

variable {r : Renaming}

lemma Expr.rename_ne_self {e : Expr} (hr : ∀ text, r.lookup text ≠ some text)
    (h : e.isRenamed r = true) : e.rename r ≠ e := by
  have hstored : ∀ text, (r.lookup text).isSome = true → r.stored text ≠ text := by
    intro text hsome hstored
    rw [(Renaming.stored_eq_self_iff (hr text)).mp hstored] at hsome
    exact Bool.noConfusion hsome
  match e with
  | .literal (.single text) =>
    exact fun heq => hstored text h (Literal.single.inj (Expr.literal.inj heq))
  | .literal (.double text) =>
    exact fun heq => hstored text h (Literal.double.inj (Expr.literal.inj heq))
  | .literal (.number _ _) | .literal (.national _) | .literal (.hex _) | .literal (.bytes _ _)
  | .literal (.boolean _) | .literal .null | .literal (.placeholder _)
  | .name _ | .path _ | .nested _ | .unary _ _ | .binary _ _ _ | .inList _ _ _ | .like _ _ _ _ _
  | .between _ _ _ _ | .cast _ _ _ | .trim _ _ _ | .call _ | .phrase _ =>
    simp [isRenamed] at h

/-- A statement with a string that is renamed is not renamed to itself. -/
lemma Statement.rename_ne_self {s : Statement} (hr : ∀ text, r.lookup text ≠ some text)
    (h : 0 < s.renamedCount r) : s.rename r ≠ s := by
  intro heq
  obtain ⟨x, hx, hrenamed⟩ := List.countP_pos_iff.mp h
  have hsame : s.subexprs.map (Expr.mapExprs (Expr.renameHere r)) = s.subexprs.map id := by
    rw [← Statement.subexprs_mapExprs (Expr.inner_renameHere r), List.map_id]
    exact congrArg Statement.subexprs heq
  exact Expr.rename_ne_self hr hrenamed (List.map_inj_left.mp hsame x hx)

/-! ### Differences of dates -/

lemma Statement.executable_ne_self {s : Statement} (h : s.hasDateDifference = true) :
    s.executable ≠ s := by
  intro heq
  obtain ⟨x, hx, hdiff⟩ := List.any_eq_true.mp h
  rw [← heq] at hx
  exact Bool.noConfusion ((s.not_isDateDifference_of_mem_executable x hx).symm.trans hdiff)

/-! ### Conditions that grow -/

lemma Statement.withCondition_ne_self {s : Statement} {condition : Option Expr}
    (hs : s.selection?.isSome = true) (h : condition ≠ s.condition?) :
    s.withCondition condition ≠ s := by
  intro heq
  have hcondition := congrArg Statement.condition? heq
  rw [Statement.condition?_withCondition hs] at hcondition
  exact h hcondition

lemma Expr.sizeOf_conj (left right : Expr) :
    sizeOf left < sizeOf (left.conj right) := by
  simp +arith [Expr.conj]

lemma sizeOf_le_closed (e : Expr) : sizeOf e ≤ sizeOf e.closed := by
  unfold Expr.closed
  split
  · simp
  · exact le_rfl

lemma sizeOf_joined (es : List Expr) (k : Expr) :
    ∃ e, joined (some k) es = some e ∧ sizeOf k ≤ sizeOf e := by
  induction es generalizing k with
  | nil => exact ⟨k, rfl, le_rfl⟩
  | cons e es ih =>
    obtain ⟨x, hx, hle⟩ := ih (k.conj e)
    exact ⟨x, hx, (Expr.sizeOf_conj k e).le.trans hle⟩

end Sql

namespace Correction

lemma sizeOf_le_parenthesized (e : Expr) : sizeOf e ≤ sizeOf (parenthesized e) := by
  unfold parenthesized
  split <;> simp

lemma alsoHolds_ne (condition : Option Expr) (e : Expr) :
    some (alsoHolds condition e) ≠ condition := by
  cases condition with
  | none => simp
  | some k =>
    intro heq
    have hsize := congrArg sizeOf (Option.some.inj heq)
    have hlt := (sizeOf_le_parenthesized k).trans_lt (Expr.sizeOf_conj (parenthesized k) e)
    exact absurd hsize hlt.ne'

variable {c : Config} {r : Request} {s : Statement}

/-- Where something is lacking, the injected condition is another one. -/
lemma injected_ne {rn : Renaming} {condition : Option Expr} {wanted : List Expr}
    (h : lacking rn condition wanted ≠ []) : injected rn condition wanted ≠ condition := by
  rw [injected, if_neg h]
  obtain ⟨e, es, heq⟩ := List.exists_cons_of_ne_nil h
  rw [heq]
  cases condition with
  | none =>
    obtain ⟨x, hx, -⟩ := sizeOf_joined es e
    rw [Option.map_none, joined, hx]
    simp
  | some k =>
    -- the first one that is lacking stands beside the old condition, which would be a part of itself
    obtain ⟨x, hx, hle⟩ := sizeOf_joined es (k.closed.conj e)
    rw [Option.map_some, joined, hx, ne_eq, Option.some.injEq]
    rintro rfl
    have hlt := (sizeOf_le_closed x).trans_lt (Expr.sizeOf_conj x.closed e)
    exact absurd hle hlt.not_ge

/-! ### Changes -/

namespace Pass

/-- What a pass makes of a statement is another statement. -/
lemma ne_of_change {p : Pass} {changed : Statement} (h : p.change c r s = .ok (some changed)) :
    changed ≠ s := by
  cases p with
  | dateDefault =>
    cases hs : s.selection? with
    | none => simp [change, addDate, hs] at h
    | some selection =>
      have hsome : s.selection?.isSome = true := by simp [hs]
      rw [change, addDate_eq hsome, Except.ok.injEq, Option.map_eq_some_iff] at h
      obtain ⟨e, -, rfl⟩ := h
      exact Statement.withCondition_ne_self hsome (alsoHolds_ne _ e)
  | dateDiff =>
    cases hdiff : s.hasDateDifference with
    | false => simp [change, hdiff] at h
    | true =>
      obtain rfl : s.executable = changed := by simpa [change, hdiff] using h
      exact Statement.executable_ne_self hdiff
  | filterInjection =>
    cases hwanted : conditions r.renamings (r.allFilters c.tenantBizName) with
    | error failure => simp [change, inject, hwanted, bind, Except.bind] at h
    | ok wanted =>
      cases hs : s.selection? with
      | none => simp [change, inject_of_not_selection hs hwanted] at h
      | some selection =>
        have hsome : s.selection?.isSome = true := by simp [hs]
        rw [change, inject_eq hsome hwanted] at h
        by_cases hlacking : lacking r.renamings s.condition? wanted = []
        · simp [hlacking] at h
        · obtain rfl : s.withCondition (injected r.renamings s.condition? wanted) = changed := by
            simpa [hlacking] using h
          exact Statement.withCondition_ne_self hsome (injected_ne hlacking)
  | aliasSubstitution =>
    by_cases hcount : 0 < s.renamedCount r.renamings
    · obtain rfl : s.rename r.renamings = changed := by simpa [change, hcount] using h
      exact Statement.rename_ne_self (r.schema.lookup_renamings_ne_self r.models) hcount
    · simp [change, hcount] at h

end Pass

end Correction

/-! ### Failures -/

lemma Filter.mapM_condition_eq_error_iff {fs : List Filter} {failure : Failure} :
    fs.mapM condition = .error failure ↔
      ∃ before f after, fs = before ++ f :: after ∧ (∀ g ∈ before, g.condition.isOk = true) ∧
        f.condition = .error failure := by
  induction fs with
  | nil => simp [pure, Except.pure]
  | cons f fs ih =>
    rw [List.mapM_cons]
    constructor
    · intro h
      cases hf : f.condition with
      | error failure' =>
        obtain rfl : failure' = failure := by simpa [hf, bind, Except.bind] using h
        exact ⟨[], f, fs, rfl, by simp, hf⟩
      | ok e =>
        have hrest : fs.mapM condition = .error failure := by
          cases hfs : fs.mapM condition with
          | error failure' => simpa [hf, hfs, bind, Except.bind] using h
          | ok es => simp [hf, hfs, bind, Except.bind, pure, Except.pure] at h
        obtain ⟨before, g, after, rfl, hbefore, hg⟩ := ih.mp hrest
        refine ⟨f :: before, g, after, rfl, ?_, hg⟩
        simpa [hf, Except.isOk, Except.toBool] using hbefore
    · rintro ⟨before, g, after, hfs, hbefore, hg⟩
      cases before with
      | nil =>
        obtain ⟨rfl, rfl⟩ := List.cons.inj hfs
        simp [hg, bind, Except.bind]
      | cons first before =>
        obtain ⟨rfl, hrest⟩ := List.cons.inj hfs
        rw [List.forall_mem_cons] at hbefore
        cases hf : f.condition with
        | error failure' => simp [hf, Except.isOk, Except.toBool] at hbefore
        | ok e => simp [ih.mpr ⟨before, g, after, hrest, hbefore.2, hg⟩, bind, Except.bind]

namespace Correction

variable {c : Config} {r : Request} {s : Statement}

lemma inject_eq_error_iff {tenantBizName : String} {failure : Failure} :
    inject r tenantBizName s = .error failure ↔
      (r.allFilters tenantBizName).mapM Filter.condition = .error failure := by
  cases hs : s.selection? with
  | none =>
    cases hfilters : (r.allFilters tenantBizName).mapM Filter.condition <;>
      simp [inject, conditions, hfilters, hs, bind, Except.bind, pure, Except.pure]
  | some selection =>
    cases hfilters : (r.allFilters tenantBizName).mapM Filter.condition with
    | error _ => simp [inject, conditions, hfilters, bind, Except.bind]
    | ok es =>
      simp only [inject, conditions, hfilters, hs, bind, Except.bind, pure, Except.pure,
        reduceCtorEq, iff_false]
      split <;> simp

lemma Pass.change_eq_error_iff {p : Pass} {failure : Failure} :
    p.change c r s = .error failure ↔
      p = .filterInjection ∧
        (r.allFilters c.tenantBizName).mapM Filter.condition = .error failure := by
  cases p with
  | filterInjection => simpa [change] using inject_eq_error_iff
  | _ => simp [change]

/-- The second pass goes through the whole statement, and reports a change where it meets a
difference of dates. -/
lemma Pass.exists_change_dateDiff_iff :
    (∃ changed, change c r s .dateDiff = .ok (some changed)) ↔ s.hasDateDifference = true := by
  cases hdiff : s.hasDateDifference <;> simp [change, hdiff]

/-- The fourth pass goes through the whole statement, and reports a change where it renames at least
one string. -/
lemma Pass.exists_change_aliasSubstitution_iff :
    (∃ changed, change c r s .aliasSubstitution = .ok (some changed)) ↔
      0 < s.renamedCount r.renamings := by
  by_cases hcount : 0 < s.renamedCount r.renamings
  · simp [change, hcount]
  · simp [change, hcount]

/-- A pass reports a change exactly where the statement behind it is another one, and leaves the
statement as it was where it reports none or fails. Only the injection fails, with the first filter
of the request, or else the tenant's, that is refused. The second and the fourth pass rewrite every
expression of the statement, whatever they report; they report whether one of them was a difference
of dates, and whether the number of renamed strings is positive. -/
theorem Pass.change_iff_apply_ne (c : Config) (r : Request) (s : Statement) (p : Pass) :
    (p.change c r s = .ok (some (p.apply c r s)) ↔ p.apply c r s ≠ s) ∧
      (∀ changed, p.change c r s = .ok (some changed) → p.apply c r s = changed) ∧
      (p.change c r s = .ok none ∨ (∃ failure, p.change c r s = .error failure) →
        p.apply c r s = s) ∧
      (∀ failure, p.change c r s = .error failure ↔
        p = .filterInjection ∧ ∃ before f after,
          r.filters ++ (r.tenantFilter? c.tenantBizName).toList = before ++ f :: after ∧
            (∀ g ∈ before, g.condition.isOk = true) ∧ f.condition = .error failure) ∧
      (apply c r s .dateDiff = s.executable ∧
        ((∃ changed, change c r s .dateDiff = .ok (some changed)) ↔
          s.hasDateDifference = true)) ∧
      apply c r s .aliasSubstitution = s.rename r.renamings ∧
        ((∃ changed, change c r s .aliasSubstitution = .ok (some changed)) ↔
          0 < s.renamedCount r.renamings) := by
  have hkept : (p.change c r s = .ok none ∨ ∃ failure, p.change c r s = .error failure) →
      p.apply c r s = s := by
    rintro (h | ⟨failure, h⟩) <;> simp [apply, h]
  have hchanged : ∀ changed, p.change c r s = .ok (some changed) → p.apply c r s = changed := by
    intro changed h
    simp [apply, h]
  refine ⟨⟨ne_of_change, fun hne => ?_⟩, hchanged, hkept, fun failure => ?_,
    ⟨apply_dateDiff, exists_change_dateDiff_iff⟩, apply_aliasSubstitution,
    exists_change_aliasSubstitution_iff⟩
  · cases h : p.change c r s with
    | error failure => exact absurd (hkept (.inr ⟨failure, h⟩)) hne
    | ok o =>
      cases o with
      | none => exact absurd (hkept (.inl h)) hne
      | some changed => rw [hchanged changed h]
  · rw [change_eq_error_iff, Filter.mapM_condition_eq_error_iff]
    rfl

end Correction

end SemanticQuery
