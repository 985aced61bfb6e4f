import SemanticQuery.Correction.Pass
import SemanticQuery.Proofs.Correction.DateDifference
import SemanticQuery.Proofs.Correction.Injection

/-!
# Laws of passes

Each pass is one function of the statement: the first and the third change its condition, the
second and the fourth map its expressions. A correction is told by what becomes of the condition
on its way through the four passes; everything else is mapped twice.
-/

namespace SemanticQuery.Correction

open Sql

variable {c : Config} {r : Request} {s : Statement}

/-! ### Wanted conditions -/

/-- Every filter that a query has to obey is a condition on its column. -/
def Request.AcceptsFilters (r : Request) (tenantBizName : String) : Prop :=
  ∀ f ∈ r.allFilters tenantBizName, f.condition.isOk = true

/-- The conditions that a query has to obey; none are wanted if a filter is refused. -/
def Request.wanted (r : Request) (tenantBizName : String) : List Expr :=
  match conditions r.renamings (r.allFilters tenantBizName) with
  | .ok wanted => wanted
  | .error _ => []

lemma conditions_eq_ok {tenantBizName : String} (h : r.AcceptsFilters tenantBizName) :
    conditions r.renamings (r.allFilters tenantBizName) = .ok (r.wanted tenantBizName) := by
  obtain ⟨wanted, hwanted⟩ := exists_conditions r.renamings h
  simp [Request.wanted, hwanted]

lemma mem_wanted_iff {tenantBizName : String} (h : r.AcceptsFilters tenantBizName) (w : Expr) :
    w ∈ r.wanted tenantBizName ↔
      ∃ f ∈ r.allFilters tenantBizName, ∃ e, f.condition = .ok e ∧ w = e.rename r.renamings :=
  mem_iff_of_conditions (conditions_eq_ok h) w

lemma exists_filter_of_mem_wanted {tenantBizName : String} {w : Expr}
    (hw : w ∈ r.wanted tenantBizName) :
    ∃ f ∈ r.allFilters tenantBizName, ∃ e, f.condition = .ok e ∧ w = e.rename r.renamings := by
  unfold Request.wanted at hw
  split at hw
  next wanted hwanted => exact (mem_iff_of_conditions hwanted w).mp hw
  next _ => simp at hw

lemma exists_comparedName?_of_mem_wanted {tenantBizName : String} :
    ∀ w ∈ r.wanted tenantBizName, ∃ name, w.comparedName? = some name := by
  intro w hw
  obtain ⟨f, _, e, he, rfl⟩ := exists_filter_of_mem_wanted hw
  exact ⟨f.name, Expr.comparedName?_rename r.renamings (Filter.condition_eq_ok he).2⟩

/-- Renaming leaves a wanted condition alone, provided that no stored value is renamed itself. -/
lemma rename_of_mem_wanted {tenantBizName : String} (hsettled : r.renamings.IsSettled) :
    ∀ w ∈ r.wanted tenantBizName, w.rename r.renamings = w := by
  intro w hw
  obtain ⟨_, _, e, _, rfl⟩ := exists_filter_of_mem_wanted hw
  exact Expr.rename_rename hsettled e

/-! ### The default date -/

/-- The condition that the reference date adds to a statement, if it adds one. -/
def dateCondition? (c : Config) (r : Request) (s : Statement) : Option Expr :=
  if c.timeDimensions.containsAny s.conditionColumns then none
  else (r.date.bind Calendar.canonicalDate).map (Expr.columnIs c.timeDimensions.day)

/-- The condition of a statement behind the first pass. -/
def dated (c : Config) (r : Request) (s : Statement) : Option Expr :=
  match dateCondition? c r s with
  | some e => some (alsoHolds s.condition? e)
  | none => s.condition?

lemma addDate_eq (hs : s.selection?.isSome = true) :
    addDate r c.timeDimensions s =
      (dateCondition? c r s).map fun e => s.withCondition (some (alsoHolds s.condition? e)) := by
  obtain ⟨selection, hselection⟩ := Option.isSome_iff_exists.mp hs
  have hcondition : s.condition? = selection.condition := by
    simp [Statement.condition?, hselection]
  unfold addDate dateCondition?
  rw [hcondition, hselection]
  cases r.date.bind Calendar.canonicalDate with
  | none => simp
  | some date => cases c.timeDimensions.containsAny s.conditionColumns <;> rfl

/-! ### Single passes -/

namespace Pass

lemma apply_dateDefault (hs : s.selection?.isSome = true) :
    apply c r s .dateDefault = s.withCondition (dated c r s) := by
  simp only [apply, change, addDate_eq hs, dated]
  cases dateCondition? c r s <;> simp

lemma apply_dateDiff : apply c r s .dateDiff = s.executable := by
  simp only [apply, change]
  cases hdiff : s.hasDateDifference with
  | true => simp
  | false =>
    simp [Statement.executable_eq_self (Statement.hasDateDifference_eq_false_iff.mp hdiff)]

/-- A pass that fails leaves the statement alone, as if nothing was wanted. -/
lemma apply_filterInjection (hs : s.selection?.isSome = true) :
    apply c r s .filterInjection =
      s.withCondition (injected r.renamings s.condition? (r.wanted c.tenantBizName)) := by
  cases hwanted : conditions r.renamings (r.allFilters c.tenantBizName) with
  | error failure =>
    have hnone : lacking r.renamings s.condition? [] = [] := by simp [lacking_eq, missing]
    have hempty : r.wanted c.tenantBizName = [] := by simp [Request.wanted, hwanted]
    rw [hempty, injected_of_lacking_eq_nil hnone, Statement.withCondition_condition?]
    simp [apply, change, inject, hwanted, bind, Except.bind]
  | ok wanted =>
    have heq : r.wanted c.tenantBizName = wanted := by simp [Request.wanted, hwanted]
    rw [heq]
    simp only [apply, change, inject_eq hs hwanted]
    by_cases hlacking : lacking r.renamings s.condition? wanted = []
    · simp [hlacking, injected_of_lacking_eq_nil hlacking]
    · simp [hlacking]

lemma apply_aliasSubstitution : apply c r s .aliasSubstitution = s.rename r.renamings := by
  simp only [apply, change]
  by_cases hcount : s.renamedCount r.renamings = 0
  · simp [hcount, Statement.rename_eq_self (Statement.renamedCount_eq_zero_iff.mp hcount)]
  · simp [Nat.pos_of_ne_zero hcount]

end Pass

/-! ### The whole correction -/

/-- The condition of a statement behind the second pass. -/
def datedExecutable (c : Config) (r : Request) (s : Statement) : Option Expr :=
  (dated c r s).map Expr.executable

/-- The condition of a statement behind the fourth pass. -/
def corrected (c : Config) (r : Request) (s : Statement) : Option Expr :=
  (injected r.renamings (datedExecutable c r s) (r.wanted c.tenantBizName)).map
    (Expr.rename r.renamings)

lemma exists_columnIs_of_dateCondition? {e : Expr} (h : dateCondition? c r s = some e) :
    ∃ date, e = .columnIs c.timeDimensions.day date := by
  unfold dateCondition? at h
  split at h
  · simp at h
  · obtain ⟨date, _, rfl⟩ := Option.map_eq_some_iff.mp h
    exact ⟨date, rfl⟩

/-- The date joins a condition well. -/
lemma isWellJoined_dated (hs : s.IsWellJoined) : ∀ k ∈ dated c r s, k.isWellJoined = true := by
  unfold dated
  split
  next e he =>
    obtain ⟨date, rfl⟩ := exists_columnIs_of_dateCondition? he
    simpa using isWellJoined_alsoHolds hs rfl rfl
  next _ => exact hs

/-- Making differences of dates executable moves no joints. -/
lemma isWellJoined_datedExecutable (hs : s.IsWellJoined) :
    ∀ k ∈ datedExecutable c r s, k.isWellJoined = true := by
  intro k hk
  obtain ⟨e, he, rfl⟩ := Option.map_eq_some_iff.mp hk
  exact (Expr.keepsJoints_executableHere.isWellJoined_mapExprs e).trans (isWellJoined_dated hs e he)

/-- A correction makes a statement executable, renames its strings and gives it the corrected
condition. -/
lemma Pass.run_order (hs : s.selection?.isSome = true) :
    Pass.run c r Pass.order s =
      (s.executable.rename r.renamings).withCondition (corrected c r s) := by
  have hexecutable : s.executable.selection?.isSome = true := by
    simpa [Statement.executable] using hs
  have hsecond : (s.withCondition (dated c r s)).executable =
      s.executable.withCondition (datedExecutable c r s) :=
    Statement.mapExprs_withCondition (dated c r s) s
  have hcondition : (s.executable.withCondition (datedExecutable c r s)).condition? =
      datedExecutable c r s :=
    Statement.condition?_withCondition hexecutable (datedExecutable c r s)
  simp only [Pass.run, Pass.order, List.foldl_cons, List.foldl_nil]
  rw [Pass.apply_dateDefault hs, Pass.apply_dateDiff, hsecond,
    Pass.apply_filterInjection (by simpa using hexecutable), hcondition,
    Statement.withCondition_withCondition, Pass.apply_aliasSubstitution]
  exact Statement.mapExprs_withCondition _ s.executable

lemma isSome_selection?_run_order (hs : s.selection?.isSome = true) :
    (Pass.run c r Pass.order s).selection?.isSome = true := by
  rw [Pass.run_order hs]
  simpa [Statement.rename, Statement.executable] using hs

lemma condition?_run_order (hs : s.selection?.isSome = true) :
    (Pass.run c r Pass.order s).condition? = corrected c r s := by
  rw [Pass.run_order hs]
  refine Statement.condition?_withCondition ?_ _
  simpa [Statement.rename, Statement.executable] using hs

end SemanticQuery.Correction
