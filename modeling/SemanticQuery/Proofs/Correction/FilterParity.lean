import SemanticQuery.Proofs.Correction.Pass
import SemanticQuery.Proofs.Filter.Condition

/-!
# Filters and written conditions

A text that a filter brings along is renamed when its condition is injected and once more with all
the strings of the statement, while a text in the query is renamed once. So the filter and the same
condition in the query end alike exactly where the stored value is no name that is renamed itself.
-/

namespace SemanticQuery

open Sql

/-! ### Stored values -/

namespace Renaming

/-- The value that a text stands for: the text itself, unless it is renamed. -/
def stored (r : Renaming) (text : String) : String := (r.lookup text).getD text

variable {r : Renaming} {text : String}

/-- A name that does not rename itself stands for itself only where it is not renamed. -/
lemma stored_eq_self_iff (h : r.lookup text ≠ some text) :
    r.stored text = text ↔ r.lookup text = none := by
  unfold stored
  cases hlookup : r.lookup text with
  | none => simp
  | some value =>
    rw [hlookup, ne_eq, Option.some.injEq] at h
    simpa using h

end Renaming

lemma ValueNames.ne_of_mem_renamings {v : ValueNames} {p : String × String}
    (h : p ∈ v.renamings) : p.1 ≠ p.2 := by
  unfold renamings at h
  split at h
  · obtain ⟨name, hname, rfl⟩ := List.mem_map.mp h
    simpa using (List.mem_filter.mp hname).2
  · simp at h

lemma Schema.lookup_renamings_ne_self (s : Schema) (models : List Int) (text : String) :
    (s.renamings models).lookup text ≠ some text := by
  intro h
  obtain ⟨d, _, hd⟩ := List.mem_flatMap.mp (Renaming.mem_of_lookup h)
  obtain ⟨v, _, hv⟩ := List.mem_flatMap.mp hd
  exact v.ne_of_mem_renamings hv rfl

/-! ### One condition -/

namespace Sql.Expr

lemma columnIs_inj {column text text' : String}
    (h : columnIs column text = columnIs column text') : text = text' := by
  simpa [columnIs] using h

lemma rename_columnIs (r : Renaming) (column text : String) :
    (columnIs column text).rename r = columnIs column (r.stored text) := by
  rw [columnIs, rename, (keepsJoints_renameHere r).mapExprs_binary]
  rfl

lemma executable_columnIs (column text : String) :
    (columnIs column text).executable = columnIs column text := by
  rw [columnIs, executable, keepsJoints_executableHere.mapExprs_binary]
  rfl

end Sql.Expr

namespace Correction

variable {c : Config} {r : Request} {s : Statement}

/-- The request with other filters. -/
def Request.withFilters (r : Request) (filters : List Filter) : Request := { r with filters }

/-- What a request asks for besides the filters of its own: nothing. -/
structure Request.AsksNothingElse (r : Request) (c : Config) : Prop where
  tenant : r.tenantFilter? c.tenantBizName = none
  date : r.date.bind Calendar.canonicalDate = none

lemma dated_of_no_date (h : r.date.bind Calendar.canonicalDate = none) :
    dated c r s = s.condition? := by
  unfold dated dateCondition?
  rw [h]
  split
  next e he => split at he <;> simp at he
  next _ => rfl

lemma wanted_withFilters {filters : List Filter} {es : List Expr}
    (h : r.tenantFilter? c.tenantBizName = none)
    (hfilters : filters.mapM Filter.condition = .ok es) :
    (r.withFilters filters).wanted c.tenantBizName = es.map (Expr.rename r.renamings) := by
  have hnone : (r.withFilters filters).tenantFilter? c.tenantBizName = none := h
  have hall : (r.withFilters filters).allFilters c.tenantBizName = filters := by
    rw [Request.allFilters, hnone]
    exact List.append_nil filters
  have hconditions : conditions (r.withFilters filters).renamings filters =
      .ok (es.map (Expr.rename r.renamings)) := by
    simp [conditions, hfilters, bind, Except.bind, pure, Except.pure, Request.withFilters]
  unfold Request.wanted
  rw [hall, hconditions]

/-! ### The two routes -/

section

variable (hs : s.selection?.isSome = true) (hnothing : r.AsksNothingElse c)
include hs hnothing

/-- The text of a filter is renamed twice. -/
lemma run_order_withFilters {f : Filter} {text : String}
    (hf : f.condition = .ok (.columnIs f.name text)) (hcondition : s.condition? = none) :
    Pass.run c (r.withFilters [f]) Pass.order s =
      (s.executable.rename r.renamings).withCondition
        (some (.columnIs f.name (r.renamings.stored (r.renamings.stored text)))) := by
  have hfilters : [f].mapM Filter.condition = .ok [.columnIs f.name text] := by
    simp [hf, bind, Except.bind, pure, Except.pure]
  have hdated : datedExecutable c (r.withFilters [f]) s = none := by
    have hdate : (r.withFilters [f]).date.bind Calendar.canonicalDate = none := hnothing.date
    rw [datedExecutable, dated_of_no_date hdate, hcondition]
    rfl
  have hcorrected : corrected c (r.withFilters [f]) s =
      some (.columnIs f.name (r.renamings.stored (r.renamings.stored text))) := by
    rw [corrected, hdated, wanted_withFilters hnothing.tenant hfilters]
    simp [injected, lacking, missing, joined, Expr.rename_columnIs, Request.withFilters]
  rw [Pass.run_order hs, hcorrected]
  rfl

/-- A text in the query is renamed once. -/
lemma run_order_withCondition (column text : String) :
    Pass.run c (r.withFilters []) Pass.order (s.withCondition (some (.columnIs column text))) =
      (s.executable.rename r.renamings).withCondition
        (some (.columnIs column (r.renamings.stored text))) := by
  let written := s.withCondition (some (.columnIs column text))
  have hwritten : written.selection?.isSome = true := by simpa [written] using hs
  have hdated : datedExecutable c (r.withFilters []) written = some (.columnIs column text) := by
    have hdate : (r.withFilters []).date.bind Calendar.canonicalDate = none := hnothing.date
    rw [datedExecutable, dated_of_no_date hdate, Statement.condition?_withCondition hs,
      Option.map_some, Expr.executable_columnIs]
  have hcorrected : corrected c (r.withFilters []) written =
      some (.columnIs column (r.renamings.stored text)) := by
    rw [corrected, hdated, wanted_withFilters hnothing.tenant rfl]
    simp [injected, lacking, missing, Expr.rename_columnIs, Request.withFilters]
  -- Whatever the first condition was mapped to, the corrected one replaces it.
  have hreplaced : ∀ condition, (written.executable.rename r.renamings).withCondition condition =
      (s.executable.rename r.renamings).withCondition condition := by
    intro condition
    rw [Statement.executable, Statement.mapExprs_withCondition, Statement.rename,
      Statement.mapExprs_withCondition, Statement.withCondition_withCondition]
    rfl
  rw [Pass.run_order hwritten, hcorrected]
  exact hreplaced _

end

lemma eq_columnIs_of_condition {f : Filter} {text : String} {e : Expr} (he : f.condition = .ok e)
    (hoperator : f.operator = .equals) (hvalue : f.value = .string text)
    (htext : '\\' ∉ text.toList) : e = .columnIs f.name text := by
  obtain ⟨right, rfl, hright⟩ :=
    Filter.exists_right_of_condition he (by rw [hoperator]; rfl) hvalue
  rw [hright.mpr (keepsBackslashes_of_not_mem htext)]
  rfl

/-- Where nothing else is asked for and the statement has no condition, a filter on a text without
backslashes ends like the condition that it reads as exactly where the value that the text stands
for is not renamed itself. -/
theorem run_filter_eq_run_condition_iff {f : Filter} {text : String} {e : Expr}
    (hs : s.selection?.isSome = true) (hnothing : r.AsksNothingElse c)
    (hcondition : s.condition? = none) (hoperator : f.operator = .equals)
    (hvalue : f.value = .string text) (htext : '\\' ∉ text.toList) (he : f.condition = .ok e) :
    e = .columnIs f.name text ∧
      (Pass.run c (r.withFilters [f]) Pass.order s =
          Pass.run c (r.withFilters []) Pass.order (s.withCondition (some e)) ↔
        r.renamings.lookup (r.renamings.stored text) = none) := by
  obtain rfl := eq_columnIs_of_condition he hoperator hvalue htext
  refine ⟨rfl, ?_⟩
  have hmapped : (s.executable.rename r.renamings).selection?.isSome = true := by
    simpa [Statement.rename, Statement.executable] using hs
  rw [run_order_withFilters hs hnothing he hcondition, run_order_withCondition hs hnothing,
    ← Renaming.stored_eq_self_iff (r.schema.lookup_renamings_ne_self r.models _)]
  constructor
  · intro h
    have hconditions := congrArg Statement.condition? h
    rw [Statement.condition?_withCondition hmapped, Statement.condition?_withCondition hmapped,
      Option.some.injEq] at hconditions
    exact Expr.columnIs_inj hconditions
  · intro h
    rw [h]

/-- A filter on the value `x` of the column `p`. -/
def filterOnX : Filter := ⟨"", "p", .equals, .string "x", none⟩

lemma asksNothingElse_requestFor (storedX storedY : String) :
    (requestFor storedX storedY).AsksNothingElse .standard :=
  ⟨rfl, rfl⟩

set_option maxRecDepth 100000 in
/-- Where `x` is stored as `u`, which is no name, the filter on `x` ends like the condition. -/
theorem run_filter_eq_run_condition_stored :
    Pass.run .standard ((requestFor "u" "v").withFilters [filterOnX]) Pass.order
        (.ofCondition none) =
      Pass.run .standard ((requestFor "u" "v").withFilters []) Pass.order
        ((Statement.ofCondition none).withCondition (some (.columnIs "p" "x"))) := by
  have he : filterOnX.condition = .ok (.columnIs "p" "x") := by decide +kernel
  exact (run_filter_eq_run_condition_iff rfl (asksNothingElse_requestFor "u" "v") rfl rfl rfl
    (by decide) he).2.mpr (by decide)

set_option maxRecDepth 100000 in
/-- Where `x` is stored as `y` and `y` as `z`, the filter on `x` ends as one on `z`, and the
condition as one on `y`. -/
theorem run_filter_ne_run_condition_chained :
    ¬ ∀ (c : Config) (r : Request) (s : Statement) (f : Filter) (text : String) (e : Expr),
      s.selection?.isSome = true → r.AsksNothingElse c → s.condition? = none →
      f.operator = .equals → f.value = .string text → '\\' ∉ text.toList →
      f.condition = .ok e →
        Pass.run c (r.withFilters [f]) Pass.order s =
          Pass.run c (r.withFilters []) Pass.order (s.withCondition (some e)) := by
  intro h
  have he : filterOnX.condition = .ok (.columnIs "p" "x") := by decide +kernel
  have hequal := h .standard (requestFor "y" "z") (.ofCondition none) filterOnX "x" _ rfl
    (asksNothingElse_requestFor "y" "z") rfl rfl rfl (by decide) he
  have hconditions := congrArg Statement.condition? hequal
  revert hconditions
  decide +kernel

end Correction

end SemanticQuery
