import SemanticQuery.Correction.Injection
import SemanticQuery.Proofs.Correction.Renaming
import SemanticQuery.Proofs.Sequence
import SemanticQuery.Proofs.Sql.Selection

/-!
# Laws of injected conditions

The condition of an accepted filter is one comparison, so it joins other conditions as one more
conjunct. What injection does to a condition is told once, by `injected`: the conditions that are
lacking stand behind the old one, whose open `OR` is put in parentheses.
-/

namespace SemanticQuery

open Sql

/-! ### Conditions of filters -/

namespace Sql.Expr

variable {e : Expr} {name : String}

lemma deepConjuncts_of_comparedName? (h : e.comparedName? = some name) :
    e.deepConjuncts = [e] := by
  match e with
  | .binary (.compare _) _ _ => rfl
  | .inList _ _ _ | .like _ _ _ _ _ => rfl
  | .binary .and _ _ | .binary .or _ _ | .binary (.other _) _ _ | .name _ | .path _ | .literal _
  | .nested _ | .unary _ _ | .between _ _ _ _ | .cast _ _ _ | .trim _ _ _ | .call _ | .phrase _ =>
    simp [comparedName?] at h

lemma hasOpenOr_of_comparedName? (h : e.comparedName? = some name) : e.hasOpenOr = false := by
  match e with
  | .binary (.compare _) _ _ => rfl
  | .inList _ _ _ | .like _ _ _ _ _ => rfl
  | .binary .and _ _ | .binary .or _ _ | .binary (.other _) _ _ | .name _ | .path _ | .literal _
  | .nested _ | .unary _ _ | .between _ _ _ _ | .cast _ _ _ | .trim _ _ _ | .call _ | .phrase _ =>
    simp [comparedName?] at h

lemma isWellJoined_of_comparedName? (h : e.comparedName? = some name) :
    e.isWellJoined = true := by
  match e with
  | .binary (.compare _) _ _ => rfl
  | .inList _ _ _ | .like _ _ _ _ _ => rfl
  | .binary .and _ _ | .binary .or _ _ | .binary (.other _) _ _ | .name _ | .path _ | .literal _
  | .nested _ | .unary _ _ | .between _ _ _ _ | .cast _ _ _ | .trim _ _ _ | .call _ | .phrase _ =>
    simp [comparedName?] at h

lemma comparedName?_rename (r : Renaming) (h : e.comparedName? = some name) :
    (e.rename r).comparedName? = some name := by
  match e with
  | .binary (.compare _) (.name ⟨_, none⟩) _ => exact h
  | .inList _ (.name ⟨_, none⟩) _ | .like _ _ (.name ⟨_, none⟩) _ _ => exact h

end Sql.Expr

namespace Filter

lemma condition_eq_ok {f : Filter} {e : Expr} (h : f.condition = .ok e) :
    Expr.readCondition f.sql = .ok e ∧ e.comparedName? = some f.name := by
  unfold condition at h
  cases hread : Expr.readCondition f.sql with
  | error failure => simp [hread, bind, Except.bind] at h
  | ok found =>
    simp only [hread, bind, Except.bind] at h
    split at h
    next hname =>
      obtain rfl : found = e := by simpa [pure, Except.pure] using h
      exact ⟨rfl, by simpa using hname⟩
    next _ => simp [throw, throwThe, MonadExceptOf.throw] at h

lemma exists_mapM_condition {fs : List Filter} (h : ∀ f ∈ fs, f.condition.isOk = true) :
    ∃ es, fs.mapM condition = .ok es := by
  induction fs with
  | nil => exact ⟨[], rfl⟩
  | cons f fs ih =>
    obtain ⟨rest, hfs⟩ := ih fun x hx => h x (List.mem_cons_of_mem f hx)
    cases hf : f.condition with
    | error failure => simp [hf, Except.isOk, Except.toBool] at h
    | ok e => exact ⟨e :: rest, by simp [hf, hfs, bind, Except.bind, pure, Except.pure]⟩

end Filter

namespace Correction

variable {r : Renaming} {wanted : List Expr}

/-- The wanted conditions are the renamed ones of the filters. -/
lemma mem_iff_of_conditions {fs : List Filter} (h : conditions r fs = .ok wanted) (w : Expr) :
    w ∈ wanted ↔ ∃ f ∈ fs, ∃ e, f.condition = .ok e ∧ w = e.rename r := by
  unfold conditions at h
  cases hfs : fs.mapM Filter.condition with
  | error failure => simp [hfs, bind, Except.bind] at h
  | ok es =>
    obtain rfl : es.map (Expr.rename r) = wanted := by
      simpa [hfs, bind, Except.bind, pure, Except.pure] using h
    simp only [List.mem_map, mem_iff_of_mapM_eq_ok hfs]
    constructor
    · rintro ⟨e, ⟨f, hmem, hf⟩, rfl⟩
      exact ⟨f, hmem, e, hf, rfl⟩
    · rintro ⟨f, hmem, e, hf, rfl⟩
      exact ⟨e, ⟨f, hmem, hf⟩, rfl⟩

lemma exists_comparedName?_of_mem {fs : List Filter} (h : conditions r fs = .ok wanted) :
    ∀ w ∈ wanted, ∃ name, w.comparedName? = some name := by
  intro w hw
  obtain ⟨f, _, e, he, rfl⟩ := (mem_iff_of_conditions h w).mp hw
  exact ⟨f.name, Expr.comparedName?_rename r (Filter.condition_eq_ok he).2⟩

lemma exists_conditions {fs : List Filter} (r : Renaming)
    (h : ∀ f ∈ fs, f.condition.isOk = true) : ∃ wanted, conditions r fs = .ok wanted := by
  obtain ⟨es, hes⟩ := Filter.exists_mapM_condition h
  exact ⟨es.map (Expr.rename r), by
    simp [conditions, hes, bind, Except.bind, pure, Except.pure]⟩

/-! ### Injection into a condition -/

lemma lacking_eq (r : Renaming) (condition : Option Expr) (wanted : List Expr) :
    lacking r condition wanted =
      missing ((conjunctsOf condition).map fun k => (k.rename r).print) wanted := by
  cases condition <;> rfl

/-- The condition with the wanted conditions that it lacks. -/
def injected (r : Renaming) (condition : Option Expr) (wanted : List Expr) : Option Expr :=
  if lacking r condition wanted = [] then condition
  else joined (condition.map Expr.closed) (lacking r condition wanted)

lemma injected_of_lacking_eq_nil {condition : Option Expr}
    (h : lacking r condition wanted = []) : injected r condition wanted = condition :=
  if_pos h

lemma mem_of_mem_lacking {condition : Option Expr} {e : Expr}
    (h : e ∈ lacking r condition wanted) : e ∈ wanted := by
  rw [lacking_eq] at h
  exact (mem_of_mem_missing h).1

variable (hwanted : ∀ w ∈ wanted, ∃ name, w.comparedName? = some name)
include hwanted

/-- What is injected becomes a conjunct. -/
lemma conjunctsOf_injected {condition : Option Expr} (h : lacking r condition wanted ≠ []) :
    conjunctsOf (injected r condition wanted) =
      conjunctsOf (condition.map Expr.closed) ++ lacking r condition wanted := by
  have hadded : ∀ e ∈ lacking r condition wanted, e.deepConjuncts = [e] := by
    intro e he
    obtain ⟨name, hname⟩ := hwanted e (mem_of_mem_lacking he)
    exact Expr.deepConjuncts_of_comparedName? hname
  rw [injected, if_neg h, conjunctsOf_joined, List.flatMap_def, List.map_congr_left hadded,
    ← List.flatMap_def, List.flatMap_singleton']

/-- An injection keeps conditions well joined. -/
lemma isWellJoined_injected {condition : Option Expr}
    (hcondition : ∀ k ∈ condition, k.isWellJoined = true) :
    ∀ k ∈ injected r condition wanted, k.isWellJoined = true := by
  unfold injected
  split
  next _ => exact hcondition
  next _ =>
    have hclosed : ∀ k ∈ condition.map Expr.closed,
        k.hasOpenOr = false ∧ k.isWellJoined = true := by
      intro k hk
      obtain ⟨e, he, rfl⟩ := Option.map_eq_some_iff.mp hk
      exact ⟨by simp, by simpa using hcondition e he⟩
    have hadded : ∀ e ∈ lacking r condition wanted,
        e.hasOpenOr = false ∧ e.isWellJoined = true := by
      intro e he
      obtain ⟨name, hname⟩ := hwanted e (mem_of_mem_lacking he)
      exact ⟨Expr.hasOpenOr_of_comparedName? hname, Expr.isWellJoined_of_comparedName? hname⟩
    exact fun k hk => (isWellJoined_joined hclosed hadded k hk).2

/-- A wanted condition keeps a conjunct that prints like it, or one is added. The only conjunct that
an injection changes is an `OR`, which is put in parentheses. -/
lemma exists_conjunct_injected {condition : Option Expr} {w : Expr}
    (hwell : ∀ k ∈ condition, k.isWellJoined = true) (hw : w ∈ wanted)
    (hor : ∀ left right, condition = some (.binary .or left right) →
      ((Expr.binary .or left right).rename r).print ≠ w.print) :
    ∃ k ∈ conjunctsOf (injected r condition wanted),
      (k.rename r).print = w.print ∨ k ∈ wanted ∧ k.print = w.print := by
  by_cases hlacking : lacking r condition wanted = []
  · rw [injected_of_lacking_eq_nil hlacking]
    rw [lacking_eq, missing_eq_nil_iff] at hlacking
    obtain ⟨k, hk, hprint⟩ := List.mem_map.mp (hlacking w hw)
    exact ⟨k, hk, .inl hprint⟩
  rw [conjunctsOf_injected hwanted hlacking]
  rcases print_mem_of_missing ((conjunctsOf condition).map fun k => (k.rename r).print) hw with
    hpresent | ⟨a, ha, hprint⟩
  · obtain ⟨k, hk, hprint⟩ := List.mem_map.mp hpresent
    obtain ⟨e, rfl⟩ : ∃ e, condition = some e := by
      cases condition with
      | none => simp at hk
      | some e => exact ⟨e, rfl⟩
    by_cases hopen : e.hasOpenOr = true
    · rw [conjunctsOf_some, Expr.deepConjuncts_of_hasOpenOr (hwell e rfl) hopen,
        List.mem_singleton] at hk
      obtain ⟨left, right, rfl⟩ := Expr.eq_or_of_hasOpenOr (hwell e rfl) hopen
      exact absurd (hk ▸ hprint) (hor left right rfl)
    · refine ⟨k, List.mem_append_left _ ?_, .inl hprint⟩
      rwa [Option.map_some, Expr.closed_of_not_hasOpenOr (by simpa using hopen)]
  · rw [← lacking_eq] at ha
    exact ⟨a, List.mem_append_right _ ha, .inr ⟨mem_of_mem_lacking ha, hprint⟩⟩

end Correction

/-! ### Injection into a statement -/

namespace Correction

/-- The renamings that the models of a request declare. -/
abbrev Request.renamings (r : Request) : Renaming := r.schema.renamings r.models

/-- Injection changes the condition alone, and tells whether a condition was lacking. -/
lemma inject_eq {r : Request} {tenantBizName : String} {s : Statement} {wanted : List Expr}
    (hs : s.selection?.isSome = true)
    (hwanted : conditions r.renamings (r.allFilters tenantBizName) = .ok wanted) :
    inject r tenantBizName s =
      .ok (if lacking r.renamings s.condition? wanted = [] then none
        else some (s.withCondition (injected r.renamings s.condition? wanted))) := by
  obtain ⟨selection, hselection⟩ := Option.isSome_iff_exists.mp hs
  have hcondition : s.condition? = selection.condition := by
    simp [Statement.condition?, hselection]
  simp only [inject, hwanted, hselection, hcondition, injected, bind, Except.bind, pure,
    Except.pure, List.isEmpty_iff]
  split <;> rfl

lemma inject_of_not_selection {r : Request} {tenantBizName : String} {s : Statement}
    {wanted : List Expr} (hs : s.selection? = none)
    (hwanted : conditions r.renamings (r.allFilters tenantBizName) = .ok wanted) :
    inject r tenantBizName s = .ok none := by
  simp [inject, hwanted, hs, bind, Except.bind, pure, Except.pure]

/-- A request for the value `x` of a dimension `p` whose values `x` and `y` are stored under other
names. A second dimension holds tenants. -/
def requestFor (storedX storedY : String) : Request where
  schema := ⟨[
    ⟨2, 1, "p", "platform", [], .dimension,
      [⟨some "x", some storedX, []⟩, ⟨some "y", some storedY, []⟩]⟩,
    ⟨9, 1, "tenant", "tenant_id", [], .dimension, []⟩]⟩
  models := []
  tenant := none
  filters := [⟨"", "p", .equals, .string "x", none⟩]
  date := none

end Correction

end SemanticQuery
