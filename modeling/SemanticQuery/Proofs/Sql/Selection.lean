import Mathlib.Tactic.Common
import SemanticQuery.Correction.Injection
import SemanticQuery.Proofs.Sql.Walk
import SemanticQuery.Sql.Predicate

/-!
# Laws of a statement's condition

`withCondition` replaces the condition of a plain selection and nothing else. The laws tell how it
meets mapping and walking, and which columns a condition mentions.
-/

namespace SemanticQuery.Sql

variable {f : Expr → Expr}

namespace Statement

/-! ### Replacing the condition -/

lemma eq_query_of_selection? {s : Statement} (h : s.selection?.isSome = true) :
    ∃ opening selection closing, s = .query ⟨opening, .select selection, closing⟩ := by
  match s with
  | .query ⟨opening, .select selection, closing⟩ => exact ⟨opening, selection, closing, rfl⟩
  | .query ⟨_, .phrase _, _⟩ | .command _ => simp [selection?] at h

@[simp] lemma isSome_selection?_withCondition (condition : Option Expr) (s : Statement) :
    (s.withCondition condition).selection?.isSome = s.selection?.isSome := by
  match s with
  | .query ⟨_, .select _, _⟩ | .query ⟨_, .phrase _, _⟩ | .command _ => rfl

@[simp] lemma withCondition_withCondition (first second : Option Expr) (s : Statement) :
    (s.withCondition first).withCondition second = s.withCondition second := by
  match s with
  | .query ⟨_, .select _, _⟩ | .query ⟨_, .phrase _, _⟩ | .command _ => rfl

@[simp] lemma withCondition_condition? (s : Statement) : s.withCondition s.condition? = s := by
  match s with
  | .query ⟨_, .select ⟨_, _, _, _, _⟩, _⟩ => rfl
  | .query ⟨_, .phrase _, _⟩ | .command _ => rfl

lemma condition?_withCondition {s : Statement} (h : s.selection?.isSome = true)
    (condition : Option Expr) : (s.withCondition condition).condition? = condition := by
  obtain ⟨opening, selection, closing, rfl⟩ := eq_query_of_selection? h
  rfl

/-- The selection of `a` from `t` on a condition, which may be absent. -/
def ofCondition (condition : Option Expr) : Statement :=
  .query ⟨[], .select ⟨[], [.expr (.name (.bare "a")) none], [.text " FROM t"], condition, []⟩, []⟩

/-! ### Mapping -/

@[simp] lemma isSome_selection?_mapExprs (s : Statement) :
    (s.mapExprs f).selection?.isSome = s.selection?.isSome := by
  match s with
  | .query ⟨_, .select _, _⟩ | .query ⟨_, .phrase _, _⟩ | .command _ => rfl

lemma mapExprs_withCondition (condition : Option Expr) (s : Statement) :
    (s.withCondition condition).mapExprs f =
      (s.mapExprs f).withCondition (condition.map (Expr.mapExprs f)) := by
  match s with
  | .query ⟨_, .select ⟨_, _, _, _, _⟩, _⟩ =>
    simp [withCondition, selection?, withSelection, mapExprs, Query.mapExprs, Body.mapExprs,
      Select.mapExprs, mapExprsOfOption_eq]
  | .query ⟨_, .phrase _, _⟩ | .command _ => rfl

/-! ### Walking -/

lemma mem_children_withCondition {s : Statement} {condition : Option Expr} {x : Expr}
    (h : x ∈ (s.withCondition condition).children) : x ∈ s.children ∨ x ∈ condition := by
  match s with
  | .query ⟨_, .select ⟨_, _, _, _, _⟩, _⟩ =>
    simp only [withCondition, selection?, withSelection, children, Query.children, Body.children,
      Select.children, List.mem_append, Option.mem_toList] at h ⊢
    tauto
  | .query ⟨_, .phrase _, _⟩ | .command _ => exact .inl h

lemma mem_children_withCondition_or {s : Statement} (condition : Option Expr) {x : Expr}
    (h : x ∈ s.children) : x ∈ (s.withCondition condition).children ∨ x ∈ s.condition? := by
  match s with
  | .query ⟨_, .select ⟨_, _, _, _, _⟩, _⟩ =>
    simp only [withCondition, selection?, withSelection, condition?, children, Query.children,
      Body.children, Select.children, List.mem_append, Option.mem_toList, Option.bind_some] at h ⊢
    tauto
  | .query ⟨_, .phrase _, _⟩ | .command _ => exact .inl h

lemma mem_children_of_mem_condition? {s : Statement} {e : Expr} (h : e ∈ s.condition?) :
    e ∈ s.children := by
  match s with
  | .query ⟨_, .select ⟨_, _, _, condition, _⟩, _⟩ =>
    obtain rfl : condition = some e := h
    simp [children, Query.children, Body.children, Select.children]
  | .query ⟨_, .phrase _, _⟩ | .command _ => cases h

lemma mem_subexprs_withCondition {s : Statement} {condition : Option Expr} {x : Expr}
    (h : x ∈ (s.withCondition condition).subexprs) :
    x ∈ s.subexprs ∨ ∃ e ∈ condition, x ∈ e.subexprs := by
  rw [subexprs_eq, List.mem_flatMap] at h
  obtain ⟨e, he, hx⟩ := h
  rcases mem_children_withCondition he with he | he
  · exact .inl (mem_subexprs_of_child he hx)
  · exact .inr ⟨e, he, hx⟩

/-- What stands outside the condition stays, and so does what also stands in the new condition. -/
lemma mem_subexprs_withCondition_iff {s : Statement} {condition : Option Expr} {x : Expr}
    (hs : s.selection?.isSome = true)
    (hkeep : ∀ e ∈ s.condition?, x ∈ e.subexprs → ∃ e ∈ condition, x ∈ e.subexprs) :
    x ∈ (s.withCondition condition).subexprs ↔ x ∈ s.subexprs ∨ ∃ e ∈ condition, x ∈ e.subexprs := by
  have hcondition : ∀ e ∈ condition, x ∈ e.subexprs → x ∈ (s.withCondition condition).subexprs := by
    intro e he hx
    refine mem_subexprs_of_child (mem_children_of_mem_condition? ?_) hx
    rwa [condition?_withCondition hs]
  refine ⟨mem_subexprs_withCondition, ?_⟩
  rintro (hx | ⟨e, he, hx⟩)
  · rw [subexprs_eq, List.mem_flatMap] at hx
    obtain ⟨y, hy, hx⟩ := hx
    rcases mem_children_withCondition_or condition hy with hy | hy
    · exact mem_subexprs_of_child hy hx
    · obtain ⟨e, he, hx⟩ := hkeep y hy hx
      exact hcondition e he hx
  · exact hcondition e he hx

end Statement

/-! ### Columns -/

lemma mem_sortedList_ofList {x : String} {xs : List String} :
    x ∈ SortedList.ofList xs ↔ x ∈ xs := by
  have hinsert : ∀ (a : String) (bs : List String),
      x ∈ SortedList.insert a bs ↔ x = a ∨ x ∈ bs := by
    intro a bs
    induction bs with
    | nil => simp [SortedList.insert]
    | cons b bs ih =>
      rw [SortedList.insert]
      split_ifs with hlt heq
      · simp
      · simp [heq]
      · simp only [List.mem_cons, ih]
        tauto
  unfold SortedList.ofList
  induction xs with
  | nil => simp
  | cons y ys ih => simp [hinsert, ih]

/-- The condition of a statement mentions a column where the column stands in it. -/
lemma Statement.mem_conditionColumns {s : Statement} {name : String} :
    name ∈ s.conditionColumns ↔
      ∃ e ∈ s.condition?, ∃ x ∈ e.subexprs, x.column? = some name := by
  unfold Statement.conditionColumns
  cases s.condition? with
  | none => simp
  | some e => simp [mem_sortedList_ofList, Expr.columns]

end SemanticQuery.Sql
