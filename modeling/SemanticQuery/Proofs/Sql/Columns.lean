import SemanticQuery.Proofs.Occurrence
import SemanticQuery.Proofs.Sql.Predicate
import SemanticQuery.Proofs.Sql.Selection

/-!
# Predicates and columns agree

A condition says the predicates of its conjuncts, and their columns are among the columns that it
mentions. What stands in a call, in a sub-query or behind `NOT` says no predicate: with all of it
taken out, the predicates are the same.
-/

namespace SemanticQuery.Sql

namespace Expr

/-! ### Conjuncts and columns -/

/-- The predicates of a condition are those of its conjuncts, one conjunct after the other. -/
lemma predicates_eq_flatMap_conjuncts (e : Expr) :
    e.predicates = e.conjuncts.flatMap predicates := by
  match e with
  | .binary .and left right =>
    calc
      _ = left.predicates ++ right.predicates := rfl
      _ = left.conjuncts.flatMap predicates ++ right.conjuncts.flatMap predicates := by
        rw [← predicates_eq_flatMap_conjuncts left, ← predicates_eq_flatMap_conjuncts right]
      _ = (left.conjuncts ++ right.conjuncts).flatMap predicates := List.flatMap_append.symm
  | .binary .or _ _ | .binary (.compare _) _ _ | .binary (.other _) _ _ | .name _ | .path _
  | .literal _ | .nested _ | .unary _ _ | .inList _ _ _ | .like _ _ _ _ _ | .between _ _ _ _
  | .cast _ _ _ | .trim _ _ _ | .call _ | .phrase _ => exact (List.append_nil _).symm

lemma mem_subexprs_of_mem_atoms {e a : Expr} (h : a ∈ e.atoms) : a ∈ e.subexprs := by
  fun_induction atoms e with
  | case1 left right ihl ihr =>
    rw [mem_subexprs_binary]
    rcases List.mem_append.mp h with h | h
    · exact .inr (.inl (ihl h))
    · exact .inr (.inr (ihr h))
  | case2 left right ihl ihr =>
    rw [mem_subexprs_binary]
    rcases List.mem_append.mp h with h | h
    · exact .inr (.inl (ihl h))
    · exact .inr (.inr (ihr h))
  | case3 inner ih => exact mem_subexprs_nested.mpr (.inr (ih h))
  | case4 e =>
    obtain rfl := List.mem_singleton.mp h
    exact mem_subexprs_self a

/-- An atom holds a column that stands in it against literals. -/
lemma Says.exists_column {a : Expr} {p : Predicate} (h : a.Says p) :
    ∃ x ∈ a.children, x.column? = some p.field := by
  cases h with
  | compare hfield => exact ⟨_, by simp [children], hfield⟩
  | inList hfield => exact ⟨_, by simp [children], hfield⟩
  | like hfield => exact ⟨_, by simp [children], hfield⟩
  | between hfield => exact ⟨_, by simp [children], hfield⟩

lemma exists_column_of_mem_predicates {e : Expr} {p : Predicate} (h : p ∈ e.predicates) :
    ∃ x ∈ e.subexprs, x.column? = some p.field := by
  rw [predicates_eq_filterMap, List.mem_filterMap] at h
  obtain ⟨a, ha, hsaid⟩ := h
  obtain ⟨x, hx, hcolumn⟩ := (said?_eq_some_iff.mp hsaid).exists_column
  exact ⟨x, mem_subexprs_trans (mem_subexprs_of_child hx x.mem_subexprs_self)
    (mem_subexprs_of_mem_atoms ha), hcolumn⟩

/-! ### What says no predicate -/

/-- An expression that is a call, a conversion or any other phrase, or that begins with `NOT`, without
anything in it. `NOT` before a literal belongs to the text of the literal. -/
def blanked : Expr → Expr
  | .unary .not operand => if operand.literalText?.isSome then .unary .not operand else .phrase []
  | .cast _ _ _ => .phrase []
  | .trim _ _ _ => .phrase []
  | .call _ => .phrase []
  | .phrase _ => .phrase []
  | e => e

lemma mapExprs_blanked_not (operand : Expr) :
    (Expr.unary .not operand).mapExprs blanked =
      if (operand.mapExprs blanked).literalText?.isSome then
        .unary .not (operand.mapExprs blanked)
      else .phrase [] := rfl

lemma column?_mapExprs_blanked (e : Expr) : (e.mapExprs blanked).column? = e.column? := by
  match e with
  | .unary .not operand =>
    rw [mapExprs_blanked_not]
    split <;> rfl
  | .unary .plus _ | .unary .minus _ | .name _ | .path _ | .literal _ | .nested _ | .binary _ _ _
  | .inList _ _ _ | .like _ _ _ _ _ | .between _ _ _ _ | .cast _ _ _ | .trim _ _ _ | .call _
  | .phrase _ => rfl

lemma literalText?_mapExprs_blanked (e : Expr) :
    (e.mapExprs blanked).literalText? = e.literalText? := by
  match e with
  | .nested inner => exact literalText?_mapExprs_blanked inner
  | .unary .not operand =>
    rw [mapExprs_blanked_not, literalText?_mapExprs_blanked operand, literalText?]
    cases h : operand.literalText? with
    | none => rfl
    | some text =>
      rw [Option.isSome_some, if_pos rfl, literalText?, literalText?_mapExprs_blanked operand, h]
  | .unary .plus operand | .unary .minus operand =>
    exact congrArg (Option.map _) (literalText?_mapExprs_blanked operand)
  | .name _ | .path _ | .literal _ | .binary _ _ _ | .inList _ _ _ | .like _ _ _ _ _
  | .between _ _ _ _ | .cast _ _ _ | .trim _ _ _ | .call _ | .phrase _ => rfl

lemma literalTexts?_mapExprs_blanked (es : List Expr) :
    literalTexts? (mapExprsOfList blanked es) = literalTexts? es := by
  induction es with
  | nil => rfl
  | cons e es ih => rw [mapExprsOfList, literalTexts?, literalText?_mapExprs_blanked, ih, literalTexts?]

/-- Calls, sub-queries and what stands behind `NOT` contribute nothing to the predicates. -/
lemma predicates_mapExprs_blanked (e : Expr) : (e.mapExprs blanked).predicates = e.predicates := by
  match e with
  | .binary .and left right | .binary .or left right =>
    exact congrArg₂ _ (predicates_mapExprs_blanked left) (predicates_mapExprs_blanked right)
  | .nested inner => exact predicates_mapExprs_blanked inner
  | .binary (.compare _) _ _ =>
    simp [mapExprs, blanked, predicates, column?_mapExprs_blanked, literalText?_mapExprs_blanked]
  | .inList _ _ _ =>
    simp [mapExprs, blanked, predicates, column?_mapExprs_blanked, literalTexts?_mapExprs_blanked]
  | .like _ _ _ _ _ | .between _ _ _ _ =>
    simp [mapExprs, blanked, predicates, column?_mapExprs_blanked, literalText?_mapExprs_blanked]
  | .unary .not operand =>
    rw [mapExprs_blanked_not]
    split <;> rfl
  | .unary .plus _ | .unary .minus _ | .name _ | .path _ | .literal _ | .binary (.other _) _ _
  | .cast _ _ _ | .trim _ _ _ | .call _ | .phrase _ => rfl

end Expr

/-! ### Statements -/

/-- Every predicate of a statement is about a column that its condition mentions. -/
lemma Statement.field_mem_conditionColumns {s : Statement} {p : Predicate} (h : p ∈ s.predicates) :
    p.field ∈ s.conditionColumns := by
  rw [Statement.mem_conditionColumns]
  rw [Statement.predicates] at h
  split at h
  next e he => exact ⟨e, he, Expr.exists_column_of_mem_predicates h⟩
  next => exact absurd h List.not_mem_nil

/-- What a plain selection says of columns. The predicates of its condition are about columns that
the condition mentions; they are those of the conjuncts, in their order, each said by one of the
parts that `AND`, `OR` and parentheses put together; and calls, sub-queries and what stands behind
`NOT` can be taken out without a change. The columns of the projection come once each, in the order
in which they are first mentioned. -/
theorem predicates_and_columns {s : Statement} {selection : Select}
    (h : s.selection? = some selection) :
    (∀ p ∈ s.predicates, p.field ∈ s.conditionColumns) ∧
    s.predicates = (selection.condition.elim [] Expr.conjuncts).flatMap Expr.predicates ∧
    s.predicates = selection.atoms.filterMap Expr.said? ∧
    s.predicates = selection.condition.elim [] (fun e => (e.mapExprs Expr.blanked).predicates) ∧
    IsFirstOccurrences ((selection.projection.filterMap SelectItem.expr?).flatMap Expr.columns)
      s.projectedColumns := by
  have hcondition : s.condition? = selection.condition := by
    rw [Statement.condition?, h, Option.bind_some]
  refine ⟨fun p => Statement.field_mem_conditionColumns, ?_, Statement.predicates_eq_filterMap h,
    ?_, ?_⟩
  · rw [Statement.predicates, hcondition]
    cases selection.condition with
    | none => rfl
    | some e => exact e.predicates_eq_flatMap_conjuncts
  · rw [Statement.predicates, hcondition]
    cases selection.condition with
    | none => rfl
    | some e => exact e.predicates_mapExprs_blanked.symm
  · rw [Statement.projectedColumns, h]
    exact isFirstOccurrences_eraseDups _

/-- Parentheses are looked through and `NOT` is not, but its column is mentioned. -/
theorem predicates_and_columns_not :
    let condition : Expr := .binary .and (.columnIs "b" "x")
      (.nested (.binary .or (.columnIs "c" "y") (.unary .not (.columnIs "d" "z"))))
    let s : Statement := .ofCondition (some condition)
    s.predicates = [⟨"b", "=", "x"⟩, ⟨"c", "=", "y"⟩] ∧
      s.conditionColumns = ["b", "c", "d"] ∧
      s.predicates = (condition.mapExprs Expr.blanked).predicates ∧
      (∀ p ∈ s.predicates, p.field ∈ s.conditionColumns) ∧
      IsFirstOccurrences ["a"] s.projectedColumns := by
  intro condition s
  obtain ⟨hfields, -, -, hblanked, hprojected⟩ := predicates_and_columns (s := s) rfl
  exact ⟨by decide, by decide, hblanked, hfields, hprojected⟩

end SemanticQuery.Sql
