import Mathlib.Data.List.Forall2
import Mathlib.Tactic.Common
import SemanticQuery.Sql.Predicate

/-!
# What a condition says

Taken apart at `AND`, `OR` and parentheses, a condition consists of atoms. Each atom that holds a
column against literals says one predicate, the others say nothing.
-/

namespace SemanticQuery.Sql

/-- The texts of literals, one for each of them. -/
lemma literalTexts?_eq_some_iff {es : List Expr} {texts : List String} :
    literalTexts? es = some texts ↔
      List.Forall₂ (fun e text => e.literalText? = some text) es texts := by
  induction es generalizing texts with
  | nil => simp [literalTexts?, eq_comm]
  | cons e es ih =>
    simp only [literalTexts?, Option.bind_eq_bind, Option.bind_eq_some_iff, Option.pure_def,
      Option.some.injEq, ih, List.forall₂_cons_left_iff]
    constructor
    · rintro ⟨text, he, texts, hes, rfl⟩
      exact ⟨text, texts, he, hes, rfl⟩
    · rintro ⟨text, texts, he, hes, rfl⟩
      exact ⟨text, he, texts, hes, rfl⟩

namespace Expr

/-- The parts of a condition that `AND`, `OR` and parentheses put together, in their order. -/
def atoms : Expr → List Expr
  | .binary .and left right => left.atoms ++ right.atoms
  | .binary .or left right => left.atoms ++ right.atoms
  | .nested inner => inner.atoms
  | e => [e]

/-- An atom holds a column against literals. -/
inductive Says : Expr → Predicate → Prop
  | compare {c : Comparison} {left right : Expr} {field value : String} :
      left.column? = some field → right.literalText? = some value →
      Says (.binary (.compare c) left right) ⟨field, c.symbol, value⟩
  | inList {negated : Bool} {subject : Expr} {items : List Expr} {field : String}
      {values : List String} : subject.column? = some field →
      List.Forall₂ (fun item value => item.literalText? = some value) items values →
      Says (.inList negated subject items)
        ⟨field, if negated then "NOT IN" else "IN", "(" ++ String.intercalate ", " values ++ ")"⟩
  | like {negated any : Bool} {subject pattern : Expr} {escape : Option String}
      {field value : String} : subject.column? = some field →
      pattern.literalText? = some value →
      Says (.like negated any subject pattern escape)
        ⟨field, if negated then "NOT LIKE" else "LIKE", value⟩
  | between {negated : Bool} {subject low high : Expr} {field first last : String} :
      subject.column? = some field → low.literalText? = some first →
      high.literalText? = some last →
      Says (.between negated subject low high)
        ⟨field, if negated then "NOT BETWEEN" else "BETWEEN", first ++ " AND " ++ last⟩

/-- The predicate that an atom says, if it says one. -/
def said? : Expr → Option Predicate
  | .binary .and _ _ => none
  | .binary .or _ _ => none
  | .nested _ => none
  | e => e.predicates.head?

lemma said?_eq_some_iff {e : Expr} {p : Predicate} : e.said? = some p ↔ e.Says p := by
  constructor
  · intro h
    cases e with
    | binary op left right =>
      cases op with
      | compare c =>
        simp only [said?, predicates, Option.head?_toList, Option.bind_eq_bind,
          Option.bind_eq_some_iff, Option.pure_def, Option.some.injEq] at h
        obtain ⟨field, hfield, value, hvalue, rfl⟩ := h
        exact .compare hfield hvalue
      | _ => simp [said?, predicates] at h
    | inList negated subject items =>
      simp only [said?, predicates, Option.head?_toList, Option.bind_eq_bind,
        Option.bind_eq_some_iff, Option.pure_def, Option.some.injEq,
        literalTexts?_eq_some_iff] at h
      obtain ⟨field, hfield, values, hvalues, rfl⟩ := h
      exact .inList hfield hvalues
    | like negated any subject pattern escape =>
      simp only [said?, predicates, Option.head?_toList, Option.bind_eq_bind,
        Option.bind_eq_some_iff, Option.pure_def, Option.some.injEq] at h
      obtain ⟨field, hfield, value, hvalue, rfl⟩ := h
      exact .like hfield hvalue
    | between negated subject low high =>
      simp only [said?, predicates, Option.head?_toList, Option.bind_eq_bind,
        Option.bind_eq_some_iff, Option.pure_def, Option.some.injEq] at h
      obtain ⟨field, hfield, first, hfirst, last, hlast, rfl⟩ := h
      exact .between hfield hfirst hlast
    | _ => simp [said?, predicates] at h
  · intro h
    cases h with
    | compare hfield hvalue => simp [said?, predicates, hfield, hvalue]
    | inList hfield hvalues =>
      simp [said?, predicates, hfield, literalTexts?_eq_some_iff.mpr hvalues]
    | like hfield hvalue => simp [said?, predicates, hfield, hvalue]
    | between hfield hfirst hlast => simp [said?, predicates, hfield, hfirst, hlast]

lemma predicates_of_atom {e : Expr} (hand : ∀ left right, e ≠ .binary .and left right)
    (hor : ∀ left right, e ≠ .binary .or left right) (hnested : ∀ inner, e ≠ .nested inner) :
    e.predicates = e.said?.toList := by
  have hoption : ∀ o : Option Predicate, o.toList = o.toList.head?.toList := by simp
  cases e with
  | binary op left right =>
    cases op with
    | and => exact absurd rfl (hand left right)
    | or => exact absurd rfl (hor left right)
    | compare c => exact hoption _
    | other symbol => rfl
  | nested inner => exact absurd rfl (hnested inner)
  | inList negated subject items => exact hoption _
  | like negated any subject pattern escape => exact hoption _
  | between negated subject low high => exact hoption _
  | _ => rfl

/-- The predicates of a condition are those that its atoms say. -/
lemma predicates_eq_filterMap (e : Expr) : e.predicates = e.atoms.filterMap said? := by
  fun_induction atoms e with
  | case1 left right ihl ihr => rw [predicates, List.filterMap_append, ← ihl, ← ihr]
  | case2 left right ihl ihr => rw [predicates, List.filterMap_append, ← ihl, ← ihr]
  | case3 inner ih => rw [predicates, ← ih]
  | case4 e hand hor hnested =>
    rw [predicates_of_atom hand hor hnested]
    cases h : e.said? <;> simp [h]

end Expr

/-- The atoms of a selection's condition, if it has one. -/
def Select.atoms (selection : Select) : List Expr := selection.condition.elim [] Expr.atoms

lemma Statement.predicates_eq_filterMap {s : Statement} {selection : Select}
    (h : s.selection? = some selection) :
    s.predicates = selection.atoms.filterMap Expr.said? := by
  rw [predicates, condition?, h, Option.bind_some, Select.atoms]
  cases selection.condition with
  | none => rfl
  | some e => exact e.predicates_eq_filterMap

end SemanticQuery.Sql
