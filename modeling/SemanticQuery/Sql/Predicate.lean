import SemanticQuery.SortedList
import SemanticQuery.Sql.Condition
import SemanticQuery.Sql.Walk

/-!
# Predicates and columns

What a statement says about columns: the predicates of its condition that hold a column against
literals, and the columns that its condition and its projection mention.
-/

namespace SemanticQuery.Sql

/-- A column held against a value. -/
structure Predicate where
  /-- The column as it is written. -/
  field : String
  /-- The operator, such as `=` or `NOT IN`. -/
  operator : String
  /-- The text of the value; a list reads `(a, b)` and a range `a AND b`. -/
  value : String
  deriving DecidableEq

/-! ### Predicates -/

/-- The texts of literals, if all are literals. -/
def literalTexts? : List Expr → Option (List String)
  | [] => some []
  | e :: es => do return (← e.literalText?) :: (← literalTexts? es)

/-- The predicates of a condition, in their order. Only `AND`, `OR` and parentheses are looked
through. -/
def Expr.predicates : Expr → List Predicate
  | .binary .and left right => left.predicates ++ right.predicates
  | .binary .or left right => left.predicates ++ right.predicates
  | .nested inner => inner.predicates
  | .binary (.compare c) left right =>
    Option.toList do return ⟨← left.column?, c.symbol, ← right.literalText?⟩
  | .inList negated subject items =>
    Option.toList do
      return ⟨← subject.column?, if negated then "NOT IN" else "IN",
        "(" ++ String.intercalate ", " (← literalTexts? items) ++ ")"⟩
  | .like negated _ subject pattern _ =>
    Option.toList do
      return ⟨← subject.column?, if negated then "NOT LIKE" else "LIKE", ← pattern.literalText?⟩
  | .between negated subject low high =>
    Option.toList do
      return ⟨← subject.column?, if negated then "NOT BETWEEN" else "BETWEEN",
        (← low.literalText?) ++ " AND " ++ (← high.literalText?)⟩
  | _ => []

/-! ### Columns -/

/-- The columns in an expression, in the order of their mention. -/
def Expr.columns (e : Expr) : List String := e.subexprs.filterMap Expr.column?

/-- The expression of a projected item. -/
def SelectItem.expr? : SelectItem → Option Expr
  | .expr value _ => some value
  | .wildcard _ => none

namespace Statement

/-- The condition of the statement's plain selection. -/
def condition? (s : Statement) : Option Expr := s.selection?.bind Select.condition

/-- The predicates of the statement's condition. -/
def predicates (s : Statement) : List Predicate :=
  match s.condition? with
  | some e => e.predicates
  | none => []

/-- The columns that the statement's condition mentions, in the order of their names. -/
def conditionColumns (s : Statement) : List String :=
  match s.condition? with
  | some e => SortedList.ofList e.columns
  | none => []

/-- The columns that the statement's projection mentions, each where it comes first. -/
def projectedColumns (s : Statement) : List String :=
  match s.selection? with
  | some selection =>
    ((selection.projection.filterMap SelectItem.expr?).flatMap Expr.columns).eraseDups
  | none => []

end Statement

end SemanticQuery.Sql
