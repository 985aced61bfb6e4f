import SemanticQuery.Calendar.Reference
import SemanticQuery.Config
import SemanticQuery.Correction.Injection
import SemanticQuery.Sql.Predicate

/-!
# The default date

A query whose condition mentions no time is about the reference date.
-/

namespace SemanticQuery.Correction

/-- A condition in parentheses. -/
def parenthesized : Sql.Expr → Sql.Expr
  | .nested inner => .nested inner
  | e => .nested e

/-- A condition, which may be absent, behind parentheses, and another one. -/
def alsoHolds (condition : Option Sql.Expr) (e : Sql.Expr) : Sql.Expr :=
  match condition with
  | some c => (parenthesized c).conj e
  | none => e

/-- The statement for the reference date, or `none` if there is no such date or if the condition
already mentions a time. -/
def addDate (r : Request) (times : TimeDimensions) (s : Sql.Statement) : Option Sql.Statement :=
  match r.date.bind Calendar.canonicalDate, s.selection? with
  | some date, some selection =>
    if times.containsAny s.conditionColumns then none
    else
      some (s.withCondition
        (some (alsoHolds selection.condition (Sql.Expr.columnIs times.day date))))
  | _, _ => none

end SemanticQuery.Correction
