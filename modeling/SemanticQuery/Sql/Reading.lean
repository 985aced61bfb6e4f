import SemanticQuery.Failure
import SemanticQuery.Sql.Parser

/-!
# Reading one statement or one condition

The texts that the library accepts: one statement, one plain selection, or one condition with
nothing behind it.
-/

namespace SemanticQuery.Sql

/-- The one statement of a text. -/
def Statement.read (text : String) : Except Failure Statement :=
  match Statement.readAll text with
  | .error fault => .error (.notSql fault)
  | .ok [statement] => .ok statement
  | .ok found => .error (.notSingle found.length)

/-- The one statement of a text, which is a plain selection. -/
def Statement.readSelection (text : String) : Except Failure Statement :=
  match Statement.read text with
  | .error failure => .error failure
  | .ok statement => if statement.selection?.isSome then .ok statement else .error .notSelection

/-- The condition that is the whole of a text. -/
def Expr.readCondition (text : String) : Except Failure Expr :=
  match Expr.readWhole text with
  | .error _ => .error (.filter text .notExpression)
  | .ok (_, some token) => .error (.filter text (.trailing token))
  | .ok (e, none) => .ok e

end SemanticQuery.Sql
