import SemanticQuery.Sql.Tree

/-!
# Conditions

What a condition says at its top: the column and the literal that an expression stands for, the
conditions that are joined by `AND`, and whether an `OR` stands outside parentheses.
-/

namespace SemanticQuery.Sql

namespace Expr

/-! ### Columns and literals -/

/-- The column that an expression names, without the names that qualify it. -/
def columnName? : Expr → Option String
  | .name ident => some ident.value
  | .path parts => parts.getLast?.map Ident.value
  | .nested inner => inner.columnName?
  | .cast _ subject _ => subject.columnName?
  | _ => none

/-- The column that an expression is. -/
def column? : Expr → Option String
  | .name ident => some ident.value
  | .path parts => parts.getLast?.map Ident.value
  | _ => none

/-- The text of a literal, without quotes; operators before it stay. -/
def literalText? : Expr → Option String
  | .literal (.single text) => some text
  | .literal (.double text) => some text
  | .literal (.number digits _) => some digits
  | .literal (.boolean value) => some (if value then "true" else "false")
  | .unary op operand => operand.literalText?.map (op.symbol ++ ·)
  | .nested inner => inner.literalText?
  | _ => none

/-! ### Joined conditions -/

/-- The conditions that `AND` joins; what stands in parentheses stays whole. -/
def conjuncts : Expr → List Expr
  | .binary .and left right => left.conjuncts ++ right.conjuncts
  | e => [e]

/-- Whether an `OR` stands outside parentheses. -/
def hasOpenOr : Expr → Bool
  | .binary .or _ _ => true
  | .binary .and left right => left.hasOpenOr || right.hasOpenOr
  | _ => false

/-- Both conditions. -/
def conj (left right : Expr) : Expr := .binary .and left right

/-- The condition that a column has a text as its value. -/
def columnIs (column text : String) : Expr :=
  .binary (.compare .eq) (.name (.bare column)) (.literal (.single text))

end Expr

end SemanticQuery.Sql
