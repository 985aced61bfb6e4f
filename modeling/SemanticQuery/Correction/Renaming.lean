import SemanticQuery.Schema
import SemanticQuery.Sql.Walk

/-!
# Names of values

People name a value by its business name or an alias; queries have to name it as it is stored.
The first declaration of a name counts.
-/

namespace SemanticQuery

/-- Pairs of a name and the stored value that it stands for. -/
abbrev Renaming : Type := List (String × String)

/-! ### Declarations -/

/-- The renamings that the names of one value declare. A value that is not stored declares none,
and a stored value does not rename itself. -/
def ValueNames.renamings (v : ValueNames) : Renaming :=
  match v.techName with
  | some stored => (v.declared.filter (· != stored)).map (·, stored)
  | none => []

/-- The renamings that the dimensions of the models declare, in their order. -/
def Schema.renamings (s : Schema) (models : List Int) : Renaming :=
  (s.dimensions models).flatMap fun d => d.valueNames.flatMap ValueNames.renamings

/-! ### Literals -/

namespace Sql

/-- The expression with its text renamed, if it is a string. -/
def Expr.renameHere (r : Renaming) : Expr → Expr
  | .literal (.single text) => .literal (.single ((r.lookup text).getD text))
  | .literal (.double text) => .literal (.double ((r.lookup text).getD text))
  | e => e

/-- Whether the expression is a string that is renamed. -/
def Expr.isRenamed (r : Renaming) : Expr → Bool
  | .literal (.single text) => (r.lookup text).isSome
  | .literal (.double text) => (r.lookup text).isSome
  | _ => false

/-- The expression with every string in it renamed. -/
def Expr.rename (r : Renaming) (e : Expr) : Expr := e.mapExprs (Expr.renameHere r)

/-- The number of strings in an expression that are renamed. -/
def Expr.renamedCount (r : Renaming) (e : Expr) : Nat := e.subexprs.countP (Expr.isRenamed r)

/-- The statement with every string in it renamed. -/
def Statement.rename (r : Renaming) (s : Statement) : Statement := s.mapExprs (Expr.renameHere r)

/-- The number of strings in a statement that are renamed. -/
def Statement.renamedCount (r : Renaming) (s : Statement) : Nat :=
  s.subexprs.countP (Expr.isRenamed r)

end Sql

end SemanticQuery
