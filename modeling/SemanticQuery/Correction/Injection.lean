import SemanticQuery.Correction.Renaming
import SemanticQuery.Correction.Request
import SemanticQuery.Sql.Condition
import SemanticQuery.Sql.Printer
import SemanticQuery.Sql.Reading

/-!
# Injected conditions

The filters of a request, and the tenant's own, become conditions of the query. A condition that
the query already has is not added again; an `OR` outside parentheses is put in parentheses
before anything joins it.
-/

namespace SemanticQuery

/-! ### Conditions of filters -/

namespace Sql.Expr

/-- The bare name whose column a condition compares. -/
def comparedName? : Expr → Option String
  | .binary (.compare _) (.name ⟨value, none⟩) _ => some value
  | .inList _ (.name ⟨value, none⟩) _ => some value
  | .like _ _ (.name ⟨value, none⟩) _ _ => some value
  | _ => none

end Sql.Expr

/-- The condition of a filter: it compares the one column that the filter names. -/
def Filter.condition (f : Filter) : Except Failure Sql.Expr := do
  let e ← Sql.Expr.readCondition f.sql
  if e.comparedName? == some f.name then return e
  else throw (.filter f.sql (.otherColumn f.name))

/-! ### Conditions of queries -/

namespace Sql

/-- The conditions that `AND` joins, also inside parentheses that hold no open `OR`. -/
def Expr.deepConjuncts : Expr → List Expr
  | .binary .and left right => left.deepConjuncts ++ right.deepConjuncts
  | .nested inner => if inner.hasOpenOr then [.nested inner] else inner.deepConjuncts
  | e => [e]

/-- The conditions whose texts are not among `present`, and of those with one text the first. -/
def missing (present : List String) : List Expr → List Expr
  | [] => []
  | e :: es =>
    if present.contains e.print then missing present es else e :: missing (e.print :: present) es

/-- A condition that others can join: an open `OR` stands in parentheses. -/
def Expr.closed (e : Expr) : Expr := if e.hasOpenOr then .nested e else e

/-- A condition, which may be absent, with more conditions behind it. -/
def joined : Option Expr → List Expr → Option Expr
  | condition, [] => condition
  | none, e :: es => joined (some e) es
  | some condition, e :: es => joined (some (condition.conj e)) es

/-- The statement with another condition in its plain selection. -/
def Statement.withCondition (condition : Option Expr) (s : Statement) : Statement :=
  match s.selection? with
  | some selection => s.withSelection { selection with condition }
  | none => s

end Sql

/-! ### Injection -/

namespace Correction

/-- Ids that stand for no particular tenant. -/
def noTenants : List Int := [0, -1]

/-- The filter on the tenant who asks, if the models have a dimension for it. -/
def Request.tenantFilter? (r : Request) (tenantBizName : String) : Option Filter :=
  match r.tenant with
  | some tenant =>
    if noTenants.contains tenant then none
    else
      (r.schema.dimension? r.models tenantBizName).map fun d =>
        ⟨d.bizName, d.name, .equals, .int tenant, some d.id⟩
  | none => none

/-- The filters that a query has to obey, the tenant's last. -/
def Request.allFilters (r : Request) (tenantBizName : String) : List Filter :=
  r.filters ++ (r.tenantFilter? tenantBizName).toList

/-- The conditions of filters with their texts renamed. -/
def conditions (r : Renaming) (filters : List Filter) : Except Failure (List Sql.Expr) := do
  return (← filters.mapM Filter.condition).map (Sql.Expr.rename r)

/-- The conditions that a query lacks. -/
def lacking (r : Renaming) (condition : Option Sql.Expr) (wanted : List Sql.Expr) :
    List Sql.Expr :=
  let present :=
    match condition with
    | some e => e.deepConjuncts.map fun c => (c.rename r).print
    | none => []
  Sql.missing present wanted

/-- The statement with the conditions of the request's filters, or `none` if it has them all. -/
def inject (r : Request) (tenantBizName : String) (s : Sql.Statement) :
    Except Failure (Option Sql.Statement) := do
  let renamings := r.schema.renamings r.models
  let wanted ← conditions renamings (r.allFilters tenantBizName)
  match s.selection? with
  | none => return none
  | some selection =>
    let added := lacking renamings selection.condition wanted
    if added.isEmpty then return none
    else
      return some (s.withCondition (Sql.joined (selection.condition.map Sql.Expr.closed) added))

end Correction

end SemanticQuery
