import SemanticQuery.Sql.Condition
import SemanticQuery.Sql.Name
import SemanticQuery.Sql.Printer
import SemanticQuery.Sql.Walk

/-!
# Differences of dates

A difference of dates in a unit is written `DATEDIFF(unit, start, end)` and executed as
`TIMESTAMPDIFF(UNIT, start, end)`. Calls with another number of arguments or without a unit are
none of these.
-/

namespace SemanticQuery.Sql

/-- The units of time. -/
def timeUnits : List String :=
  ["SECOND", "MINUTE", "HOUR", "DAY", "WEEK", "MONTH", "QUARTER", "YEAR"]

/-- The unit of time that an expression names, bare or as a literal. -/
def Expr.timeUnit? (e : Expr) : Option String :=
  let text? :=
    match e with
    | .name ident => some ident.value
    | e => e.literalText?
  match text? with
  | some text =>
    let unit := Text.upper (Text.trim text)
    if timeUnits.contains unit then some unit else none
  | none => none

/-- The expression of an argument. -/
def Argument.value? : Argument → Option Expr
  | .positional value => some value
  | .named _ _ value => some value
  | .wildcard _ => none

/-- The name of the called function, as names are compared. -/
def Call.normalizedName (c : Call) : String :=
  Name.normalized (Name.lastComponent (printPath c.name))

/-- The call that executes a difference of dates. -/
def Call.executable? (c : Call) : Option Call :=
  if c.normalizedName == "datediff" then
    match c.arguments with
    | [unit, start, stop] =>
      match unit.value?.bind Expr.timeUnit? with
      | some u =>
        some { c with
          name := [.bare "TIMESTAMPDIFF"]
          arguments := [.positional (.name (.bare u)), start, stop] }
      | none => none
    | _ => none
  else none

/-- The expression with its call made executable, if it is a difference of dates. -/
def Expr.executableHere : Expr → Expr
  | .call c => .call (c.executable?.getD c)
  | e => e

/-- Whether an expression is a difference of dates that has to be made executable. -/
def Expr.isDateDifference : Expr → Bool
  | .call c => c.executable?.isSome
  | _ => false

/-- The statement with every difference of dates made executable. -/
def Statement.executable (s : Statement) : Statement := s.mapExprs Expr.executableHere

/-- Whether a statement has a difference of dates that has to be made executable. -/
def Statement.hasDateDifference (s : Statement) : Bool := s.subexprs.any Expr.isDateDifference

end SemanticQuery.Sql
