import SemanticQuery.Sql.Parser.Relation

/-!
# Selections

Plain selections and the other cores of a query: set operations, listed rows, whole tables and
queries in parentheses.
-/

namespace SemanticQuery.Sql.Parser

/-! ### Selections -/

/-- An item of a projection. -/
def selectItem (g : Grammar) : Parser SelectItem := do
  match ← starred g with
  | .star text => return .wildcard text
  | .expr e =>
    match e with
    | .name ⟨value, none⟩ => require (Text.lower value != "from")
    | _ => pure ()
    return .expr e (← optionalAlias columnAliasStops)

/-- What stands between `SELECT` and the projection. -/
def selectQuantifier (g : Grammar) : Parser (List Part) := do
  let all ← keyword "ALL"
  let distinct ← keyword "DISTINCT"
  require !(all && distinct)
  let distinctParts ←
    if distinct then
      if ← keyword "ON" then
        expectSymbol "("
        let columns ← if ← seesSymbol ")" then pure [] else exprList g
        expectSymbol ")"
        pure (.text "DISTINCT ON (" :: columns ++ [.text ") "])
      else pure [.text "DISTINCT "]
    else pure []
  let top ←
    if ← keyword "TOP" then do
      let quantity ←
        if ← symbol "(" then do
          let e ← g.expr
          expectSymbol ")"
          pure [.text "TOP (", .expr e, .text ")"]
        else pure [.text ("TOP " ++ toString (← unsigned))]
      let percent := if ← keyword "PERCENT" then " PERCENT" else ""
      let ties := if ← keywords ["WITH", "TIES"] then " WITH TIES" else ""
      pure (quantity ++ [.text (percent ++ ties ++ " ")])
    else pure []
  return distinctParts ++ top

/-- A window that a selection names. -/
def namedWindow (g : Grammar) : Parser (List Part) := do
  let name := (← ident).print
  expect "AS"
  expectSymbol "("
  return .text (name ++ " AS (") :: (← window g (interval g)) ++ [.text ")"]

/-- A clause of keywords and a list of expressions, if it comes next. -/
def listClause (g : Grammar) (keys : List String) : Parser (List Part) := do
  if ← keywords keys then
    return .text (" " ++ String.intercalate " " keys ++ " ") :: (← exprList g)
  else
    return []

/-- The clause of a keyword and an expression, if it comes next. -/
def exprClause (g : Grammar) (key : String) : Parser (List Part) := do
  if ← keyword key then return [.text (" " ++ key ++ " "), .expr (← g.expr)] else return []

/-- The windows that a selection names, if it names any. -/
def windowClause (g : Grammar) : Parser (List Part) := do
  if ← keyword "WINDOW" then
    return .text " WINDOW " :: commaParts (← commaSeparated (namedWindow g))
  else
    return []

/-- The clauses behind the condition of a selection. -/
def selectTrailer (g : Grammar) : Parser (List Part) := do
  let group ←
    if ← keywords ["GROUP", "BY"] then
      if ← keyword "ALL" then pure [.text " GROUP BY ALL"]
      else pure (.text " GROUP BY " :: (← exprList g))
    else pure []
  let cluster ← listClause g ["CLUSTER", "BY"]
  let distribute ← listClause g ["DISTRIBUTE", "BY"]
  let sort ← listClause g ["SORT", "BY"]
  let having ← exprClause g "HAVING"
  let early ← windowClause g
  let qualify ← exprClause g "QUALIFY"
  let late ← if early.isEmpty && !qualify.isEmpty then windowClause g else pure []
  return group ++ cluster ++ distribute ++ sort ++ having ++ early ++ qualify ++ late

/-- A plain selection. -/
def select (g : Grammar) : Parser Select := do
  expect "SELECT"
  let quantifier ← selectQuantifier g
  let items ← commaSeparated (selectItem g)
  let into ←
    if ← keyword "INTO" then do
      let kind ← oneOf ["TEMP", "TEMPORARY"]
      let unlogged ← keyword "UNLOGGED"
      let table ← keyword "TABLE"
      let name ← pathText
      pure [.text (" INTO" ++ ((kind.map fun _ => " TEMPORARY").getD "") ++
        (if unlogged then " UNLOGGED" else "") ++ (if table then " TABLE" else "") ++ " " ++ name)]
    else pure []
  let source ←
    if ← keyword "FROM" then pure (.text " FROM " :: (← relations g)) else pure []
  let condition ← if ← keyword "WHERE" then pure (some (← g.expr)) else pure none
  return ⟨quantifier, items, into ++ source, condition, ← selectTrailer g⟩

/-! ### Cores of queries -/

/-- A row of listed values. -/
def valueRow (g : Grammar) : Parser (List Part × Bool) := do
  let row ← keyword "ROW"
  expectSymbol "("
  if ← symbol ")" then return ([], row)
  let items ← exprList g
  expectSymbol ")"
  return (items, row)

/-- Listed rows, from behind their keyword on. If one row has the keyword `ROW`, all print it. -/
def values (g : Grammar) : Parser (List Part) := do
  let rows ← commaSeparated (valueRow g)
  let start := if rows.any (·.2) then "ROW(" else "("
  return .text "VALUES " ::
    commaParts (rows.map fun (items, _) => .text start :: items ++ [.text ")"])

/-- The word of a name that stands in a token. -/
def wordText : Option Token → Parser String
  | some (.word text _) => pure text
  | some (.quoted text) => pure text
  | _ => fail

/-- All rows of a table, from behind the keyword on. Three tokens are read in any case. -/
def wholeTable : Parser (List Part) := do
  let first ← next
  let second ← next
  let third ← next
  if (second.map (·.isSymbol ".")).getD false then
    return [.text ("TABLE " ++ (← wordText first) ++ "." ++ (← wordText third))]
  else
    return [.text ("TABLE " ++ (← wordText first))]

/-- The set operations and how tightly they bind. -/
def setPower : List Token → Nat
  | .word _ key :: _ =>
    if ["UNION", "EXCEPT", "MINUS"].contains key then 10 else if key == "INTERSECT" then 20 else 0
  | _ => 0

/-- What a set operation does with equal rows. -/
def setQuantifier : Parser String := do
  if ← keywords ["DISTINCT", "BY", "NAME"] then return " DISTINCT BY NAME"
  else if ← keywords ["BY", "NAME"] then return " BY NAME"
  else if ← keyword "ALL" then
    return if ← keywords ["BY", "NAME"] then " ALL BY NAME" else " ALL"
  else if ← keyword "DISTINCT" then return " DISTINCT"
  else return ""

/-- The core of a query whose set operations bind tighter than `power`. -/
def body (g : Grammar) (power : Nat) : Parser Body := do
  let first : Body ← do
    if ← sees "SELECT" then pure (.select (← select g))
    else if ← symbol "(" then do
      let q ← g.query
      expectSymbol ")"
      pure (.phrase [.text "(", .query q, .text ")"])
    else if ← keyword "VALUES" then pure (.phrase (← values g))
    else do
      expect "TABLE"
      pure (.phrase (← wholeTable))
  loop (fun (left : Body) => do
    let next := setPower (← ahead)
    if power ≥ next then return .inr left
    else
      let op ← expectOneOf ["UNION", "EXCEPT", "MINUS", "INTERSECT"]
      let quantifier ← setQuantifier
      let right ← g.body next
      return .inl (.phrase [.query ⟨[], left, []⟩, .text (" " ++ op ++ quantifier ++ " "),
        .query ⟨[], right, []⟩])) first

end SemanticQuery.Sql.Parser
