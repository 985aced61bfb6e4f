import SemanticQuery.Sql.Parser.Selection

/-!
# Changes of rows

Statements that add, change and remove rows. Behind a `WITH` clause, and in parentheses, the first
two may also stand where a query stands.
-/

namespace SemanticQuery.Sql.Parser

/-- An assignment to a column or to several. -/
def assignment (g : Grammar) : Parser (List Part) := do
  let target ←
    if ← symbol "(" then do
      let columns ← commaSeparated pathText
      expectSymbol ")"
      pure ("(" ++ String.intercalate ", " columns ++ ")")
    else pathText
  expectSymbol "="
  return [.text (target ++ " = "), .expr (← g.expr)]

/-- One or more assignments. -/
def assignments (g : Grammar) : Parser (List Part) := do
  return commaParts (← commaSeparated (assignment g))

/-- What a change hands back, if it hands back anything. -/
def returning (g : Grammar) : Parser (List Part) := do
  if ← keyword "RETURNING" then
    let items ← commaSeparated (selectItem g)
    return .text " RETURNING " :: commaParts (items.map itemParts)
  else
    return []
where
  /-- A projected item as a phrase. -/
  itemParts : SelectItem → List Part
    | .wildcard t => [.text t]
    | .expr e label => [.expr e, .text ((label.map fun a => " AS " ++ a.print).getD "")]

/-- The removal of rows, from behind its keyword on. -/
def delete (g : Grammar) : Parser (List Part) := do
  let tables ←
    if ← keyword "FROM" then pure ""
    else do
      let names ← commaSeparated pathText
      expect "FROM"
      pure (String.intercalate ", " names ++ " ")
  let origin ← relations g
  let using_ ←
    if ← keyword "USING" then pure (.text " USING " :: (← relations g)) else pure []
  let condition ← exprClause g "WHERE"
  let back ← returning g
  let order ←
    if ← keywords ["ORDER", "BY"] then pure (.text " ORDER BY " :: (← orderItems g)) else pure []
  let limit ←
    if ← keyword "LIMIT" then
      if ← keyword "ALL" then pure [] else pure [.text " LIMIT ", .expr (← g.expr)]
    else pure []
  return .text ("DELETE " ++ tables ++ "FROM ") :: origin ++ using_ ++ condition ++ back ++ order ++
    limit

/-- The change of rows, from behind its keyword on. -/
def update (g : Grammar) : Parser (List Part) := do
  let target ← g.joined
  let early ← if ← keyword "FROM" then pure (.text " FROM " :: (← relations g)) else pure []
  expect "SET"
  let changes ← assignments g
  let late ←
    if ← keywordWhen early.isEmpty "FROM" then pure (.text " FROM " :: (← relations g))
    else pure []
  let condition ← exprClause g "WHERE"
  return .text "UPDATE " :: target.parts ++ early ++ .text " SET " :: changes ++ late ++
    condition ++ (← returning g)

/-- Whether a query comes next, in parentheses or not. -/
def seesSource : Parser Bool := do
  match ← ahead with
  | .symbol "(" :: t :: _ => return t.isOneOf ["SELECT", "WITH"]
  | _ => return false

/-- New rows, from behind the keyword `verb` on. -/
def insert (g : Grammar) (verb : String) : Parser (List Part) := do
  let priority := ((← oneOf ["LOW_PRIORITY", "DELAYED", "HIGH_PRIORITY"]).map (" " ++ ·)).getD ""
  let ignore := if ← keyword "IGNORE" then " IGNORE" else ""
  let overwrite := if ← keyword "OVERWRITE" then " OVERWRITE" else ""
  let into := if ← keyword "INTO" then " INTO" else ""
  let tableWord := if ← keyword "TABLE" then " TABLE" else ""
  let name ← pathText
  let start := verb ++ priority ++ ignore ++ overwrite ++ into ++ tableWord ++ " " ++ name ++ " "
  let source ←
    if ← keywords ["DEFAULT", "VALUES"] then pure [.text "DEFAULT VALUES"]
    else do
      let columns ←
        if (← seesSymbol "(") && !(← seesSource) then
          let cs ← parenthesized do
            if ← seesSymbol ")" then pure "" else identsText
          pure (if cs.isEmpty then "" else "(" ++ cs ++ ") ")
        else pure ""
      if ← keyword "SET" then pure (.text (columns ++ "SET ") :: (← assignments g))
      else pure [.text columns, .query (← g.query)]
  let label ←
    if ← keyword "AS" then do
      let row ← pathText
      if ← symbol "(" then do
        let cs ← identsText
        expectSymbol ")"
        pure (" AS " ++ row ++ " (" ++ cs ++ ")")
      else pure (" AS " ++ row)
    else pure ""
  let duplicate ←
    if ← keyword "ON" then do
      expectAll ["DUPLICATE", "KEY", "UPDATE"]
      pure (.text " ON DUPLICATE KEY UPDATE " :: (← assignments g))
    else pure []
  return .text start :: source ++ .text label :: duplicate ++ (← returning g)

/-- A change of rows that may stand where a query stands, if one comes next. -/
def change (g : Grammar) : Parser (Option (List Part)) := do
  if ← keyword "INSERT" then return some (← insert g "INSERT")
  else if ← keyword "UPDATE" then return some (← update g)
  else return none

end SemanticQuery.Sql.Parser
