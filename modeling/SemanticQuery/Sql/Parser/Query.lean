import SemanticQuery.Sql.Parser.Change

/-!
# Queries

The clauses that open and close a query, the query as a whole, and the grammar of all forms that
may stand inside one another.
-/

namespace SemanticQuery.Sql.Parser

/-! ### Opening and closing clauses -/

/-- A query that the main one may refer to by name. -/
def commonTable (g : Grammar) : Parser (List Part) := do
  let name := (← ident).print
  let columns ← if ← sees "AS" then pure "" else tableAlias.columns
  expect "AS"
  expectSymbol "("
  let q ← g.query
  expectSymbol ")"
  let origin ← if ← keyword "FROM" then pure (" FROM " ++ (← ident).print) else pure ""
  return [.text (name ++ columns ++ " AS ("), .query q, .text (")" ++ origin)]

/-- The named queries before the core. -/
def withClause (g : Grammar) : Parser (List Part) := do
  if ← keyword "WITH" then
    let start := if ← keyword "RECURSIVE" then "WITH RECURSIVE " else "WITH "
    let tables ← commaSeparated (commonTable g)
    return .text start :: commaParts tables ++ [.text " "]
  else
    return []

/-- The bound on the number of rows and the rows passed over. -/
structure Bounds where
  limit : Option Expr := none
  offset : Option (Expr × String) := none

/-- One round of reading bounds: `LIMIT`, `OFFSET`, and a comma behind a limit, which makes the
limit the number of rows passed over. -/
def boundsRound (g : Grammar) (b : Bounds) : Parser Bounds := do
  let b ←
    if ← keywordWhen b.limit.isNone "LIMIT" then
      if ← keyword "ALL" then pure { b with limit := none }
      else pure { b with limit := some (← g.expr) }
    else pure b
  let b ←
    if ← keywordWhen b.offset.isNone "OFFSET" then do
      let e ← g.expr
      let unit := ((← oneOf ["ROW", "ROWS"]).map (" " ++ ·)).getD ""
      pure { b with offset := some (e, unit) }
    else pure b
  match b.limit, b.offset with
  | some passed, none =>
    if ← symbol "," then return ⟨some (← g.expr), some (passed, "")⟩ else return b
  | _, _ => return b

/-- The phrase of the bounds. -/
def Bounds.parts (b : Bounds) : List Part :=
  (match b.limit with
    | some e => [.text " LIMIT ", .expr e]
    | none => []) ++
  (match b.offset with
    | some (e, unit) => [.text " OFFSET ", .expr e, .text unit]
    | none => [])

/-- The rows fetched, if the clause comes next. -/
def fetchClause : Parser (List Part) := do
  if ← keyword "FETCH" then
    let _ ← expectOneOf ["FIRST", "NEXT"]
    let quantity ←
      match ← oneOf ["ROW", "ROWS"] with
      | some _ => pure []
      | none => do
        let n ← literal
        let percent := if ← keyword "PERCENT" then " PERCENT" else ""
        let _ ← expectOneOf ["ROW", "ROWS"]
        pure [.expr (.literal n), .text (percent ++ " ")]
    let extent ←
      if ← keyword "ONLY" then pure "ONLY"
      else do
        expectAll ["WITH", "TIES"]
        pure "WITH TIES"
    return .text " FETCH FIRST " :: quantity ++ [.text ("ROWS " ++ extent)]
  else
    return []

/-- The locks on the selected rows. -/
def lockClauses : Parser (List Part) := do
  let text ← loop (fun found => do
    if ← keyword "FOR" then
      if ← keyword "BROWSE" then return .inr (found ++ " FOR BROWSE")
      let kind ← expectOneOf ["UPDATE", "SHARE"]
      let relation ← if ← keyword "OF" then pure (" OF " ++ (← pathText)) else pure ""
      let wait ← do
        if ← keyword "NOWAIT" then pure " NOWAIT"
        else if ← keywords ["SKIP", "LOCKED"] then pure " SKIP LOCKED"
        else pure ""
      return .inl (found ++ " FOR " ++ kind ++ relation ++ wait)
    else
      return .inr found) ""
  return if text.isEmpty then [] else [.text text]

/-- A query whose opening clauses are read. -/
def openedQuery (g : Grammar) (opening : List Part) : Parser Query := do
  let core ← g.body 0
  let order ←
    if ← keywords ["ORDER", "BY"] then pure (.text " ORDER BY " :: (← orderItems g)) else pure []
  let bounds ← boundsRound g (← boundsRound g {})
  let fetch ← fetchClause
  return ⟨opening, core, order ++ bounds.parts ++ fetch ++ (← lockClauses)⟩

/-- A query. -/
def query (g : Grammar) : Parser Query := do
  let opening ← withClause g
  match ← change g with
  | some parts => return ⟨opening, .phrase parts, []⟩
  | none => openedQuery g opening

/-! ### The grammar -/

/-- The grammar in which forms may be entered `n` times, one inside the other. -/
def grammar : Nat → Grammar
  | 0 => Grammar.empty
  | n + 1 =>
    let g := grammar n
    { subexpr := fun power => nest (expression g power)
      body := fun power => body g power
      query := nest (query g)
      joined := joined g }

end SemanticQuery.Sql.Parser
