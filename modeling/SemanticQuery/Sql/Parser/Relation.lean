import SemanticQuery.Sql.Parser.Operator

/-!
# Relations

The relations of a `FROM` clause: tables, queries and joins in parentheses, table functions, and
the relations joined to them.
-/

namespace SemanticQuery.Sql.Parser

/-! ### Aliases -/

/-- The keywords that no projected item takes for its new name. -/
def columnAliasStops : List String :=
  ["WITH", "EXPLAIN", "ANALYZE", "SELECT", "WHERE", "GROUP", "SORT", "HAVING", "ORDER", "TOP",
   "LATERAL", "VIEW", "LIMIT", "OFFSET", "FETCH", "UNION", "EXCEPT", "INTERSECT", "MINUS",
   "CLUSTER", "DISTRIBUTE", "RETURNING", "FROM", "INTO", "END"]

/-- The keywords that no relation takes for its new name. -/
def tableAliasStops : List String :=
  ["WITH", "EXPLAIN", "ANALYZE", "SELECT", "WHERE", "GROUP", "SORT", "HAVING", "ORDER", "PIVOT",
   "UNPIVOT", "TOP", "LATERAL", "VIEW", "LIMIT", "OFFSET", "FETCH", "UNION", "EXCEPT", "INTERSECT",
   "MINUS", "ON", "JOIN", "INNER", "CROSS", "FULL", "LEFT", "RIGHT", "NATURAL", "USING", "CLUSTER",
   "DISTRIBUTE", "GLOBAL", "ANTI", "SEMI", "RETURNING", "ASOF", "MATCH_CONDITION", "OUTER", "SET",
   "QUALIFY", "WINDOW", "END", "FOR", "PARTITION", "PREWHERE", "SETTINGS", "FORMAT", "START",
   "CONNECT", "MATCH_RECOGNIZE", "SAMPLE", "TABLESAMPLE", "FROM", "USE", "IGNORE", "FORCE"]

/-- A new name, behind `AS` or alone; alone it is none of the keywords `stops`. -/
def optionalAlias (stops : List String) : Parser (Option Ident) := do
  let explicit ← keyword "AS"
  match ← ahead with
  | t :: rest =>
    let fits := match t with
      | .word _ key => explicit || !stops.contains key
      | _ => true
    match if fits then identOf t else none with
    | some i =>
      goTo rest
      return some i
    | none =>
      require !explicit
      return none
  | [] =>
    require !explicit
    return none

/-- The text of a relation's new name and of the names of its columns, if it is given any. -/
def tableAlias : Parser String := do
  match ← optionalAlias tableAliasStops with
  | none => return ""
  | some name => return " AS " ++ name.print ++ (← columns)
where
  /-- The columns of the renamed relation, each perhaps with its type. -/
  columns : Parser String := do
    if ← symbol "(" then
      let cs ← commaSeparated do
        let c := (← ident).print
        match ← attempt typeName with
        | some t => return c ++ " " ++ t.text
        | none => return c
      expectSymbol ")"
      return " (" ++ String.intercalate ", " cs ++ ")"
    else
      return ""

/-! ### Single relations -/

/-- A query in parentheses, from behind the opening one on. -/
def derived (g : Grammar) (start : String) : Parser (List Part) := do
  let q ← g.query
  expectSymbol ")"
  return [.text (start ++ "("), .query q, .text (")" ++ (← tableAlias))]

/-- The arguments of a table function, from behind the opening parenthesis on. -/
def tableArguments (g : Grammar) : Parser (List Part) := do
  if ← symbol ")" then return []
  let args ← commaSeparated (argument g)
  expectSymbol ")"
  return commaParts (args.map argumentParts)
where
  /-- An argument as a phrase. -/
  argumentParts : Argument → List Part
    | .positional e => [.expr e]
    | .named p sign e => [.text (p.print ++ " " ++ sign ++ " "), .expr e]
    | .wildcard t => [.text t]

/-- A hint on the indexes of a table. -/
def indexHint : Parser (Option String) := do
  match ← oneOf ["USE", "IGNORE", "FORCE"] with
  | none => return none
  | some kind =>
    let index ← expectOneOf ["INDEX", "KEY"]
    let purpose ← do
      if ← keyword "FOR" then
        if ← keyword "JOIN" then pure "FOR JOIN "
        else if ← keywords ["ORDER", "BY"] then pure "FOR ORDER BY "
        else do
          expectAll ["GROUP", "BY"]
          pure "FOR GROUP BY "
      else pure ""
    expectSymbol "("
    let names ← if ← seesSymbol ")" then pure "" else identsText
    expectSymbol ")"
    return some (kind ++ " " ++ index ++ " " ++ purpose ++ "(" ++ names ++ ")")

/-- The hints on the indexes of a table. -/
def indexHints : Parser String := do
  let hints ← attempt <| loop (fun found => do
    match ← indexHint with
    | some h => return .inl (found ++ " " ++ h)
    | none => return .inr found) ""
  return hints.getD ""

/-- A table or a table function, with its new name and its hints. -/
def table (g : Grammar) : Parser (List Part) := do
  let name ← pathText
  let partitions ←
    if ← keyword "PARTITION" then do
      let names ← parenthesized identsText
      pure ("PARTITION (" ++ names ++ ")")
    else pure ""
  let args ←
    if ← symbol "(" then pure (.text "(" :: (← tableArguments g) ++ [.text ")"]) else pure []
  let ordinality ← keywords ["WITH", "ORDINALITY"]
  let label ← tableAlias
  let hints ← indexHints
  let withHints ←
    match ← ahead with
    | .word _ "WITH" :: .symbol "(" :: rest => do
      goTo rest
      let items ← exprList g
      expectSymbol ")"
      pure (.text " WITH (" :: items ++ [.text ")"])
    | _ => pure []
  return .text (name ++ partitions) :: args ++
    [.text ((if ordinality then " WITH ORDINALITY" else "") ++ label ++ hints)] ++ withHints

/-- A single relation, and whether it is a join in parentheses. -/
def relation (g : Grammar) : Parser (List Part × Bool) := do
  if ← keyword "LATERAL" then
    if ← symbol "(" then return (← derived g "LATERAL ", false)
    let name ← pathText
    expectSymbol "("
    let args ← tableArguments g
    return (.text ("LATERAL " ++ name ++ "(") :: args ++ [.text (")" ++ (← tableAlias))], false)
  else if ← keyword "TABLE" then
    let e ← parenthesized g.expr
    return ([.text "TABLE(", .expr e, .text (")" ++ (← tableAlias))], false)
  else if ← symbol "(" then
    match ← attempt (derived g "") with
    | some parts => return (parts, false)
    | none =>
      let inner ← g.joined
      require (inner.joins || inner.nested)
      expectSymbol ")"
      return (.text "(" :: inner.parts ++ [.text (")" ++ (← tableAlias))], true)
  else
    return (← table g, false)

/-! ### Joins -/

/-- What relates the rows of a joined relation to the ones before it. -/
def joinConstraint (g : Grammar) : Parser (List Part) := do
  if ← keyword "ON" then return [.text " ON ", .expr (← g.expr)]
  else if ← keyword "USING" then
    let columns ← parenthesized (commaSeparated pathText)
    return [.text (" USING(" ++ String.intercalate ", " columns ++ ")")]
  else return []

/-- The words of a join whose rows are related, from its first keyword on; nothing if no join
comes next. -/
def joinWords : Parser (Option String) := do
  if ← keyword "INNER" then
    expect "JOIN"
    return some "INNER JOIN"
  else if ← keyword "JOIN" then return some "JOIN"
  else if ← keyword "FULL" then
    let _ ← keyword "OUTER"
    expect "JOIN"
    return some "FULL JOIN"
  else
    match ← oneOf ["ANTI", "SEMI"] with
    | some k =>
      expect "JOIN"
      return some (k ++ " JOIN")
    | none =>
      match ← oneOf ["LEFT", "RIGHT"] with
      | none => return none
      | some side =>
        match ← oneOf ["OUTER", "SEMI", "ANTI"] with
        | some k =>
          expect "JOIN"
          return some (side ++ " " ++ k ++ " JOIN")
        | none =>
          expect "JOIN"
          return some (side ++ " JOIN")

/-- A join, if one comes next. -/
def join (g : Grammar) : Parser (Option (List Part)) := do
  let start := if ← keyword "GLOBAL" then " GLOBAL" else ""
  if ← keyword "CROSS" then
    let kind ← expectOneOf ["JOIN", "APPLY"]
    return some (.text (start ++ " CROSS " ++ kind ++ " ") :: (← relation g).1)
  else if ← keyword "OUTER" then
    expect "APPLY"
    return some (.text (start ++ " OUTER APPLY ") :: (← relation g).1)
  else
    let natural ← keyword "NATURAL"
    match ← joinWords with
    | none =>
      require !natural
      return none
    | some words =>
      let (right, _) ← relation g
      if natural then
        return some (.text (start ++ " NATURAL " ++ words ++ " ") :: right)
      else
        return some (.text (start ++ " " ++ words ++ " ") :: right ++ (← joinConstraint g))

/-- A relation with the relations joined to it. -/
def joined (g : Grammar) : Parser Joined := do
  let (first, nested) ← relation g
  let joins ← loop (fun found => do
    match ← join g with
    | some parts => return .inl (found ++ parts)
    | none => return .inr found) []
  return ⟨first ++ joins, !joins.isEmpty, nested⟩

/-- The relations of a `FROM` clause. -/
def relations (g : Grammar) : Parser (List Part) := do
  return commaParts ((← commaSeparated g.joined).map (·.parts))

end SemanticQuery.Sql.Parser
