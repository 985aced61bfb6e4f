import SemanticQuery.Sql.Parser.Query

/-!
# Sessions

Statements that steer a session: its variables, what it shows, its transactions and its locks,
and who may do what.
-/

namespace SemanticQuery.Sql.Parser

/-! ### Variables -/

/-- The scope of a variable, with the blank behind it. -/
def variableScope : Parser String := do
  return ((← oneOf ["SESSION", "GLOBAL", "LOCAL"]).map (· ++ " ")).getD ""

/-- The sign between a variable and its value. -/
def assignmentSign : Parser Unit := do
  if ← symbol "=" then pure () else expect "TO"

/-- The setting of one variable to one value. -/
def variableSetting (g : Grammar) : Parser (List Part) := do
  let scope ← variableScope
  let name ← pathText
  assignmentSign
  return [.text (scope ++ name ++ " = "), .expr (← g.expr)]

/-- Settings of variables with commas between them, or of one variable to several values. -/
def variableSettings (g : Grammar) : Parser (List Part) := do
  let start ← ahead
  match ← attempt (commaSeparated (variableSetting g)) with
  | some settings => return commaParts settings
  | none =>
    goTo start
    let scope ← variableScope
    let name ← pathText
    assignmentSign
    return .text (scope ++ name ++ " = ") :: (← exprList g)

/-- A property of transactions. -/
def transactionMode : Parser (Option String) := do
  if ← keywords ["ISOLATION", "LEVEL"] then
    if ← keywords ["READ", "UNCOMMITTED"] then return some "ISOLATION LEVEL READ UNCOMMITTED"
    else if ← keywords ["READ", "COMMITTED"] then return some "ISOLATION LEVEL READ COMMITTED"
    else if ← keywords ["REPEATABLE", "READ"] then return some "ISOLATION LEVEL REPEATABLE READ"
    else return some ("ISOLATION LEVEL " ++ (← expectOneOf ["SERIALIZABLE", "SNAPSHOT"]))
  else if ← keywords ["READ", "ONLY"] then return some "READ ONLY"
  else if ← keywords ["READ", "WRITE"] then return some "READ WRITE"
  else return none

/-- Properties of transactions; a comma between two of them may be missing. -/
def transactionModes : Parser String := do
  let modes ← loop (fun (found, required) => do
    match ← transactionMode with
    | some mode => return .inl (mode :: found, ← symbol ",")
    | none =>
      require !required
      return .inr found.reverse) ([], false)
  return if modes.isEmpty then "" else " " ++ String.intercalate ", " modes

/-- The setting of variables, from behind the keyword on. -/
def setVariables (g : Grammar) : Parser (List Part) := do
  let start ← ahead
  let _ ← variableScope
  if ← keyword "NAMES" then
    if ← keyword "DEFAULT" then return [.text "SET NAMES DEFAULT"]
    let charset := (← ident).print
    let collation ← if ← keyword "COLLATE" then pure (" COLLATE " ++ (← literalString)) else pure ""
    return [.text ("SET NAMES " ++ charset ++ collation)]
  else if ← keyword "TRANSACTION" then
    return [.text ("SET TRANSACTION" ++ (← transactionModes))]
  else
    goTo start
    return .text "SET " :: (← variableSettings g)

/-! ### What is shown -/

/-- The kinds of things that `SHOW CREATE` shows. -/
def creatableKinds : List String := ["TABLE", "TRIGGER", "FUNCTION", "PROCEDURE", "EVENT", "VIEW"]

/-- Which of the things are shown: those like a pattern, or those that meet a condition. -/
def showFilter (g : Grammar) : Parser (List Part) := do
  if ← keyword "LIKE" then
    return [.text (" LIKE " ++ quoteText '\'' (← literalString))]
  else exprClause g "WHERE"

/-- Where the things that are shown are from. -/
def showOrigin : Parser String := do
  match ← oneOf ["FROM", "IN"] with
  | none => return ""
  | some word =>
    let name ← pathText
    match ← oneOf ["FROM", "IN"] with
    | none => return " " ++ word ++ " " ++ name
    | some _ => return " " ++ word ++ " " ++ (← ident).print ++ "." ++ name

/-- The words up to an equality sign or the end of the text, each with the blank before it; other
tokens among them are passed over. -/
def remainingWords : Parser String := do
  loop (fun found => do
    match ← ahead with
    | [] => return .inr found
    | t :: rest =>
      if t.isSymbol "=" then
        return .inr found
      else
        goTo rest
        match t with
        | .word text _ => return .inl (found ++ " " ++ text)
        | .quoted text => return .inl (found ++ " " ++ Ident.print ⟨text, some '`'⟩)
        | _ => return .inl found) ""

/-- What a statement shows, from behind the keyword on. -/
def showStatement (g : Grammar) : Parser (List Part) := do
  let extended := if ← keyword "EXTENDED" then "EXTENDED " else ""
  let full := if ← keyword "FULL" then "FULL " else ""
  let session := if ← keyword "SESSION" then "SESSION " else ""
  let whole := if ← keyword "GLOBAL" then "GLOBAL " else ""
  match ← oneOf ["COLUMNS", "FIELDS"] with
  | some _ => filtered g ("SHOW " ++ extended ++ full ++ "COLUMNS")
  | none =>
    if ← keyword "TABLES" then filtered g ("SHOW " ++ extended ++ full ++ "TABLES")
    else if ← keyword "VIEWS" then filtered g "SHOW VIEWS"
    else if ← keyword "FUNCTIONS" then return .text "SHOW FUNCTIONS" :: (← showFilter g)
    else
      require (extended ++ full == "")
      if ← keyword "CREATE" then
        let kind ← expectOneOf creatableKinds
        return [.text ("SHOW CREATE " ++ kind ++ " " ++ (← pathText))]
      else if ← keyword "COLLATION" then return .text "SHOW COLLATION" :: (← showFilter g)
      else
        match ← oneOf ["VARIABLES", "STATUS"] with
        | some word => return .text ("SHOW " ++ whole ++ session ++ word) :: (← showFilter g)
        | none =>
          match ← oneOf ["DATABASES", "SCHEMAS"] with
          | some word => filtered g ("SHOW " ++ word)
          | none => return [.text ("SHOW" ++ (← remainingWords))]
where
  /-- The shown things `what`, where they are from and which of them are shown. -/
  filtered (g : Grammar) (what : String) : Parser (List Part) := do
    let origin ← showOrigin
    return .text (what ++ origin) :: (← showFilter g)

/-! ### Transactions -/

/-- Whether a new transaction follows the one that ends. -/
def chain : Parser String := do
  let _ ← oneOf ["TRANSACTION", "WORK"]
  if ← keyword "AND" then
    let no ← keyword "NO"
    expect "CHAIN"
    return if no then "" else " AND CHAIN"
  else
    return ""

/-- The start of a transaction, from behind `BEGIN` on. -/
def beginTransaction : Parser (List Part) := do
  let kind := ((← oneOf ["TRANSACTION", "WORK"]).map (" " ++ ·)).getD ""
  return [.text ("BEGIN" ++ kind ++ (← transactionModes))]

/-- The start of a transaction, from behind `START` on. -/
def startTransaction : Parser (List Part) := do
  expect "TRANSACTION"
  return [.text ("START TRANSACTION" ++ (← transactionModes))]

/-- The end of a transaction whose changes are dropped, from behind the keyword on. -/
def rollback : Parser (List Part) := do
  let next ← chain
  let point ←
    if ← keyword "TO" then do
      let _ ← keyword "SAVEPOINT"
      pure (" TO SAVEPOINT " ++ (← ident).print)
    else pure ""
  return [.text ("ROLLBACK" ++ next ++ point)]

/-- The end of a point to go back to, from behind the keyword on. -/
def release : Parser (List Part) := do
  let _ ← keyword "SAVEPOINT"
  return [.text ("RELEASE SAVEPOINT " ++ (← ident).print)]

/-! ### Locks, calls and rights -/

/-- Locks on tables, from behind the keyword on. -/
def lockTables : Parser (List Part) := do
  expect "TABLES"
  let locks ← commaSeparated do
    let name := (← ident).print
    let label ← optionalAlias ["READ", "WRITE", "LOW_PRIORITY"]
    let start := name ++ " " ++ ((label.map fun a => "AS " ++ a.print ++ " ").getD "")
    if ← keyword "READ" then return start ++ (if ← keyword "LOCAL" then "READ LOCAL" else "READ")
    else if ← keyword "WRITE" then return start ++ "WRITE"
    else
      expectAll ["LOW_PRIORITY", "WRITE"]
      return start ++ "LOW_PRIORITY WRITE"
  return [.text ("LOCK TABLES " ++ String.intercalate ", " locks)]

/-- The call of a procedure, from behind the keyword on. -/
def procedureCall (g : Grammar) : Parser (List Part) := do
  let name ← path
  if ← seesSymbol "(" then
    return [.text "CALL ", .expr (.call (← callOf g (interval g) name false))]
  else
    return [.text ("CALL " ++ printPath name)]

/-- The end of another session, from behind the keyword on. -/
def kill : Parser (List Part) := do
  let what := ((← oneOf ["CONNECTION", "QUERY"]).map (· ++ " ")).getD ""
  return [.text ("KILL " ++ what ++ toString (← unsigned))]

/-- The rights that may be given and taken. -/
def rights : List String :=
  ["CONNECT", "CREATE", "DELETE", "DROP", "EXECUTE", "INSERT", "REFERENCES", "SELECT", "TEMPORARY",
   "TRIGGER", "TRUNCATE", "UPDATE", "USAGE"]

/-- Rights and what they hold for. -/
def grantedRights : Parser String := do
  let what ←
    if ← keyword "ALL" then
      pure (if ← keyword "PRIVILEGES" then "ALL PRIVILEGES" else "ALL")
    else do
      let found ← commaSeparated do
        let right ← expectOneOf rights
        if ← symbol "(" then
          let columns ← identsText
          expectSymbol ")"
          return right ++ " (" ++ columns ++ ")"
        else
          return right
      pure (String.intercalate ", " found)
  expect "ON"
  let kind ←
    match ← oneOf ["SCHEMA", "SEQUENCE", "TABLE"] with
    | some "TABLE" => pure ""
    | some word => pure (word ++ " ")
    | none => pure ""
  return what ++ " ON " ++ kind ++ String.intercalate ", " (← commaSeparated pathText)

/-- Rights that are given, from behind the keyword on. -/
def grant : Parser (List Part) := do
  let what ← grantedRights
  expect "TO"
  let names ← commaSeparated pathText
  let passed := if ← keywords ["WITH", "GRANT", "OPTION"] then " WITH GRANT OPTION" else ""
  return [.text ("GRANT " ++ what ++ " TO " ++ String.intercalate ", " names ++ passed)]

/-- Rights that are taken, from behind the keyword on. -/
def revoke : Parser (List Part) := do
  let what ← grantedRights
  expect "FROM"
  let names ← commaSeparated pathText
  let others := ((← oneOf ["CASCADE", "RESTRICT"]).map (" " ++ ·)).getD ""
  return [.text ("REVOKE " ++ what ++ " FROM " ++ String.intercalate ", " names ++ others)]

end SemanticQuery.Sql.Parser
