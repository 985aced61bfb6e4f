import SemanticQuery.Sql.Parser.Query

/-!
# Definitions

Statements that define, alter and remove tables, views, indexes and databases.
-/

namespace SemanticQuery.Sql.Parser

/-! ### Columns -/

/-- A string in single quotes, printed as such. -/
def quotedString : Parser String := do
  match ← next with
  | some (.single text) => return quoteText '\'' text
  | _ => fail

/-- What happens to a row when the row that it refers to goes or changes. -/
def referenceAction : Parser String := do
  if ← keywords ["SET", "NULL"] then return "SET NULL"
  else if ← keywords ["SET", "DEFAULT"] then return "SET DEFAULT"
  else if ← keywords ["NO", "ACTION"] then return "NO ACTION"
  else expectOneOf ["RESTRICT", "CASCADE"]

/-- The rows referred to, from behind `REFERENCES` on; `blank` stands before the columns. -/
def reference (blank : String) : Parser String := do
  let table ← pathText
  let columns ←
    if ← symbol "(" then do
      let cs ← identsText
      expectSymbol ")"
      pure (blank ++ "(" ++ cs ++ ")")
    else pure ""
  let actions ← loop (fun (onDelete, onUpdate) => do
    if ← keywords ["ON", "DELETE"] then
      require (onDelete == "")
      return .inl (" ON DELETE " ++ (← referenceAction), onUpdate)
    else if ← keywords ["ON", "UPDATE"] then
      require (onUpdate == "")
      return .inl (onDelete, " ON UPDATE " ++ (← referenceAction))
    else
      return .inr (onDelete ++ onUpdate)) ("", "")
  return table ++ columns ++ actions

/-- A property of a column, with the blank before it; nothing if none comes next. -/
def columnProperty (g : Grammar) : Parser (Option (List Part)) := do
  if ← keywords ["CHARACTER", "SET"] then return some [.text (" CHARACTER SET " ++ (← pathText))]
  else if ← keyword "COLLATE" then return some [.text (" COLLATE " ++ (← pathText))]
  else if ← keywords ["NOT", "NULL"] then return some [.text " NOT NULL"]
  else if ← keyword "NULL" then return some [.text " NULL"]
  else if ← keyword "DEFAULT" then return some [.text " DEFAULT ", .expr (← g.expr)]
  else if ← keywords ["PRIMARY", "KEY"] then return some [.text " PRIMARY KEY"]
  else if ← keyword "UNIQUE" then return some [.text " UNIQUE"]
  else if ← keyword "REFERENCES" then return some [.text (" REFERENCES " ++ (← reference " "))]
  else if ← keyword "AUTO_INCREMENT" then return some [.text " AUTO_INCREMENT"]
  else if ← keywords ["ON", "UPDATE"] then return some [.text " ON UPDATE ", .expr (← g.expr)]
  else if ← keyword "COMMENT" then return some [.text (" COMMENT " ++ (← quotedString))]
  else if ← keyword "CHECK" then
    let e ← parenthesized g.expr
    return some [.text " CHECK (", .expr e, .text ")"]
  else return none

/-- The properties of a column, each with the blank before it and perhaps a name. -/
def columnProperties (g : Grammar) : Parser (List Part) := loop (fun found => do
  if ← keyword "CONSTRAINT" then
    let name := (← ident).print
    match ← columnProperty g with
    | some parts => return .inl (found ++ .text (" CONSTRAINT " ++ name) :: parts)
    | none => fail
  else
    match ← columnProperty g with
    | some parts => return .inl (found ++ parts)
    | none => return .inr found) []

/-- A column: its name, its type and its properties. -/
def columnDefinition (g : Grammar) : Parser (List Part) := do
  let name := (← ident).print
  let kind := (← typeName).text
  return .text (name ++ " " ++ kind) :: (← columnProperties g)

/-! ### Constraints -/

/-- The name of an index with a blank before it, unless its columns come next. -/
def indexName : Parser String := do
  if ← seesSymbol "(" then return "" else return " " ++ (← ident).print

/-- A constraint or an index over the columns of a table, if one comes next. -/
def tableConstraint (g : Grammar) : Parser (Option (List Part)) := do
  let name ← if ← keyword "CONSTRAINT" then pure (some (← ident).print) else pure none
  let start := (name.map fun n => "CONSTRAINT " ++ n ++ " ").getD ""
  if ← keyword "UNIQUE" then
    let kind := ((← oneOf ["INDEX", "KEY"]).map (" " ++ ·)).getD ""
    let index ← indexName
    let columns ← parenthesized identsText
    return some [.text (start ++ "UNIQUE" ++ kind ++ index ++ " (" ++ columns ++ ")")]
  else if ← keywords ["PRIMARY", "KEY"] then
    let index ← indexName
    let columns ← parenthesized identsText
    return some [.text (start ++ "PRIMARY KEY" ++ index ++ " (" ++ columns ++ ")")]
  else if ← keywords ["FOREIGN", "KEY"] then
    let columns ← parenthesized identsText
    expect "REFERENCES"
    return some [.text (start ++ "FOREIGN KEY (" ++ columns ++ ") REFERENCES " ++ (← reference ""))]
  else if ← keyword "CHECK" then
    let e ← parenthesized g.expr
    return some [.text (start ++ "CHECK ("), .expr e, .text ")"]
  else if name.isSome then
    fail
  else
    match ← oneOf ["INDEX", "KEY"] with
    | some kind =>
      let index ← indexName
      let columns ← parenthesized identsText
      return some [.text (kind ++ index ++ " (" ++ columns ++ ")")]
    | none => return none

/-! ### Creation -/

/-- The columns of a new table and behind them its constraints, in parentheses. -/
def tableElements (g : Grammar) : Parser (List Part) := do
  if ← symbol "(" then
    if ← symbol ")" then return []
    let elements ← commaSeparated do
      match ← tableConstraint g with
      | some parts => return (parts, true)
      | none => return (← columnDefinition g, false)
    expectSymbol ")"
    let columns := elements.filter (!·.2)
    let constraints := elements.filter (·.2)
    return .text " (" :: commaParts ((columns ++ constraints).map (·.1)) ++ [.text ")"]
  else
    return []

/-- A setting of a new table, behind `keys`. -/
def tableSetting (keys : List String) : Parser String := do
  if ← keywords keys then
    expectSymbol "="
    match ← next with
    | some (.word text _) => return " " ++ String.intercalate " " keys ++ "=" ++ text
    | some (.quoted text) => return " " ++ String.intercalate " " keys ++ "=" ++ text
    | _ => fail
  else
    return ""

/-- A new table, from behind the keyword on. -/
def createTable (g : Grammar) (start : String) : Parser (List Part) := do
  let missing := if ← keywords ["IF", "NOT", "EXISTS"] then "IF NOT EXISTS " else ""
  let name ← pathText
  let like ← if ← keyword "LIKE" then pure (" LIKE " ++ (← pathText)) else pure ""
  let elements ← tableElements g
  let engine ← tableSetting ["ENGINE"]
  let charset ← tableSetting ["DEFAULT", "CHARSET"]
  let collation ← tableSetting ["COLLATE"]
  let source ← do
    if ← keyword "AS" then pure [.text " AS ", .query (← g.query)]
    else if ← sees "SELECT" then pure [.text " AS ", .query (← g.query)]
    else pure []
  let elements :=
    if elements.isEmpty && source.isEmpty && like == "" then [.text " ()"] else elements
  return .text (start ++ "TABLE " ++ missing ++ name) :: elements ++
    .text (like ++ engine ++ charset ++ collation) :: source

/-- A new index, from behind the keyword on. -/
def createIndex (g : Grammar) (start : String) : Parser (List Part) := do
  let missing ← keywords ["IF", "NOT", "EXISTS"]
  let named ← do
    if missing then pure true else pure !(← sees "ON")
  let name ← if named then pure ((← pathText) ++ " ") else pure ""
  expect "ON"
  let table ← pathText
  let columns ← parenthesized (commaSeparated (orderItem g))
  return .text (start ++ "INDEX " ++ (if missing then "IF NOT EXISTS " else "") ++ name ++ "ON " ++
    table ++ "(") :: separated columns ++ [.text ")"]
where
  /-- The columns of an index, which are printed without blanks between them. -/
  separated : List (List Part) → List Part
    | [] => []
    | [c] => c
    | c :: cs => c ++ .text "," :: separated cs

/-- A new view, from behind the keyword on. -/
def createView (g : Grammar) (start : String) : Parser (List Part) := do
  let missing := if ← keywords ["IF", "NOT", "EXISTS"] then "IF NOT EXISTS " else ""
  let name ← pathText
  let columns ←
    if ← symbol "(" then do
      let cs ← identsText
      expectSymbol ")"
      pure (" (" ++ cs ++ ")")
    else pure ""
  expect "AS"
  return [.text (start ++ "VIEW " ++ missing ++ name ++ columns ++ " AS "), .query (← g.query)]

/-- A new table, view, index or database, from behind the keyword on. -/
def create (g : Grammar) : Parser (List Part) := do
  let replace := if ← keywords ["OR", "REPLACE"] then "OR REPLACE " else ""
  let temporary := ((← oneOf ["TEMPORARY", "TEMP"]).map fun _ => "TEMPORARY ").getD ""
  let start := "CREATE " ++ replace ++ temporary
  if ← keyword "TABLE" then createTable g start
  else if ← keyword "VIEW" then createView g start
  else
    require (start == "CREATE ")
    if ← keyword "INDEX" then createIndex g start
    else if ← keywords ["UNIQUE", "INDEX"] then createIndex g (start ++ "UNIQUE ")
    else
      let kind ← expectOneOf ["DATABASE", "SCHEMA"]
      let missing := if ← keywords ["IF", "NOT", "EXISTS"] then "IF NOT EXISTS " else ""
      return [.text ("CREATE " ++ kind ++ " " ++ missing ++ (← pathText))]

/-! ### Alteration -/

/-- The place of a new or moved column, with the blank before it. -/
def columnPlace : Parser String := do
  if ← keyword "FIRST" then return " FIRST"
  else if ← keyword "AFTER" then return " AFTER " ++ (← ident).print
  else return ""

/-- What becomes of the things that depend on a removed one. -/
def dependents : Parser String := do
  return ((← oneOf ["CASCADE", "RESTRICT"]).map (" " ++ ·)).getD ""

/-- The alteration of a column's default or of its admission of nulls. -/
def alterColumn (g : Grammar) : Parser (List Part) := do
  let _ ← keyword "COLUMN"
  let start := "ALTER COLUMN " ++ (← ident).print
  if ← keywords ["SET", "NOT", "NULL"] then return [.text (start ++ " SET NOT NULL")]
  else if ← keywords ["DROP", "NOT", "NULL"] then return [.text (start ++ " DROP NOT NULL")]
  else if ← keywords ["SET", "DEFAULT"] then
    return [.text (start ++ " SET DEFAULT "), .expr (← g.expr)]
  else
    expectAll ["DROP", "DEFAULT"]
    return [.text (start ++ " DROP DEFAULT")]

/-- One alteration of a table. -/
def alteration (g : Grammar) : Parser (List Part) := do
  if ← keyword "ADD" then
    match ← tableConstraint g with
    | some parts => return .text "ADD " :: parts
    | none =>
      let word := if ← keyword "COLUMN" then "COLUMN " else ""
      let column ← columnDefinition g
      return .text ("ADD " ++ word) :: column ++ [.text (← columnPlace)]
  else if ← keyword "RENAME" then
    if ← keyword "TO" then
      return [.text ("RENAME TO " ++ (← pathText))]
    else
      let _ ← keyword "COLUMN"
      let old := (← ident).print
      expect "TO"
      return [.text ("RENAME COLUMN " ++ old ++ " TO " ++ (← ident).print)]
  else if ← keyword "DROP" then
    if ← keywords ["PRIMARY", "KEY"] then
      return [.text "DROP PRIMARY KEY"]
    else if ← keyword "CONSTRAINT" then
      let present := if ← keywords ["IF", "EXISTS"] then "IF EXISTS " else ""
      let name := (← ident).print
      return [.text ("DROP CONSTRAINT " ++ present ++ name ++ (← dependents))]
    else
      let _ ← keyword "COLUMN"
      let present := if ← keywords ["IF", "EXISTS"] then "IF EXISTS " else ""
      let name := (← ident).print
      return [.text ("DROP COLUMN " ++ present ++ name ++ (← dependents))]
  else if ← keyword "CHANGE" then
    let _ ← keyword "COLUMN"
    let old := (← ident).print
    let column ← columnDefinition g
    return .text ("CHANGE COLUMN " ++ old ++ " ") :: column ++ [.text (← columnPlace)]
  else if ← keyword "MODIFY" then
    let _ ← keyword "COLUMN"
    let column ← columnDefinition g
    return .text "MODIFY COLUMN " :: column ++ [.text (← columnPlace)]
  else
    expect "ALTER"
    alterColumn g

/-- The alterations of a table, from behind the keyword on. -/
def alter (g : Grammar) : Parser (List Part) := do
  expect "TABLE"
  let present := if ← keywords ["IF", "EXISTS"] then "IF EXISTS " else ""
  let name ← pathText
  return .text ("ALTER TABLE " ++ present ++ name ++ " ") ::
    commaParts (← commaSeparated (alteration g))

/-- New names for tables, from behind the keyword on. -/
def renameTables : Parser (List Part) := do
  expect "TABLE"
  let changes ← commaSeparated do
    let old ← pathText
    expect "TO"
    return old ++ " TO " ++ (← pathText)
  return [.text ("RENAME TABLE " ++ String.intercalate ", " changes)]

/-! ### Removal -/

/-- The removal of tables and the like, from behind the keyword on. -/
def drop : Parser (List Part) := do
  let temporary := if ← keyword "TEMPORARY" then "TEMPORARY " else ""
  let kind ← expectOneOf ["TABLE", "VIEW", "INDEX", "ROLE", "SCHEMA", "DATABASE", "SEQUENCE",
    "STAGE", "TYPE"]
  let present := if ← keywords ["IF", "EXISTS"] then " IF EXISTS" else ""
  let names ← commaSeparated pathText
  let cascade ← keyword "CASCADE"
  let restrict ← keyword "RESTRICT"
  let purge ← keyword "PURGE"
  require !(cascade && restrict)
  return [.text ("DROP " ++ temporary ++ kind ++ present ++ " " ++ String.intercalate ", " names ++
    (if cascade then " CASCADE" else "") ++ (if restrict then " RESTRICT" else "") ++
    (if purge then " PURGE" else ""))]

/-- The removal of all rows of tables, from behind the keyword on. -/
def truncate : Parser (List Part) := do
  let word := if ← keyword "TABLE" then "TABLE " else ""
  let names ← commaSeparated pathText
  return [.text ("TRUNCATE " ++ word ++ String.intercalate ", " names)]

end SemanticQuery.Sql.Parser
