import SemanticQuery.Sql.Parser.Definition
import SemanticQuery.Sql.Parser.Session

/-!
# Statements

The statements of the language by their first word. Those that are no queries are kept as
phrases.
-/

namespace SemanticQuery.Sql.Parser

/-- The words that open the explanation of a statement or of a table. -/
def explanationWords : List String := ["EXPLAIN", "DESCRIBE", "DESC"]

/-- An explanation, from behind the keyword `word` on; `inner` reads the statement that it
explains. It explains no other explanation. -/
def explanation (word : String) (inner : Parser Statement) : Parser (List Part) := do
  let analyze := if ← keyword "ANALYZE" then "ANALYZE " else ""
  let verbose := if ← keyword "VERBOSE" then "VERBOSE " else ""
  let start := word ++ " " ++ analyze ++ verbose
  let explains ← seesOneOf explanationWords
  match ← attempt inner with
  | some s =>
    require !explains
    match s with
    | .query q => return [.text start, .query q]
    | .command parts => return .text start :: parts
  | none => return [.text (word ++ " " ++ (← pathText))]

/-- The phrase of a command that opens with the keyword `key`, from behind that keyword on. -/
def command (g : Grammar) (inner : Parser Statement) (key : String) : Parser (List Part) :=
  match key with
  | "DELETE" => delete g
  | "UPDATE" => update g
  | "INSERT" => insert g "INSERT"
  | "REPLACE" => insert g "REPLACE"
  | "CREATE" => create g
  | "ALTER" => alter g
  | "DROP" => drop
  | "TRUNCATE" => truncate
  | "RENAME" => renameTables
  | "SET" => setVariables g
  | "SHOW" => showStatement g
  | "USE" => do return [.text ("USE " ++ (← pathText))]
  | "BEGIN" => beginTransaction
  | "START" => startTransaction
  | "COMMIT" => do return [.text ("COMMIT" ++ (← chain))]
  | "END" => do return [.text ("END" ++ (← chain))]
  | "ROLLBACK" => rollback
  | "SAVEPOINT" => do return [.text ("SAVEPOINT " ++ (← ident).print)]
  | "RELEASE" => release
  | "LOCK" => lockTables
  | "UNLOCK" => do
    expect "TABLES"
    return [.text "UNLOCK TABLES"]
  | "CALL" => procedureCall g
  | "KILL" => kill
  | "ANALYZE" => do
    let tableWord := if ← keyword "TABLE" then "TABLE " else ""
    return [.text ("ANALYZE " ++ tableWord ++ (← pathText))]
  | "GRANT" => grant
  | "REVOKE" => revoke
  | "EXPLAIN" | "DESCRIBE" | "DESC" => explanation key inner
  | _ => fail

/-- A statement in a grammar; `inner` reads the statement that an explanation explains. -/
def statementOf (g : Grammar) (inner : Parser Statement) : Parser Statement := do
  match ← ahead with
  | .symbol "(" :: _ => return .query (← g.query)
  | .word _ key :: rest =>
    if ["SELECT", "WITH", "VALUES", "FROM"].contains key then
      return .query (← g.query)
    else
      goTo rest
      return .command (← command g inner key)
  | _ => fail

/-- A statement; `n` bounds the forms inside one another. -/
def statement (n : Nat) : Parser Statement :=
  let g := grammar n
  nest (statementOf g (nest (statementOf g fail)))

end SemanticQuery.Sql.Parser
