import SemanticQuery.Sql.Parser.Grammar

/-!
# Calls

A call of a function: its arguments, the clauses behind them inside the parentheses, and what may
stand behind the call, such as the window that it ranges over.
-/

namespace SemanticQuery.Sql.Parser

/-! ### Arguments -/

/-- A star or an expression as an argument. -/
def Starred.toArgument : Starred → Argument
  | .star text => .wildcard text
  | .expr value => .positional value

/-- A star or an expression as the argument for a parameter. -/
def Starred.toNamed (parameter : Ident) (sign : String) : Starred → Argument
  | .star text => .wildcard (parameter.print ++ " " ++ sign ++ " " ++ text)
  | .expr value => .named parameter sign value

/-- The sign between the name of a parameter and its argument. -/
def namedSign : Parser String := do
  if ← keyword "VALUE" then return "VALUE"
  expectSymbol "=>"
  return "=>"

/-- An argument of a call. -/
def argument (g : Grammar) : Parser Argument := do
  let named ← attempt do
    let parameter ← ident
    let sign ← namedSign
    return (← starred g).toNamed parameter sign
  match named with
  | some a => return a
  | none => return (← starred g).toArgument

/-- What is done with nulls when an object is built from arguments. -/
def nullClause : Parser (List (List Part)) := do
  if ← keywords ["ABSENT", "ON", "NULL"] then return [[.text "ABSENT ON NULL"]]
  else if ← keywords ["NULL", "ON", "NULL"] then return [[.text "NULL ON NULL"]]
  else return []

/-- Clauses with blanks between them. -/
def spaced : List (List Part) → List Part
  | [] => []
  | [c] => c
  | c :: cs => c ++ .text " " :: spaced cs

/-- The arguments of a call up to the closing parenthesis: what stands before them, they
themselves, and the clauses behind them. -/
def argumentList (g : Grammar) : Parser (Option String × List Argument × List Part) := do
  let opening ← nullClause
  if ← symbol ")" then
    return (none, [], spaced opening)
  let all ← keyword "ALL"
  let distinct ← keyword "DISTINCT"
  require !(all && distinct)
  let quantifier := if all then some "ALL" else if distinct then some "DISTINCT" else none
  let args ← commaSeparated (argument g)
  let order ←
    if ← keywords ["ORDER", "BY"] then pure [.text "ORDER BY " :: (← orderItems g)] else pure []
  let limit ←
    if ← keyword "LIMIT" then pure [[.text "LIMIT ", .expr (← g.expr)]] else pure []
  let separator ←
    if ← keyword "SEPARATOR" then pure [[.text ("SEPARATOR " ++ (← literal).print)]] else pure []
  let closing ← nullClause
  expectSymbol ")"
  return (quantifier, args, spaced (opening ++ order ++ limit ++ separator ++ closing))

/-! ### Windows -/

/-- A bound of the rows that a window holds. -/
def frameBound (g : Grammar) (interval : Parser Expr) : Parser (List Part) := do
  if ← keywords ["CURRENT", "ROW"] then
    return [.text "CURRENT ROW"]
  let rows ←
    if ← keyword "UNBOUNDED" then pure [.text "UNBOUNDED"]
    else
      match ← peek with
      | some (.single _) => pure [.expr (← interval)]
      | _ => pure [.expr (← g.expr)]
  let side ← expectOneOf ["PRECEDING", "FOLLOWING"]
  return rows ++ [.text (" " ++ side)]

/-- The rows that a window holds. -/
def frame (g : Grammar) (interval : Parser Expr) : Parser (List Part) := do
  let unit ← expectOneOf ["ROWS", "RANGE", "GROUPS"]
  if ← keyword "BETWEEN" then
    let first ← frameBound g interval
    expect "AND"
    let last ← frameBound g interval
    return .text (unit ++ " BETWEEN ") :: first ++ .text " AND " :: last
  else
    return .text (unit ++ " ") :: (← frameBound g interval)

/-- The words that cannot name the window that another one builds on. -/
def windowWords : List String := ["PARTITION", "ORDER", "ROWS", "RANGE", "GROUPS"]

/-- A window up to its closing parenthesis. -/
def window (g : Grammar) (interval : Parser Expr) : Parser (List Part) := do
  let base ←
    match ← peek with
    | some (.word text key) =>
      if windowWords.contains key then pure []
      else do
        let _ ← next
        pure [[.text text]]
    | some (.quoted text) => do
      let _ ← next
      pure [[.text (Ident.print ⟨text, some '`'⟩)]]
    | _ => pure []
  let partition ←
    if ← keywords ["PARTITION", "BY"] then pure [.text "PARTITION BY " :: (← exprList g)]
    else pure []
  let order ←
    if ← keywords ["ORDER", "BY"] then pure [.text "ORDER BY " :: (← orderItems g)] else pure []
  let rows ←
    if ← symbol ")" then pure []
    else do
      let f ← frame g interval
      expectSymbol ")"
      pure [f]
  return spaced (base ++ partition ++ order ++ rows)

/-! ### The call -/

/-- A call of the function `name`, from its opening parenthesis on. -/
def callOf (g : Grammar) (interval : Parser Expr) (name : List Ident) (braced : Bool) :
    Parser Call := do
  expectSymbol "("
  let (quantifier, args, clauses) ← argumentList g
  let group ←
    if ← keywords ["WITHIN", "GROUP"] then do
      expectSymbol "("
      expectAll ["ORDER", "BY"]
      let items ← orderItems g
      expectSymbol ")"
      pure (.text " WITHIN GROUP (ORDER BY " :: items ++ [.text ")"])
    else pure []
  let nulls ←
    match ← oneOf ["RESPECT", "IGNORE"] with
    | some k => do
      expect "NULLS"
      pure [.text (" " ++ k ++ " NULLS")]
    | none => pure []
  let window ←
    if ← keyword "OVER" then
      if ← symbol "(" then pure (.text " OVER (" :: (← window g interval) ++ [.text ")"])
      else pure [.text (" OVER " ++ (← ident).print)]
    else pure []
  return ⟨name, braced, quantifier, args, clauses, nulls ++ window, group⟩

end SemanticQuery.Sql.Parser
