import SemanticQuery.Sql.Parser.Command

/-!
# Reading SQL

`Statement.readAll` reads the statements of a text, `Expr.readWhole` a text that is one
expression. Fifty forms may be entered one inside the other; deeper texts are refused.
-/

namespace SemanticQuery.Sql

namespace Parser

/-- How many forms may be entered one inside the other. -/
def maxDepth : Nat := 50

/-- The levels of grammar that reading `ts` can need: a level that enters no counted form reads a
token or is the core of a query that was just counted. -/
def levels (ts : List Token) : Nat := ts.length + 2 * maxDepth + 2

/-- Statements with semicolons between them. Behind a statement the word `END` ends the text. -/
def statements (n : Nat) : Parser (List Statement) :=
  loop (fun (found, needsDelimiter) => do
    if ← symbol ";" then
      return .inl (found, false)
    else if (← ahead).isEmpty then
      return .inr found.reverse
    else if needsDelimiter then
      if ← sees "END" then return .inr found.reverse else fail
    else
      return .inl ((← statement n) :: found, true)) ([], false)

/-- What follows an expression in a text. -/
def wholeExpr (n : Nat) : Parser (Expr × Option Token) := do
  let e ← (grammar n).expr
  return (e, ← peek)

end Parser

/-- The statements of a text. -/
def Statement.readAll (text : String) : Except Fault (List Statement) := do
  let ts ← tokenize text
  let (found, _) ← Parser.statements (Parser.levels ts) Parser.maxDepth ts
  return found

/-- The expression at the head of a text, and the token behind it if the text goes on. -/
def Expr.readWhole (text : String) : Except Fault (Expr × Option Token) := do
  let ts ← tokenize text
  let (found, _) ← Parser.wholeExpr (Parser.levels ts) Parser.maxDepth ts
  return found

end SemanticQuery.Sql
