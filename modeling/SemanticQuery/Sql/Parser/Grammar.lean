import SemanticQuery.Sql.Parser.Leaf

/-!
# The recursive forms

Expressions hold queries and queries hold expressions. The parsers of the single forms take the
parsers of the forms inside them from a `Grammar`; the grammar of one more level of nesting is
then built from the grammar of the levels below it.
-/

namespace SemanticQuery.Sql

/-- A relation in a `FROM` clause with the relations joined to it. -/
structure Joined where
  /-- The phrase of the whole. -/
  parts : List Part
  /-- Whether anything is joined to the first relation. -/
  joins : Bool
  /-- Whether the first relation is itself a join in parentheses. -/
  nested : Bool

/-- The parsers of the forms that may stand inside others. -/
structure Grammar where
  /-- An expression whose operators bind tighter than the given power. -/
  subexpr : Nat → Parser Expr
  /-- The core of a query whose set operations bind tighter than the given power. -/
  body : Nat → Parser Body
  /-- A query. -/
  query : Parser Query
  /-- A relation with its joins. -/
  joined : Parser Joined

/-- An expression. -/
def Grammar.expr (g : Grammar) : Parser Expr := g.subexpr 0

/-- The grammar that reads nothing. -/
def Grammar.empty : Grammar where
  subexpr := fun _ => fun _ _ => .error .tooDeep
  body := fun _ => fun _ _ => .error .tooDeep
  query := fun _ _ => .error .tooDeep
  joined := fun _ _ => .error .tooDeep

/-- Phrases with commas between them. -/
def commaParts : List (List Part) → List Part
  | [] => []
  | [p] => p
  | p :: ps => p ++ .text ", " :: commaParts ps

/-- Expressions with commas between them. -/
def exprParts (es : List Expr) : List Part := commaParts (es.map fun e => [.expr e])

namespace Parser

/-- Whether a query in parentheses comes next, seen from behind the opening one. -/
def seesQuery : Parser Bool := seesOneOf ["SELECT", "WITH"]

/-- The phrase of one or more expressions with commas between them. -/
def exprList (g : Grammar) : Parser (List Part) := do
  return exprParts (← commaSeparated g.expr)

/-- An item of an ordering: an expression, its direction and the place of nulls. -/
def orderItem (g : Grammar) : Parser (List Part) := do
  let e ← g.expr
  let direction ← oneOf ["ASC", "DESC"]
  let nulls ← do
    if ← keywords ["NULLS", "FIRST"] then pure " NULLS FIRST"
    else if ← keywords ["NULLS", "LAST"] then pure " NULLS LAST"
    else pure ""
  return [.expr e, .text (((direction.map (" " ++ ·)).getD "") ++ nulls)]

/-- The items of an ordering. -/
def orderItems (g : Grammar) : Parser (List Part) := do
  return commaParts (← commaSeparated (orderItem g))

/-- What stands where a star may stand: all columns, all columns of a relation, or an
expression. -/
inductive Starred where
  | star (text : String)
  | expr (value : Expr)

/-- A star, a star behind the name of a relation, or an expression. -/
def starred (g : Grammar) : Parser Starred := do
  match ← ahead with
  | .symbol "*" :: rest =>
    goTo rest
    return .star "*"
  | start@(t :: .symbol "." :: _) =>
    match t with
    | .word .. | .quoted _ | .single _ =>
      let star ← do
        let first ← ident
        loop (fun found => do
          if ← symbol "." then
            match ← next with
            | some (.symbol "*") => return .inr (some (printPath found.reverse ++ ".*"))
            | some (.double _) => fail
            | some t =>
              match identOf t with
              | some i => return .inl (i :: found)
              | none => fail
            | none => fail
          else
            return .inr none) [first]
      match star with
      | some text => return .star text
      | none =>
        goTo start
        return .expr (← g.expr)
    | _ => return .expr (← g.expr)
  | _ => return .expr (← g.expr)

end Parser

end SemanticQuery.Sql
