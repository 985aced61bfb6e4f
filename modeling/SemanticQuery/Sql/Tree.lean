/-!
# Syntax trees

The statements, queries and expressions of SQL. A tree names the shapes that corrections look
into: column names, literals, comparisons, lists, calls, and of a query its projection and its
condition. Every other form is a phrase: its canonical words with the expressions and queries in
their places, so that printing, walking and mapping need no case of their own for it.
-/

namespace SemanticQuery.Sql

/-! ### Leaves -/

/-- One part of a name, with the quotes it was written in. -/
structure Ident where
  /-- The name without its quotes. -/
  value : String
  /-- The quote around it, if any. -/
  quote : Option Char := none
  deriving DecidableEq

/-- A bare name. -/
def Ident.bare (value : String) : Ident := { value }

/-- A literal value. -/
inductive Literal where
  /-- A number as it was written; `long` marks a trailing `L`. -/
  | number (digits : String) (long : Bool)
  /-- A string in single quotes. -/
  | single (text : String)
  /-- A string in double quotes. -/
  | double (text : String)
  /-- A national string. -/
  | national (text : String)
  /-- Hexadecimal digits. -/
  | hex (digits : String)
  /-- A byte string. -/
  | bytes (quote : Char) (text : String)
  /-- A truth value. -/
  | boolean (value : Bool)
  /-- The null value. -/
  | null
  /-- A placeholder for a value that is supplied later. -/
  | placeholder (text : String)
  deriving DecidableEq

/-- The operators that compare two values. -/
inductive Comparison where
  | eq | notEq | gt | gtEq | lt | ltEq
  deriving DecidableEq

/-- The spelling of a comparison. -/
def Comparison.symbol : Comparison → String
  | .eq => "="
  | .notEq => "<>"
  | .gt => ">"
  | .gtEq => ">="
  | .lt => "<"
  | .ltEq => "<="

/-- The operators between two expressions. -/
inductive BinaryOp where
  | and
  | or
  | compare (c : Comparison)
  /-- Any other operator, by its spelling. -/
  | other (symbol : String)
  deriving DecidableEq

/-- The spelling of a binary operator. -/
def BinaryOp.symbol : BinaryOp → String
  | .and => "AND"
  | .or => "OR"
  | .compare c => c.symbol
  | .other s => s

/-- The operators before an expression. -/
inductive UnaryOp where
  | plus | minus | not
  deriving DecidableEq

/-- The spelling of a unary operator. -/
def UnaryOp.symbol : UnaryOp → String
  | .plus => "+"
  | .minus => "-"
  | .not => "NOT"

/-- The ways to write the conversion of a value to a type. -/
inductive CastForm where
  /-- A call with one of the conversion keywords. -/
  | call (keyword : String)
  /-- The type behind a double colon. -/
  | colons
  deriving DecidableEq

/-! ### Trees -/

mutual

/-- An expression. -/
inductive Expr where
  /-- A name that stands alone. -/
  | name (ident : Ident)
  /-- A name behind the names that qualify it. -/
  | path (parts : List Ident)
  /-- A literal value. -/
  | literal (value : Literal)
  /-- An expression in parentheses. -/
  | nested (inner : Expr)
  /-- An operator before an expression. -/
  | unary (op : UnaryOp) (operand : Expr)
  /-- An operator between two expressions. -/
  | binary (op : BinaryOp) (left right : Expr)
  /-- Membership in a list of values. -/
  | inList (negated : Bool) (subject : Expr) (items : List Expr)
  /-- Likeness to a pattern; `any` marks the keyword `ANY` before it. -/
  | like (negated any : Bool) (subject pattern : Expr) (escape : Option String)
  /-- Membership in a range. -/
  | between (negated : Bool) (subject low high : Expr)
  /-- Conversion to a type; `target` is what is written behind the subject. -/
  | cast (form : CastForm) (subject : Expr) (target : String)
  /-- A text with the characters at its ends removed; `side` says at which. -/
  | trim (side : Option String) (subject : Expr) (removed : Option Expr)
  /-- A call of a function. -/
  | call (function : Call)
  /-- Any other form. -/
  | phrase (parts : List Part)

/-- A call of a function with a list of arguments. -/
structure Call where
  /-- The name of the function. -/
  name : List Ident
  /-- Whether the call stands in braces behind `fn`. -/
  braced : Bool
  /-- What stands before the arguments: `DISTINCT`, `ALL` or nothing. -/
  quantifier : Option String
  /-- The arguments. -/
  arguments : List Argument
  /-- What stands behind the arguments, inside the parentheses. -/
  clauses : List Part
  /-- The treatment of nulls and the window, which stand last. -/
  trailer : List Part
  /-- The order of the rows of a group, which is written before the trailer. -/
  group : List Part

/-- An argument of a call. -/
inductive Argument where
  /-- An expression. -/
  | positional (value : Expr)
  /-- An expression behind the name of the parameter; `sign` stands between them. -/
  | named (parameter : Ident) (sign : String) (value : Expr)
  /-- All columns, or all columns of a relation. -/
  | wildcard (text : String)

/-- A part of a phrase. -/
inductive Part where
  /-- Canonical words, with the blanks around them. -/
  | text (words : String)
  /-- An expression. -/
  | expr (value : Expr)
  /-- A query. -/
  | query (value : Query)

/-- A query: its core, what opens it (`WITH`) and what closes it (`ORDER BY`, `LIMIT`, …). -/
structure Query where
  opening : List Part
  body : Body
  closing : List Part

/-- The core of a query. -/
inductive Body where
  /-- A plain selection. -/
  | select (selection : Select)
  /-- Any other core: a set operation, listed rows, a query in parentheses. -/
  | phrase (parts : List Part)

/-- A plain selection. -/
structure Select where
  /-- What stands before the projection. -/
  quantifier : List Part
  /-- The projected items. -/
  projection : List SelectItem
  /-- What stands between the projection and the condition. -/
  source : List Part
  /-- The condition on the selected rows. -/
  condition : Option Expr
  /-- What stands behind the condition. -/
  trailer : List Part

/-- An item of a projection. -/
inductive SelectItem where
  /-- All columns, or all columns of a relation. -/
  | wildcard (text : String)
  /-- An expression and the name given to it. -/
  | expr (value : Expr) (label : Option Ident)

end

/-- A statement. -/
inductive Statement where
  /-- A query. -/
  | query (value : Query)
  /-- Any other statement. -/
  | command (parts : List Part)

/-- The statement's selection, where its core is a plain one. -/
def Statement.selection? : Statement → Option Select
  | .query ⟨_, .select s, _⟩ => some s
  | _ => none

/-- The statement with another selection in the place of its plain one. -/
def Statement.withSelection (s : Select) : Statement → Statement
  | .query ⟨opening, .select _, closing⟩ => .query ⟨opening, .select s, closing⟩
  | other => other

end SemanticQuery.Sql
