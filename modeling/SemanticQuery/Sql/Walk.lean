import SemanticQuery.Sql.Tree

/-!
# Walking trees

`subexprs` lists the expressions of a tree, each before the ones inside it. `mapExprs f` replaces
every expression by its image under `f`, the inner ones first. Both reach every expression of
every query inside the tree, whatever form holds it.
-/

namespace SemanticQuery.Sql

/-! ### Walking -/

mutual

/-- The expressions inside an expression. -/
def Expr.inner : Expr → List Expr
  | .name _ => []
  | .path _ => []
  | .literal _ => []
  | .nested inner => inner :: inner.inner
  | .unary _ operand => operand :: operand.inner
  | .binary _ left right => (left :: left.inner) ++ (right :: right.inner)
  | .inList _ subject items => (subject :: subject.inner) ++ exprsSubexprs items
  | .like _ _ subject pattern _ => (subject :: subject.inner) ++ (pattern :: pattern.inner)
  | .between _ subject low high =>
    (subject :: subject.inner) ++ (low :: low.inner) ++ (high :: high.inner)
  | .cast _ subject _ => subject :: subject.inner
  | .trim _ subject removed => (subject :: subject.inner) ++ optionSubexprs removed
  | .call function => function.subexprs
  | .phrase parts => partsSubexprs parts

/-- The expressions of a list of expressions. -/
def exprsSubexprs : List Expr → List Expr
  | [] => []
  | e :: es => (e :: e.inner) ++ exprsSubexprs es

/-- The expressions of an expression that may be missing. -/
def optionSubexprs : Option Expr → List Expr
  | none => []
  | some e => e :: e.inner

/-- The expressions of a call, those of its window before those that order a group. -/
def Call.subexprs : Call → List Expr
  | ⟨_, _, _, arguments, clauses, trailer, group⟩ =>
    argumentsSubexprs arguments ++ partsSubexprs clauses ++ partsSubexprs trailer ++
      partsSubexprs group

/-- The expressions of an argument. -/
def Argument.subexprs : Argument → List Expr
  | .positional value => value :: value.inner
  | .named _ _ value => value :: value.inner
  | .wildcard _ => []

/-- The expressions of arguments. -/
def argumentsSubexprs : List Argument → List Expr
  | [] => []
  | a :: as => a.subexprs ++ argumentsSubexprs as

/-- The expressions of a part of a phrase. -/
def Part.subexprs : Part → List Expr
  | .text _ => []
  | .expr value => value :: value.inner
  | .query value => value.subexprs

/-- The expressions of a phrase. -/
def partsSubexprs : List Part → List Expr
  | [] => []
  | p :: ps => p.subexprs ++ partsSubexprs ps

/-- The expressions of a query. -/
def Query.subexprs : Query → List Expr
  | ⟨opening, body, closing⟩ =>
    partsSubexprs opening ++ body.subexprs ++ partsSubexprs closing

/-- The expressions of a query's core. -/
def Body.subexprs : Body → List Expr
  | .select selection => selection.subexprs
  | .phrase parts => partsSubexprs parts

/-- The expressions of a selection. -/
def Select.subexprs : Select → List Expr
  | ⟨quantifier, projection, source, condition, trailer⟩ =>
    partsSubexprs quantifier ++ itemsSubexprs projection ++ partsSubexprs source ++
      optionSubexprs condition ++ partsSubexprs trailer

/-- The expressions of a projected item. -/
def SelectItem.subexprs : SelectItem → List Expr
  | .wildcard _ => []
  | .expr value _ => value :: value.inner

/-- The expressions of projected items. -/
def itemsSubexprs : List SelectItem → List Expr
  | [] => []
  | i :: is => i.subexprs ++ itemsSubexprs is

end

/-- The expressions of an expression, itself first. -/
def Expr.subexprs (e : Expr) : List Expr := e :: e.inner

/-- The expressions of a statement. -/
def Statement.subexprs : Statement → List Expr
  | .query value => value.subexprs
  | .command parts => partsSubexprs parts

/-! ### Mapping -/

mutual

/-- The expression with `f` applied to every expression in it, the inner ones first. -/
def Expr.mapExprs (f : Expr → Expr) : Expr → Expr
  | .name ident => f (.name ident)
  | .path parts => f (.path parts)
  | .literal value => f (.literal value)
  | .nested inner => f (.nested (inner.mapExprs f))
  | .unary op operand => f (.unary op (operand.mapExprs f))
  | .binary op left right => f (.binary op (left.mapExprs f) (right.mapExprs f))
  | .inList negated subject items =>
    f (.inList negated (subject.mapExprs f) (mapExprsOfList f items))
  | .like negated any subject pattern escape =>
    f (.like negated any (subject.mapExprs f) (pattern.mapExprs f) escape)
  | .between negated subject low high =>
    f (.between negated (subject.mapExprs f) (low.mapExprs f) (high.mapExprs f))
  | .cast form subject target => f (.cast form (subject.mapExprs f) target)
  | .trim side subject removed => f (.trim side (subject.mapExprs f) (mapExprsOfOption f removed))
  | .call function => f (.call (function.mapExprs f))
  | .phrase parts => f (.phrase (mapExprsOfParts f parts))

/-- Maps every expression of a list. -/
def mapExprsOfList (f : Expr → Expr) : List Expr → List Expr
  | [] => []
  | e :: es => e.mapExprs f :: mapExprsOfList f es

/-- Maps an expression that may be missing. -/
def mapExprsOfOption (f : Expr → Expr) : Option Expr → Option Expr
  | none => none
  | some e => some (e.mapExprs f)

/-- Maps the expressions of a call. -/
def Call.mapExprs (f : Expr → Expr) : Call → Call
  | ⟨name, braced, quantifier, arguments, clauses, trailer, group⟩ =>
    ⟨name, braced, quantifier, mapExprsOfArguments f arguments, mapExprsOfParts f clauses,
      mapExprsOfParts f trailer, mapExprsOfParts f group⟩

/-- Maps the expressions of an argument. -/
def Argument.mapExprs (f : Expr → Expr) : Argument → Argument
  | .positional value => .positional (value.mapExprs f)
  | .named parameter sign value => .named parameter sign (value.mapExprs f)
  | .wildcard text => .wildcard text

/-- Maps the expressions of arguments. -/
def mapExprsOfArguments (f : Expr → Expr) : List Argument → List Argument
  | [] => []
  | a :: as => a.mapExprs f :: mapExprsOfArguments f as

/-- Maps the expressions of a part of a phrase. -/
def Part.mapExprs (f : Expr → Expr) : Part → Part
  | .text words => .text words
  | .expr value => .expr (value.mapExprs f)
  | .query value => .query (value.mapExprs f)

/-- Maps the expressions of a phrase. -/
def mapExprsOfParts (f : Expr → Expr) : List Part → List Part
  | [] => []
  | p :: ps => p.mapExprs f :: mapExprsOfParts f ps

/-- Maps the expressions of a query. -/
def Query.mapExprs (f : Expr → Expr) : Query → Query
  | ⟨opening, body, closing⟩ =>
    ⟨mapExprsOfParts f opening, body.mapExprs f, mapExprsOfParts f closing⟩

/-- Maps the expressions of a query's core. -/
def Body.mapExprs (f : Expr → Expr) : Body → Body
  | .select selection => .select (selection.mapExprs f)
  | .phrase parts => .phrase (mapExprsOfParts f parts)

/-- Maps the expressions of a selection. -/
def Select.mapExprs (f : Expr → Expr) : Select → Select
  | ⟨quantifier, projection, source, condition, trailer⟩ =>
    ⟨mapExprsOfParts f quantifier, mapExprsOfItems f projection, mapExprsOfParts f source,
      mapExprsOfOption f condition, mapExprsOfParts f trailer⟩

/-- Maps the expression of a projected item. -/
def SelectItem.mapExprs (f : Expr → Expr) : SelectItem → SelectItem
  | .wildcard text => .wildcard text
  | .expr value label => .expr (value.mapExprs f) label

/-- Maps the expressions of projected items. -/
def mapExprsOfItems (f : Expr → Expr) : List SelectItem → List SelectItem
  | [] => []
  | i :: is => i.mapExprs f :: mapExprsOfItems f is

end

/-- Maps the expressions of a statement. -/
def Statement.mapExprs (f : Expr → Expr) : Statement → Statement
  | .query value => .query (value.mapExprs f)
  | .command parts => .command (mapExprsOfParts f parts)

end SemanticQuery.Sql
