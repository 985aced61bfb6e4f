import SemanticQuery.Proofs.Sql.Plain.Spelling
import SemanticQuery.Sql.Parser

/-!
# Plain statements

The forms of selections that most queries keep to: names, decimal numbers, strings, operators,
tests, calls with windows, choices, casts, joined tables, queries in parentheses, queries with a
name, unions, and the clauses of a selection. Each relation puts a tree beside the tokens that write
it. It does so by the rules of the reader: the operands of an operator hold no operator that binds
less tightly, and no name is a word that opens a form.
-/

namespace SemanticQuery.Sql.Plain

/-! ### Words -/

/-- The token of a keyword in capitals. -/
def key (text : String) : Token := .word text text

/-- The keywords of the forms. -/
def keywords : List String :=
  ["WITH", "RECURSIVE", "SELECT", "DISTINCT", "FROM", "WHERE", "GROUP", "BY", "HAVING", "ORDER",
   "ASC", "DESC", "LIMIT", "OFFSET", "AS", "ON", "JOIN", "INNER", "LEFT", "RIGHT", "OUTER", "FULL",
   "CROSS", "AND", "OR", "NOT", "IN", "LIKE", "BETWEEN", "IS", "NULL", "TRUE", "FALSE", "UNKNOWN",
   "EXISTS", "CASE", "WHEN", "THEN", "ELSE", "END", "CAST", "OVER", "PARTITION", "UNION", "ALL",
   "EXCEPT", "INTERVAL"]

/-- The words that open no expression but another form. -/
def openers : List String :=
  ["SELECT", "WITH", "VALUES", "TABLE", "LATERAL", "UNNEST", "ALL", "DISTINCT", "TOP", "ANY",
   "SOME", "ABSENT", "VALUE", "WHEN", "ON"]

/-- The words that are no names: those that open a form, and types that may carry a size. -/
def reserved : List String :=
  openers ++
  ["TRUE", "FALSE", "NULL", "NOT", "EXISTS", "CASE", "CONVERT", "CAST", "TRY_CAST", "SAFE_CAST",
   "EXTRACT", "CEIL", "FLOOR", "POSITION", "SUBSTRING", "OVERLAY", "TRIM", "INTERVAL", "STRUCT",
   "ARRAY", "MATCH", "RECURSIVE", "CURRENT_TIMESTAMP", "CURRENT_TIME", "CURRENT_DATE", "LOCALTIME",
   "LOCALTIMESTAMP", "DOUBLE", "VARCHAR", "NVARCHAR", "VARBINARY", "CHARACTER", "CHAR", "BIT",
   "TIMESTAMP", "TIME", "TIMESTAMPTZ", "TIMETZ", "ENUM", "SET"] ++
  Parser.sizedTypes ++ Parser.wholeTypes ++ Parser.exactTypes

/-- A name and its token. -/
inductive IsIdent : Ident → Token → Prop
  | bare {text : String} : Lexer.IsBareWord text → IsIdent ⟨text, none⟩ (.ofWord text)
  | ticked {text : String} : '\x60' ∉ text.toList → IsIdent ⟨text, some '\x60'⟩ (.quoted text)

/-- A name that stands for a column, a function or a table wherever it stands. -/
structure IsName (i : Ident) (t : Token) : Prop where
  isIdent : IsIdent i t
  free : ∀ text key, t = .word text key → key ∉ reserved
  notFrom : i.quote = none → Text.lower i.value ≠ "from"

lemma isName_bare {text : String} (hword : Lexer.IsBareWord text)
    (hfree : Text.upper text ∉ reserved) (hfrom : Text.lower text ≠ "from") :
    IsName ⟨text, none⟩ (.ofWord text) where
  isIdent := .bare hword
  free := by
    rintro _ _ ⟨⟩
    exact hfree
  notFrom _ := hfrom

/-- Names with points between them. -/
inductive IsDotted : List Ident → List Token → Prop
  | single {i t} : IsIdent i t → IsDotted [i] [t]
  | cons {i t is ts} : IsIdent i t → IsDotted is ts → IsDotted (i :: is) (t :: .symbol "." :: ts)

lemma IsDotted.ne_nil {is : List Ident} {ts : List Token} (h : IsDotted is ts) : is ≠ [] := by
  cases h <;> exact List.cons_ne_nil _ _

/-- A literal value. -/
inductive IsLiteral : Literal → Token → Prop
  | number {digits : String} :
    Lexer.IsDecimal digits → IsLiteral (.number digits false) (.number digits false)
  | single (text : String) : IsLiteral (.single text) (.single text)
  | double (text : String) : IsLiteral (.double text) (.double text)
  | boolTrue : IsLiteral (.boolean true) (.word "true" "TRUE")
  | boolFalse : IsLiteral (.boolean false) (.word "false" "FALSE")
  | null : IsLiteral .null (key "NULL")

/-- Whether an expression is a value or a column that may stand in a list of members. -/
def isMember : Expr → Bool
  | .literal _ | .name _ | .unary _ (.literal _) => true
  | _ => false

/-! ### Lists -/

/-- One or more things with commas between them. -/
inductive Listed {α : Type} (R : α → List Token → Prop) : List α → List Token → Prop
  | single {a ts} : R a ts → Listed R [a] ts
  | cons {a ts as us} :
    R a ts → Listed R as us → Listed R (a :: as) (ts ++ .symbol "," :: us)

/-- Phrases with commas between them. -/
inductive IsList (R : List Part → List Token → Prop) : List Part → List Token → Prop
  | of_listed {pss ts} : Listed R pss ts → IsList R (commaParts pss) ts

/-- A clause that may be missing; `text` is what it begins with. -/
inductive IsClause (text : String) (keys : List String) (R : List Part → List Token → Prop) :
    List Part → List Token → Prop
  | absent : IsClause text keys R [] []
  | present {ps ts} : R ps ts → IsClause text keys R (.text text :: ps) (keys.map key ++ ts)

/-! ### Forms inside others -/

/-- What may stand inside other forms. -/
structure Forms where
  /-- An expression whose operators bind tighter than the first power, before an operator that
  binds at most as tightly as the second. -/
  expr : Nat → Nat → Expr → List Token → Prop
  /-- An expression that is no operator's. -/
  term : Expr → List Token → Prop
  /-- A query. -/
  query : Query → List Token → Prop
  expr_of_term : ∀ {p q e ts}, term e ts → expr p q e ts

section

variable (F : Forms)

/-- An expression as a phrase. -/
inductive IsExprPart : List Part → List Token → Prop
  | of_expr {e ts} : F.expr 0 0 e ts → IsExprPart [.expr e] ts

/-- An item of an ordering. -/
inductive IsOrderItem : List Part → List Token → Prop
  | plain {e ts} : F.expr 0 0 e ts → IsOrderItem [.expr e, .text ""] ts
  | asc {e ts} : F.expr 0 0 e ts → IsOrderItem [.expr e, .text " ASC"] (ts ++ [key "ASC"])
  | desc {e ts} : F.expr 0 0 e ts → IsOrderItem [.expr e, .text " DESC"] (ts ++ [key "DESC"])

/-! ### Calls -/

/-- An argument of a call. -/
inductive IsArgument : Argument → List Token → Prop
  | positional {e ts} : F.expr 0 0 e ts → IsArgument (.positional e) ts
  | wildcard : IsArgument (.wildcard "*") [.symbol "*"]

/-- The arguments of a call with the quantifier before them. -/
inductive IsArguments : Option String → List Argument → List Token → Prop
  | none : IsArguments none [] []
  | all {as ts} : Listed (IsArgument F) as ts → IsArguments none as ts
  | distinct {as ts} : Listed (IsArgument F) as ts →
    IsArguments (some "DISTINCT") as (key "DISTINCT" :: ts)

/-- The rows that a call ranges over, by what they have in common and by their order. -/
inductive IsWindow : List Part → List Token → Prop
  | all : IsWindow [] []
  | partition {ps ts} : IsList (IsExprPart F) ps ts →
    IsWindow (.text "PARTITION BY " :: ps) (key "PARTITION" :: key "BY" :: ts)
  | order {ps ts} : IsList (IsOrderItem F) ps ts →
    IsWindow (.text "ORDER BY " :: ps) (key "ORDER" :: key "BY" :: ts)
  | ordered {ps ts qs us} : IsList (IsExprPart F) ps ts → IsList (IsOrderItem F) qs us →
    IsWindow (.text "PARTITION BY " :: ps ++ .text " " :: .text "ORDER BY " :: qs)
      (key "PARTITION" :: key "BY" :: ts ++ key "ORDER" :: key "BY" :: us)

/-- What stands behind the arguments of a call. -/
inductive IsTrailer : List Part → List Token → Prop
  | none : IsTrailer [] []
  | windowed {ps ts} : IsWindow F ps ts →
    IsTrailer (.text " OVER (" :: ps ++ [.text ")"])
      (key "OVER" :: .symbol "(" :: ts ++ [.symbol ")"])

/-! ### Terms -/

/-- The expression of one or more names. -/
def column : List Ident → Expr
  | [i] => .name i
  | is => .path is

/-- The types that a value is cast to. -/
def castTypes : List String :=
  ["CHAR", "TEXT", "INT", "INTEGER", "BIGINT", "FLOAT", "DOUBLE", "DECIMAL", "DATE", "DATETIME",
   "TIME", "BOOLEAN"]

/-- The units that an interval is measured in. -/
def spanUnits : List String := ["YEAR", "QUARTER", "MONTH", "WEEK", "DAY", "HOUR", "MINUTE"]

/-- One or more conditions with the values that stand for them. -/
inductive IsBranches : List Part → List Token → Prop
  | single {e ts value us} : F.expr 0 0 e ts → F.expr 0 0 value us →
    IsBranches [.text " WHEN ", .expr e, .text " THEN ", .expr value]
      (key "WHEN" :: ts ++ key "THEN" :: us)
  | cons {e ts value us ps vs} : F.expr 0 0 e ts → F.expr 0 0 value us → IsBranches ps vs →
    IsBranches (.text " WHEN " :: .expr e :: .text " THEN " :: .expr value :: ps)
      (key "WHEN" :: ts ++ key "THEN" :: us ++ vs)

/-- What operators join. -/
inductive IsTerm : Expr → List Token → Prop
  | name {i t} : IsName i t → IsTerm (.name i) [t]
  | path {i t is ts} : IsName i t → IsDotted is ts → F.term (column is) ts →
    IsTerm (.path (i :: is)) (t :: .symbol "." :: ts)
  | literal {v t} : IsLiteral v t → IsTerm (.literal v) [t]
  | nested {e ts} : F.expr 0 0 e ts → IsTerm (.nested e) (.symbol "(" :: ts ++ [.symbol ")"])
  | subquery {x ts} : F.query x ts →
    IsTerm (.phrase [.text "(", .query x, .text ")"]) (.symbol "(" :: ts ++ [.symbol ")"])
  | call {i t quantifier as ts trailer us} : IsName i t → IsArguments F quantifier as ts →
    IsTrailer F trailer us →
    IsTerm (.call ⟨[i], false, quantifier, as, [], trailer, []⟩)
      (t :: .symbol "(" :: ts ++ .symbol ")" :: us)
  | cast {e ts type} : F.expr 0 0 e ts → type ∈ castTypes →
    IsTerm (.cast (.call "CAST") e type)
      (key "CAST" :: .symbol "(" :: ts ++ [key "AS", key type, .symbol ")"])
  | interval {e ts unit} : F.expr 0 0 e ts → unit ∈ spanUnits →
    IsTerm (.phrase [.text "INTERVAL ", .expr e, .text (" " ++ unit), .text ""])
      (key "INTERVAL" :: ts ++ [key unit])
  | choice {operand ts branches us otherwise vs} : IsClause " " [] (IsExprPart F) operand ts →
    IsBranches F branches us → IsClause " ELSE " ["ELSE"] (IsExprPart F) otherwise vs →
    IsTerm (.phrase (.text "CASE" :: operand ++ branches ++ otherwise ++ [.text " END"]))
      (key "CASE" :: ts ++ us ++ vs ++ [key "END"])

/-! ### Relations -/

/-- The new name of a relation, if it has one. -/
inductive IsAlias : String → List Token → Prop
  | none : IsAlias "" []
  | some {i t} : IsIdent i t → IsAlias (" AS " ++ i.print) [key "AS", t]

/-- A table or a query in parentheses. -/
inductive IsRelation : List Part → List Token → Prop
  | table {i t label us} : IsName i t → IsAlias label us →
    IsRelation [.text (printPath [i]), .text label] (t :: us)
  | qualified {i t is ts label us} : IsName i t → IsDotted is ts → IsAlias label us →
    IsRelation [.text (printPath (i :: is)), .text label] (t :: .symbol "." :: ts ++ us)
  | derived {x ts label us} : F.query x ts → IsAlias label us →
    IsRelation [.text "(", .query x, .text (")" ++ label)]
      (.symbol "(" :: ts ++ .symbol ")" :: us)

/-- The joins whose rows are related by a condition. -/
def joinForms : List (String × List String) :=
  [(" JOIN ", ["JOIN"]), (" INNER JOIN ", ["INNER", "JOIN"]), (" LEFT JOIN ", ["LEFT", "JOIN"]),
   (" RIGHT JOIN ", ["RIGHT", "JOIN"]), (" LEFT OUTER JOIN ", ["LEFT", "OUTER", "JOIN"]),
   (" RIGHT OUTER JOIN ", ["RIGHT", "OUTER", "JOIN"]), (" FULL JOIN ", ["FULL", "JOIN"])]

/-- Relations joined to one before them. -/
inductive IsJoins : List Part → List Token → Prop
  | nil : IsJoins [] []
  | on {form right ts e us ps vs} : form ∈ joinForms → IsRelation F right ts → F.expr 0 0 e us →
    IsJoins ps vs →
    IsJoins (.text form.1 :: right ++ .text " ON " :: .expr e :: ps)
      (form.2.map key ++ ts ++ key "ON" :: us ++ vs)
  | cross {right ts ps vs} : IsRelation F right ts → IsJoins ps vs →
    IsJoins (.text " CROSS JOIN " :: right ++ ps) (key "CROSS" :: key "JOIN" :: ts ++ vs)

/-- A relation with the relations joined to it. -/
inductive IsJoined : List Part → List Token → Prop
  | of_relation {first ts joins us} : IsRelation F first ts → IsJoins F joins us →
    IsJoined (first ++ joins) (ts ++ us)

/-! ### Selections -/

/-- A projected item. -/
inductive IsItem : SelectItem → List Token → Prop
  | wildcard : IsItem (.wildcard "*") [.symbol "*"]
  | expr {e ts} : F.expr 0 0 e ts → IsItem (.expr e none) ts
  | labelled {e ts i t} : F.expr 0 0 e ts → IsIdent i t →
    IsItem (.expr e (some i)) (ts ++ [key "AS", t])

/-- What stands before the projected items. -/
inductive IsQuantifier : List Part → List Token → Prop
  | none : IsQuantifier [] []
  | distinct : IsQuantifier [.text "DISTINCT "] [key "DISTINCT"]

/-- The condition of a selection, if it has one. -/
inductive IsCondition : Option Expr → List Token → Prop
  | none : IsCondition none []
  | some {e ts} : F.expr 0 0 e ts → IsCondition (some e) (key "WHERE" :: ts)

/-- A selection. -/
inductive IsSelection : Select → List Token → Prop
  | mk {quantifier ts items us source vs condition ws group xs having ys} :
    IsQuantifier quantifier ts → Listed (IsItem F) items us →
    IsClause " FROM " ["FROM"] (IsList (IsJoined F)) source vs → IsCondition F condition ws →
    IsClause " GROUP BY " ["GROUP", "BY"] (IsList (IsExprPart F)) group xs →
    IsClause " HAVING " ["HAVING"] (IsExprPart F) having ys →
    IsSelection ⟨quantifier, items, source, condition, group ++ having⟩
      (key "SELECT" :: ts ++ us ++ vs ++ ws ++ xs ++ ys)

/-- The operations between selections, none of which binds tighter than another. -/
def setForms : List (String × List String) :=
  [(" UNION ", ["UNION"]), (" UNION ALL ", ["UNION", "ALL"]),
   (" UNION DISTINCT ", ["UNION", "DISTINCT"]), (" EXCEPT ", ["EXCEPT"])]

/-- The core of a query. -/
inductive IsBody : Body → List Token → Prop
  | select {s ts} : IsSelection F s ts → IsBody (.select s) ts
  | combined {form left ts s us} : form ∈ setForms → IsBody left ts → IsSelection F s us →
    IsBody (.phrase [.query ⟨[], left, []⟩, .text form.1, .query ⟨[], .select s, []⟩])
      (ts ++ form.2.map key ++ us)

/-! ### Operators -/

/-- The operators between two expressions, how tightly they bind, and their tokens. -/
def operators : List (BinaryOp × Nat × Token) :=
  [(.or, Power.or, key "OR"), (.and, Power.and, key "AND"),
   (.compare .eq, Power.compare, .symbol "="), (.compare .notEq, Power.compare, .symbol "<>"),
   (.compare .gt, Power.compare, .symbol ">"), (.compare .gtEq, Power.compare, .symbol ">="),
   (.compare .lt, Power.compare, .symbol "<"), (.compare .ltEq, Power.compare, .symbol "<="),
   (.other "+", Power.add, .symbol "+"), (.other "-", Power.add, .symbol "-"),
   (.other "*", Power.multiply, .symbol "*"), (.other "/", Power.multiply, .symbol "/"),
   (.other "%", Power.multiply, .symbol "%"), (.other "||", Power.multiply, .symbol "||")]

/-- The token of a negated test, if it is negated. -/
def negationTokens (negated : Bool) : List Token := if negated then [key "NOT"] else []

/-- What an operator of a power makes of the expression `left` before it. Behind it stands an
operator that binds at most as tightly as `q`. -/
inductive IsTail (q : Nat) (left : Expr) : Nat → Expr → List Token → Prop
  | binary {op power t right ts} : (op, power, t) ∈ operators → q ≤ power →
    F.expr power q right ts → IsTail q left power (.binary op left right) (t :: ts)
  | inList {negated items ts} :
    Listed (fun e ts => F.expr 0 0 e ts ∧ isMember e = true) items ts →
    IsTail q left Power.compare (.inList negated left items)
      (negationTokens negated ++ key "IN" :: .symbol "(" :: (ts ++ [.symbol ")"]))
  | inQuery {negated body ts} : IsBody F body ts →
    IsTail q left Power.compare
      (.phrase [.expr left, .text (" " ++ negation negated ++ "IN ("), .query ⟨[], body, []⟩,
        .text ")"])
      (negationTokens negated ++ key "IN" :: .symbol "(" :: (ts ++ [.symbol ")"]))
  | like {negated pattern ts} : q ≤ Power.like → F.expr Power.like q pattern ts →
    IsTail q left Power.like (.like negated false left pattern none)
      (negationTokens negated ++ key "LIKE" :: ts)
  | between {negated low ts high us} : q ≤ Power.compare →
    F.expr Power.compare Power.and low ts → F.expr Power.compare q high us →
    IsTail q left Power.compare (.between negated left low high)
      (negationTokens negated ++ key "BETWEEN" :: (ts ++ key "AND" :: us))
  | is {form} : form ∈ Parser.isForms →
    IsTail q left Power.is (.phrase [.expr left, .text form.2]) (key "IS" :: form.1.map key)

/-- An expression whose operators bind tighter than `p`, before an operator that binds at most as
tightly as `q`. -/
inductive IsExpression : Nat → Nat → Expr → List Token → Prop
  | term {p q e ts} : IsTerm F e ts → IsExpression p q e ts
  | sign {p q op t e ts} : (op, t) ∈ [(UnaryOp.plus, "+"), (UnaryOp.minus, "-")] →
    q ≤ Power.multiply → F.term e ts → IsExpression p q (.unary op e) (.symbol t :: ts)
  | not {p q e ts} : q ≤ Power.not → F.expr Power.not q e ts →
    IsExpression p q (.unary .not e) (key "NOT" :: ts)
  | existence {p q negated x ts} : p < Power.not → F.query x ts →
    IsExpression p q (.phrase [.text (negation negated ++ "EXISTS ("), .query x, .text ")"])
      (negationTokens negated ++ key "EXISTS" :: .symbol "(" :: (ts ++ [.symbol ")"]))
  | tail {p q power left ts e us} : IsExpression p power left ts → IsTail F q left power e us →
    p < power → IsExpression p q e (ts ++ us)

/-! ### Queries -/

/-- The number of rows passed over. -/
inductive IsOffset : List Part → List Token → Prop
  | of_expr {e ts} : F.expr 0 0 e ts → IsOffset [.expr e, .text ""] ts

/-- A query with a name that stands before another one. -/
inductive IsCommonTable : List Part → List Token → Prop
  | mk {i t x ts} : IsName i t → F.query x ts →
    IsCommonTable [.text (i.print ++ " AS ("), .query x, .text ")"]
      (t :: key "AS" :: .symbol "(" :: ts ++ [.symbol ")"])

/-- The words before queries with a name. -/
def openingForms : List (String × List String) :=
  [("WITH ", ["WITH"]), ("WITH RECURSIVE ", ["WITH", "RECURSIVE"])]

/-- What stands before the selection of a query. -/
inductive IsOpening : List Part → List Token → Prop
  | none : IsOpening [] []
  | tables {form ps ts} : form ∈ openingForms → IsList (IsCommonTable F) ps ts →
    IsOpening (.text form.1 :: ps ++ [.text " "]) (form.2.map key ++ ts)

/-- A query. -/
inductive IsQuery : Query → List Token → Prop
  | mk {opening ts body us order vs limit ws offset xs} : IsOpening F opening ts →
    IsBody F body us →
    IsClause " ORDER BY " ["ORDER", "BY"] (IsList (IsOrderItem F)) order vs →
    IsClause " LIMIT " ["LIMIT"] (IsExprPart F) limit ws →
    IsClause " OFFSET " ["OFFSET"] (IsOffset F) offset xs →
    IsQuery ⟨opening, body, order ++ (limit ++ offset)⟩ (ts ++ us ++ vs ++ ws ++ xs)

end

/-! ### Levels -/

/-- The forms in which nothing stands. -/
def Forms.empty : Forms := ⟨fun _ _ _ _ => False, fun _ _ => False, fun _ _ => False, False.elim⟩

/-- The forms that hold at most `d - 1` others, one inside the other. -/
def level : Nat → Forms
  | 0 => .empty
  | d + 1 => ⟨IsExpression (level d), IsTerm (level d), IsQuery (level d), .term⟩

/-- A plain query as a statement. -/
def IsStatement (d : Nat) (s : Statement) : Prop :=
  s.selection?.isSome = true ∧ ∃ x ts, s = .query x ∧ (level d).query x ts

end SemanticQuery.Sql.Plain
