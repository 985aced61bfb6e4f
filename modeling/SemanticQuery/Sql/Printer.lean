import SemanticQuery.Sql.Tree

/-!
# Printing

The canonical text of a tree: keywords in capitals, one blank around operators, strings in the
quotes they were read in. Inside a quoted text a quote is doubled unless another quote follows it
or a backslash stands before it; such quotes are taken for escaped ones.
-/

namespace SemanticQuery.Sql

/-! ### Leaves -/

/-- The inside of a text in quotes `q`. `escaped` tells that the last character other than a
passed-over quote was a backslash. -/
def quoteChars (q : Char) (escaped : Bool) : List Char → List Char
  | [] => []
  | c :: rest =>
    if c == q then
      if escaped then c :: quoteChars q true rest
      else
        match rest with
        | [] => [c, c]
        | d :: rest' =>
          if d == q then c :: d :: quoteChars q false rest'
          else c :: c :: quoteChars q false (d :: rest')
    else
      c :: quoteChars q (c == '\\') rest

/-- A text in quotes. -/
def quoteText (q : Char) (text : String) : String :=
  String.ofList (q :: quoteChars q false text.toList ++ [q])

/-- The text of a name. -/
def Ident.print (i : Ident) : String :=
  match i.quote with
  | some q => quoteText q i.value
  | none => i.value

/-- The text of a qualified name. -/
def printPath (parts : List Ident) : String := String.intercalate "." (parts.map Ident.print)

/-- The text of a literal. -/
def Literal.print : Literal → String
  | .number digits long => if long then digits ++ "L" else digits
  | .single text => quoteText '\'' text
  | .double text => quoteText '"' text
  | .national text => "N'" ++ text ++ "'"
  | .hex digits => "X'" ++ digits ++ "'"
  | .bytes quote text => "B" ++ quote.toString ++ text ++ quote.toString
  | .boolean value => if value then "true" else "false"
  | .null => "NULL"
  | .placeholder text => text

/-- `NOT` with a blank behind it, or nothing. -/
def negation (negated : Bool) : String := if negated then "NOT " else ""

/-! ### Trees -/

mutual

/-- The text of an expression. -/
def Expr.print : Expr → String
  | .name ident => ident.print
  | .path parts => printPath parts
  | .literal value => value.print
  | .nested inner => "(" ++ inner.print ++ ")"
  | .unary op operand =>
    match op with
    | .not => "NOT " ++ operand.print
    | op => op.symbol ++ operand.print
  | .binary op left right => left.print ++ " " ++ op.symbol ++ " " ++ right.print
  | .inList negated subject items =>
    subject.print ++ " " ++ negation negated ++ "IN (" ++ printExprs items ++ ")"
  | .like negated any subject pattern escape =>
    subject.print ++ " " ++ negation negated ++ "LIKE " ++ (if any then "ANY " else "") ++
      pattern.print ++
      match escape with
      | some e => " ESCAPE '" ++ e ++ "'"
      | none => ""
  | .between negated subject low high =>
    subject.print ++ " " ++ negation negated ++ "BETWEEN " ++ low.print ++ " AND " ++ high.print
  | .cast form subject target =>
    match form with
    | .call keyword => keyword ++ "(" ++ subject.print ++ " AS " ++ target ++ ")"
    | .colons => subject.print ++ "::" ++ target
  | .trim side subject removed =>
    "TRIM(" ++
      (match side with
        | some s => s ++ " "
        | none => "") ++
      (match removed with
        | some r => r.print ++ " FROM "
        | none => "") ++
      subject.print ++ ")"
  | .call function => function.print
  | .phrase parts => printParts parts

/-- The texts of expressions, with commas between them. -/
def printExprs : List Expr → String
  | [] => ""
  | [e] => e.print
  | e :: es => e.print ++ ", " ++ printExprs es

/-- The text of a call. -/
def Call.print : Call → String
  | ⟨name, braced, quantifier, arguments, clauses, trailer, group⟩ =>
    (if braced then "\x7bfn " else "") ++ printPath name ++ "(" ++
      (match quantifier with
        | some q => q ++ " "
        | none => "") ++
      printArguments arguments ++
      (if arguments.isEmpty || clauses.isEmpty then "" else " ") ++ printParts clauses ++ ")" ++
      printParts group ++ printParts trailer ++ (if braced then "\x7d" else "")

/-- The text of an argument. -/
def Argument.print : Argument → String
  | .positional value => value.print
  | .named parameter sign value => parameter.print ++ " " ++ sign ++ " " ++ value.print
  | .wildcard text => text

/-- The texts of arguments, with commas between them. -/
def printArguments : List Argument → String
  | [] => ""
  | [a] => a.print
  | a :: as => a.print ++ ", " ++ printArguments as

/-- The text of a part. -/
def Part.print : Part → String
  | .text words => words
  | .expr value => value.print
  | .query value => value.print

/-- The texts of parts, one behind the other. -/
def printParts : List Part → String
  | [] => ""
  | p :: ps => p.print ++ printParts ps

/-- The text of a query. -/
def Query.print : Query → String
  | ⟨opening, body, closing⟩ => printParts opening ++ body.print ++ printParts closing

/-- The text of a query's core. -/
def Body.print : Body → String
  | .select selection => selection.print
  | .phrase parts => printParts parts

/-- The text of a selection. -/
def Select.print : Select → String
  | ⟨quantifier, projection, source, condition, trailer⟩ =>
    "SELECT " ++ printParts quantifier ++ printItems projection ++ printParts source ++
      (match condition with
        | some e => " WHERE " ++ e.print
        | none => "") ++
      printParts trailer

/-- The text of a projected item. -/
def SelectItem.print : SelectItem → String
  | .wildcard text => text
  | .expr value label =>
    value.print ++
      match label with
      | some a => " AS " ++ a.print
      | none => ""

/-- The texts of projected items, with commas between them. -/
def printItems : List SelectItem → String
  | [] => ""
  | [i] => i.print
  | i :: is => i.print ++ ", " ++ printItems is

end

/-- The text of a statement. -/
def Statement.print : Statement → String
  | .query value => value.print
  | .command parts => printParts parts

end SemanticQuery.Sql
