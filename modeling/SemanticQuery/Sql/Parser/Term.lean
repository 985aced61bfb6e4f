import SemanticQuery.Sql.Parser.Call

/-!
# Terms

The expressions that operators join: names, literals, calls, parentheses, and the forms that a
keyword opens. A word that opens a form but does not go on as one is read as a name, unless it is
reserved.
-/

namespace SemanticQuery.Sql

/-! ### Binding powers -/

/-- How tightly operators bind. -/
def Power.or : Nat := 5
def Power.and : Nat := 10
def Power.not : Nat := 15
def Power.arrow : Nat := 16
def Power.is : Nat := 17
def Power.like : Nat := 19
def Power.compare : Nat := 20
def Power.pipe : Nat := 21
def Power.caret : Nat := 22
def Power.ampersand : Nat := 23
def Power.xor : Nat := 24
def Power.add : Nat := 30
def Power.multiply : Nat := 40
def Power.zone : Nat := 41
def Power.cast : Nat := 50
def Power.period : Nat := 100

namespace Parser

/-! ### Intervals -/

/-- An interval, from behind its keyword on: an expression and the units it is measured in. -/
def interval (g : Grammar) : Parser Expr := do
  let value ← g.expr
  let unit ← expectOneOf intervalUnits
  let start := [Part.text "INTERVAL ", .expr value, .text (" " ++ unit)]
  if unit == "SECOND" then
    match ← optionalSizes ", " with
    | (_, none) => return .phrase start
    | (text, some _) => return .phrase (start ++ [.text (" " ++ text)])
  else
    let precision ← optionalSize
    let precision := if precision.isEmpty then "" else " " ++ precision
    if ← keyword "TO" then
      let last ← timeField
      let fraction ← if last == "SECOND" then optionalSize else pure ""
      let fraction := if fraction.isEmpty then "" else " " ++ fraction
      return .phrase (start ++ [.text (precision ++ " TO " ++ last ++ fraction)])
    else
      return .phrase (start ++ [.text precision])

/-- A literal behind the type it belongs to. -/
def typedLiteral (g : Grammar) : Parser Expr := do
  match ← typeName with
  | .interval => interval g
  | .custom _ => fail
  | .known t => return .phrase [.text (t ++ " " ++ (← literal).print)]

/-! ### Forms with a keyword -/

/-- A choice between cases, from behind its keyword on. -/
def caseForm (g : Grammar) : Parser Expr := do
  let operand ←
    if ← keyword "WHEN" then pure []
    else do
      let e ← g.expr
      expect "WHEN"
      pure [.text " ", .expr e]
  let branches ← loop (fun found => do
    let condition ← g.expr
    expect "THEN"
    let result ← g.expr
    let found := found ++ [.text " WHEN ", .expr condition, .text " THEN ", .expr result]
    if ← keyword "WHEN" then return .inl found else return .inr found) []
  let otherwise ←
    if ← keyword "ELSE" then pure [.text " ELSE ", .expr (← g.expr)] else pure []
  expect "END"
  return .phrase (.text "CASE" :: operand ++ branches ++ otherwise ++ [.text " END"])

/-- A conversion with a type or a character set, from behind its keyword on. -/
def convertForm (g : Grammar) : Parser Expr := do
  expectSymbol "("
  let e ← g.expr
  if ← keyword "USING" then
    let charset ← pathText
    expectSymbol ")"
    return .phrase [.text "CONVERT(", .expr e, .text (" USING " ++ charset ++ ")")]
  expectSymbol ","
  let target := (← typeName).text
  let charset ←
    if ← keywords ["CHARACTER", "SET"] then pure (" CHARACTER SET " ++ (← pathText)) else pure ""
  expectSymbol ")"
  return .phrase [.text "CONVERT(", .expr e, .text (", " ++ target ++ charset ++ ")")]

/-- A conversion to a type, from behind its keyword on. -/
def castForm (g : Grammar) (key : String) : Parser Expr := do
  expectSymbol "("
  let e ← g.expr
  expect "AS"
  let target := (← typeName).text
  let format ←
    if ← keyword "FORMAT" then do
      let f := (← literal).print
      if ← keywords ["AT", "TIME", "ZONE"] then
        pure (" FORMAT " ++ f ++ " AT TIME ZONE " ++ (← literal).print)
      else pure (" FORMAT " ++ f)
    else pure ""
  expectSymbol ")"
  return .cast (.call key) e (target ++ format)

/-- Existence of rows, from behind its keyword on. -/
def existsForm (g : Grammar) (negated : Bool) : Parser Expr := do
  expectSymbol "("
  let q ← g.query
  expectSymbol ")"
  return .phrase [.text (negation negated ++ "EXISTS ("), .query q, .text ")"]

/-- A unit taken from a date or a time. -/
def extractForm (g : Grammar) : Parser Expr := do
  expectSymbol "("
  let field ← timeField
  expect "FROM"
  let e ← g.expr
  expectSymbol ")"
  return .phrase [.text ("EXTRACT(" ++ field ++ " FROM "), .expr e, .text ")"]

/-- Rounding to a whole number, to a unit of time or to a scale. -/
def roundingForm (g : Grammar) (key : String) : Parser Expr := do
  expectSymbol "("
  let e ← g.expr
  let scale ← do
    if ← keyword "TO" then pure (" TO " ++ (← timeField))
    else if ← symbol "," then
      match ← literal with
      | .number digits long => pure (", " ++ Literal.print (.number digits long))
      | _ => fail
    else pure ""
  expectSymbol ")"
  return .phrase [.text (key ++ "("), .expr e, .text (scale ++ ")")]

/-- The place of one text in another. -/
def positionForm (g : Grammar) : Parser Expr := do
  expectSymbol "("
  let e ← g.subexpr Power.compare
  expect "IN"
  let within ← g.expr
  expectSymbol ")"
  return .phrase [.text "POSITION(", .expr e, .text " IN ", .expr within, .text ")"]

/-- A part of a text. -/
def substringForm (g : Grammar) : Parser Expr := do
  expectSymbol "("
  let e ← g.expr
  let commas ← symbol ","
  let start ← do
    if commas then pure [.text ", ", .expr (← g.expr)]
    else if ← keyword "FROM" then pure [.text " FROM ", .expr (← g.expr)]
    else pure []
  let bounded ← do
    if ← keyword "FOR" then pure true else symbol ","
  let length ←
    if bounded then pure [.text (if commas then ", " else " FOR "), .expr (← g.expr)]
    else pure []
  expectSymbol ")"
  return .phrase (.text "SUBSTRING(" :: .expr e :: start ++ length ++ [.text ")"])

/-- A text with a part of it replaced. -/
def overlayForm (g : Grammar) : Parser Expr := do
  expectSymbol "("
  let e ← g.expr
  expect "PLACING"
  let what ← g.expr
  expect "FROM"
  let start ← g.expr
  let length ←
    if ← keyword "FOR" then pure [.text " FOR ", .expr (← g.expr)] else pure []
  expectSymbol ")"
  return .phrase ([.text "OVERLAY(", .expr e, .text " PLACING ", .expr what, .text " FROM ",
    .expr start] ++ length ++ [.text ")"])

/-- A text with the characters at its ends removed. -/
def trimForm (g : Grammar) : Parser Expr := do
  expectSymbol "("
  let side ← oneOf ["BOTH", "LEADING", "TRAILING"]
  let e ← g.expr
  if ← keyword "FROM" then
    let subject ← g.expr
    expectSymbol ")"
    return .trim side subject (some e)
  else
    expectSymbol ")"
    return .trim side e none

/-- The negation of a condition, from behind its keyword on. -/
def notForm (g : Grammar) : Parser Expr := do
  if ← keyword "EXISTS" then existsForm g true
  else return .unary .not (← g.subexpr Power.not)

/-- A search in full texts, from behind its keyword on. -/
def matchForm : Parser Expr := do
  let columns ← parenthesized identsText
  expect "AGAINST"
  expectSymbol "("
  let value := (← literal).print
  let mode ← do
    if ← keywords ["IN", "NATURAL", "LANGUAGE", "MODE"] then
      if ← keywords ["WITH", "QUERY", "EXPANSION"] then
        pure " IN NATURAL LANGUAGE MODE WITH QUERY EXPANSION"
      else pure " IN NATURAL LANGUAGE MODE"
    else if ← keywords ["IN", "BOOLEAN", "MODE"] then pure " IN BOOLEAN MODE"
    else if ← keywords ["WITH", "QUERY", "EXPANSION"] then pure " WITH QUERY EXPANSION"
    else pure ""
  expectSymbol ")"
  return .phrase [.text ("MATCH (" ++ columns ++ ") AGAINST (" ++ value ++ mode ++ ")")]

/-- Elements in brackets, from behind the opening one on. -/
def arrayForm (g : Grammar) (start : String) : Parser Expr := do
  if ← symbol "]" then
    return .phrase [.text (start ++ "[]")]
  let items ← exprList g
  expectSymbol "]"
  return .phrase (.text (start ++ "[") :: items ++ [.text "]"])

/-- A function whose name is a keyword and whose parentheses may be missing. -/
def clockForm (g : Grammar) (text : String) : Parser Expr := do
  if ← symbol "(" then
    let (quantifier, args, clauses) ← argumentList g
    return .call ⟨[Ident.bare text], false, quantifier, args, clauses, [], []⟩
  else
    return .phrase [.text text]

/-- The form that the keyword `key`, written `text`, opens; nothing if it opens none. -/
def keywordForm (g : Grammar) (text key : String) : Parser (Option Expr) := do
  match key with
  | "TRUE" => return some (.literal (.boolean true))
  | "FALSE" => return some (.literal (.boolean false))
  | "NULL" => return some (.literal .null)
  | "CURRENT_TIMESTAMP" | "CURRENT_TIME" | "CURRENT_DATE" | "LOCALTIME" | "LOCALTIMESTAMP" =>
    return some (← clockForm g text)
  | "CASE" => return some (← caseForm g)
  | "CONVERT" => return some (← convertForm g)
  | "CAST" | "TRY_CAST" | "SAFE_CAST" => return some (← castForm g key)
  | "EXISTS" => return some (← existsForm g false)
  | "EXTRACT" => return some (← extractForm g)
  | "CEIL" | "FLOOR" => return some (← roundingForm g key)
  | "POSITION" =>
    if ← seesSymbol "(" then
      match ← attempt (positionForm g) with
      | some e => return some e
      | none => return some (.call (← callOf g (interval g) [Ident.bare text] false))
    else return none
  | "SUBSTRING" => return some (← substringForm g)
  | "OVERLAY" => return some (← overlayForm g)
  | "TRIM" => return some (← trimForm g)
  | "INTERVAL" => return some (← interval g)
  | "ARRAY" =>
    if ← symbol "[" then return some (← arrayForm g "ARRAY")
    else if ← symbol "(" then
      let q ← g.query
      expectSymbol ")"
      return some (.phrase [.text (text ++ "("), .query q, .text ")"])
    else return none
  | "NOT" => return some (← notForm g)
  | "MATCH" => return some (← matchForm)
  | _ => return none

/-- The keywords that are no names. -/
def reservedNames : List String := ["EXISTS", "INTERVAL", "STRUCT", "TRIM"]

/-! ### Names and parentheses -/

/-- What a word stands for that opens no form: a call, a string with a character set, or a
name. -/
def wordTerm (g : Grammar) (name : Ident) : Parser Expr := do
  match ← peek with
  | some (.symbol "(") => return .call (← callOf g (interval g) [name] false)
  | some (.single _) | some (.double _) | some (.hex _) =>
    if name.value.startsWith "_" then
      return .phrase [.text (name.value ++ " " ++ (← literal).print)]
    else
      return .name name
  | _ => return .name name

/-- What stands in parentheses, from behind the opening one on. -/
def groupForm (g : Grammar) : Parser Expr := do
  if ← seesQuery then
    let q ← g.query
    expectSymbol ")"
    return .phrase [.text "(", .query q, .text ")"]
  match ← commaSeparated g.expr with
  | [e] =>
    expectSymbol ")"
    return .nested e
  | es =>
    expectSymbol ")"
    return .phrase (.text "(" :: exprParts es ++ [.text ")"])

/-- A call in braces, from behind the opening one on. -/
def bracedForm (g : Grammar) : Parser Expr := do
  expect "FN"
  let name ← path
  let call ← callOf g (interval g) name true
  expectSymbol "\x7d"
  return .call call

/-- The collation behind a term, if one is given. -/
def collated (e : Expr) : Parser Expr := do
  if ← keyword "COLLATE" then
    return .phrase [.expr e, .text (" COLLATE " ++ (← pathText))]
  else
    return e

/-- The words that may open a literal with its type. -/
def typeWords : List String :=
  plainTypes ++ sizedTypes ++ wholeTypes ++ exactTypes ++
    ["DOUBLE", "VARCHAR", "NVARCHAR", "VARBINARY", "CHARACTER", "CHAR", "BIT", "TIMESTAMP", "TIME",
     "TIMESTAMPTZ", "TIMETZ", "ENUM", "SET", "INTERVAL"]

/-- A term that is not a literal with its type. -/
def plainTerm (g : Grammar) : Parser Expr := do
  let start ← ahead
  match ← next with
  | some (.word text key) =>
    let name := Ident.bare text
    let form ←
      if reservedNames.contains key then do pure ((← keywordForm g text key).map (·, true))
      else
        orElse (do return (← keywordForm g text key).map (·, true))
          (do return some (← wordTerm g name, false))
    match form with
    | some (e, true) => collated e
    | some (e, false) => return e
    | none => collated (← wordTerm g name)
  | some (.quoted text) => collated (← wordTerm g ⟨text, some '`'⟩)
  | some (.symbol "[") => collated (← arrayForm g "")
  | some (.symbol "-") => collated (.unary .minus (← g.subexpr Power.multiply))
  | some (.symbol "+") => collated (.unary .plus (← g.subexpr Power.multiply))
  | some (.symbol "(") => collated (← groupForm g)
  | some (.symbol "\x7b") => collated (← bracedForm g)
  | some (.symbol s) =>
    require (s == ":" || s == "@")
    goTo start
    collated (.literal (← literal))
  | some _ =>
    goTo start
    collated (.literal (← literal))
  | none => fail

/-- A term: a literal with its type, or any other term. -/
def term (g : Grammar) : Parser Expr := do
  let typed ←
    match ← peek with
    | some (.word _ key) =>
      if typeWords.contains key then attempt (typedLiteral g) else pure none
    | _ => pure none
  match typed with
  | some e => return e
  | none => plainTerm g

/-! ### Access -/

/-- A step from a value to a part of it. -/
inductive Access where
  /-- A member behind a point. -/
  | member (e : Expr)
  /-- What stands in brackets. -/
  | subscript (parts : List Part)

/-- The phrase of a step. -/
def Access.parts : Access → List Part
  | .member e => [.text ".", .expr e]
  | .subscript ps => .text "[" :: ps ++ [.text "]"]

/-- The name that a step leads to, if it leads to one. -/
def Access.ident? : Access → Option Ident
  | .member (.name i) => some i
  | _ => none

/-- The names in a list of steps, if they all lead to names. -/
def accessIdents (steps : List Access) : Option (List Ident) := steps.mapM Access.ident?

/-- A value with the steps behind it. Names behind a name make a qualified name, and a call behind
names makes a call of a qualified name. -/
def withAccess (root : Expr) (steps : List Access) : Expr :=
  match root, steps.reverse with
  | _, [] => root
  | .name i, last :: before =>
    match accessIdents before.reverse, last with
    | some is, .member (.name j) => .path (i :: is ++ [j])
    | some is, .member (.call c) => .call { c with name := i :: is ++ c.name }
    | _, _ => .phrase (.expr root :: steps.flatMap Access.parts)
  | _, _ => .phrase (.expr root :: steps.flatMap Access.parts)

/-- What stands in the brackets of a subscript, from behind the opening one on: an index or a
slice. -/
def subscriptParts (g : Grammar) : Parser (List Part) := do
  let lower ← if ← symbol ":" then pure none else pure (some (← g.expr))
  let lowerParts := match lower with
    | some e => [Part.expr e]
    | none => []
  if ← symbol "]" then
    return if lower.isSome then lowerParts else [.text ":"]
  if lower.isSome then expectSymbol ":"
  if ← symbol "]" then
    return lowerParts ++ [.text ":"]
  let upper ← g.expr
  if ← symbol "]" then
    return lowerParts ++ [.text ":", .expr upper]
  expectSymbol ":"
  if ← symbol "]" then
    return lowerParts ++ [.text ":", .expr upper]
  let stride ← g.expr
  expectSymbol "]"
  return lowerParts ++ [.text ":", .expr upper, .text ":", .expr stride]

/-- The steps behind the term `root`. -/
def accessed (g : Grammar) (root : Expr) : Parser Expr := do
  let steps ← loop (fun (found : List Access) => do
    if ← seesSymbol "." then
      match (← ahead).drop 1 with
      | .symbol "*" :: _ => return .inr found
      | .single text :: rest =>
        goTo rest
        return .inl (found ++ [.member (.name ⟨text, some '\''⟩)])
      | rest =>
        goTo rest
        match ← g.subexpr Power.period with
        | .path parts => return .inl (found ++ parts.map fun i => .member (.name i))
        | e => return .inl (found ++ [.member e])
    else if ← symbol "[" then
      return .inl (found ++ [.subscript (← subscriptParts g)])
    else
      return .inr found) []
  return withAccess root steps

end Parser

end SemanticQuery.Sql
