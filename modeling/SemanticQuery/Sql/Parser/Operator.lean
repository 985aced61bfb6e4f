import SemanticQuery.Sql.Parser.Term

/-!
# Operators

How tightly the operator ahead binds, and the expressions that operators build. Operators of one
binding power associate to the left. `XOR` binds tighter than a comparison, and what follows `DIV`
is read as far as an expression goes.
-/

namespace SemanticQuery.Sql.Parser

/-! ### Binding powers -/

/-- How tightly a symbol binds as an operator; zero if it is none. -/
def symbolPower (s : String) : Nat :=
  if ["=", "==", "<", "<=", "<>", ">", ">=", "<=>", "~", "~*", "!~", "!~*", "~~", "~~*", "!~~",
      "!~~*"].contains s then Power.compare
  else if s == "|" then Power.pipe
  else if ["^", "<<", ">>"].contains s then Power.caret
  else if s == "&" then Power.ampersand
  else if ["+", "-"].contains s then Power.add
  else if ["*", "/", "%", "||"].contains s then Power.multiply
  else if ["::", "!", "[", "&&", "^@"].contains s then Power.cast
  else if ["->", "->>", "@>", "<@", "@?", "@@"].contains s then Power.arrow
  else if s == "." then Power.period
  else 0

/-- How tightly a keyword binds as an operator; zero if it is none. -/
def keywordPower (key : String) : Nat :=
  match key with
  | "OR" => Power.or
  | "AND" => Power.and
  | "XOR" => Power.xor
  | "IS" => Power.is
  | "IN" | "BETWEEN" | "OVERLAPS" | "OPERATOR" => Power.compare
  | "LIKE" | "ILIKE" | "RLIKE" | "REGEXP" | "SIMILAR" => Power.like
  | "DIV" => Power.multiply
  | _ => 0

/-- How tightly the operator ahead binds; zero if none is ahead. A negated operator binds like the
operator itself. -/
def powerOf : List Token → Nat
  | .word _ "NOT" :: .word _ key :: _ =>
    if ["IN", "BETWEEN", "LIKE", "ILIKE", "RLIKE", "REGEXP", "SIMILAR"].contains key then
      keywordPower key
    else 0
  | .word _ "AT" :: .word _ "TIME" :: .word _ "ZONE" :: _ => Power.zone
  | .word _ key :: _ => keywordPower key
  | .symbol s :: _ => symbolPower s
  | _ => 0

/-! ### Operators between expressions -/

/-- The binary operator that a symbol stands for. -/
def symbolOp (s : String) : Option BinaryOp :=
  match s with
  | "=" | "==" => some (.compare .eq)
  | "<>" => some (.compare .notEq)
  | ">" => some (.compare .gt)
  | ">=" => some (.compare .gtEq)
  | "<" => some (.compare .lt)
  | "<=" => some (.compare .ltEq)
  | s =>
    if ["<=>", "+", "-", "*", "%", "||", "|", "^", "&", "/", "~", "~*", "!~", "!~*", "~~", "~~*",
        "!~~", "!~~*", "->", "->>", "@>", "<@", "@?", "@@"].contains s then some (.other s)
    else none

/-- The binary operator that a token stands for. -/
def tokenOp : Token → Option BinaryOp
  | .symbol s => symbolOp s
  | .word _ "AND" => some .and
  | .word _ "OR" => some .or
  | .word _ "XOR" => some (.other "XOR")
  | .word _ "OVERLAPS" => some (.other "OVERLAPS")
  | _ => none

/-- Whether an operator may compare with any or all of several values. -/
def BinaryOp.quantifies : BinaryOp → Bool
  | .compare _ => true
  | .other s => ["~", "~*", "!~", "!~*", "~~", "~~*", "!~~", "!~~*"].contains s
  | _ => false

/-- The right side of a binary operator, from behind it on. -/
def rightSide (g : Grammar) (left : Expr) (op : BinaryOp) (power : Nat) : Parser Expr := do
  match ← oneOf ["ANY", "ALL", "SOME"] with
  | none => return .binary op left (← g.subexpr power)
  | some quantifier =>
    let start ← ahead
    expectSymbol "("
    if ← seesQuery then
      goTo start
      let right ← g.subexpr power
      require (BinaryOp.quantifies op)
      match right with
      | .phrase [.text "(", .query _, .text ")"] =>
        return .phrase [.expr left, .text (" " ++ op.symbol ++ " " ++ quantifier), .expr right]
      | _ =>
        return .phrase [.expr left, .text (" " ++ op.symbol ++ " " ++ quantifier ++ "("),
          .expr right, .text ")"]
    else
      let right ← g.subexpr power
      expectSymbol ")"
      require (BinaryOp.quantifies op)
      return .phrase [.expr left, .text (" " ++ op.symbol ++ " " ++ quantifier ++ "("),
        .expr right, .text ")"]

/-! ### Tests -/

/-- What may follow `IS`, with the words that print it. -/
def isForms : List (List String × String) :=
  [(["NULL"], " IS NULL"), (["NOT", "NULL"], " IS NOT NULL"), (["TRUE"], " IS TRUE"),
   (["NOT", "TRUE"], " IS NOT TRUE"), (["FALSE"], " IS FALSE"), (["NOT", "FALSE"], " IS NOT FALSE"),
   (["UNKNOWN"], " IS UNKNOWN"), (["NOT", "UNKNOWN"], " IS NOT UNKNOWN")]

/-- The first of the word lists that comes next, which is read. -/
def firstOf : List (List String × String) → Parser (Option String)
  | [] => return none
  | (keys, text) :: rest => do
    if ← keywords keys then return some text else firstOf rest

/-- A test of a value, from behind `IS` on. -/
def isTest (g : Grammar) (e : Expr) : Parser Expr := do
  match ← firstOf isForms with
  | some text => return .phrase [.expr e, .text text]
  | none =>
    if ← keywords ["DISTINCT", "FROM"] then
      return .phrase [.expr e, .text " IS DISTINCT FROM ", .expr (← g.expr)]
    else if ← keywords ["NOT", "DISTINCT", "FROM"] then
      return .phrase [.expr e, .text " IS NOT DISTINCT FROM ", .expr (← g.expr)]
    else
      let negated ← keyword "NOT"
      let form ← oneOf ["NFC", "NFD", "NFKC", "NFKD"]
      expect "NORMALIZED"
      return .phrase [.expr e, .text (" IS " ++ negation negated ++
        ((form.map (· ++ " ")).getD "") ++ "NORMALIZED")]

/-- Membership, from behind `IN` on. -/
def membership (g : Grammar) (e : Expr) (negated : Bool) : Parser Expr := do
  if ← keyword "UNNEST" then
    let array ← parenthesized g.expr
    return .phrase [.expr e, .text (" " ++ negation negated ++ "IN UNNEST("), .expr array,
      .text ")"]
  expectSymbol "("
  match ← attempt (g.body 0) with
  | some b =>
    expectSymbol ")"
    return .phrase [.expr e, .text (" " ++ negation negated ++ "IN ("), .query ⟨[], b, []⟩,
      .text ")"]
  | none =>
    let items ← commaSeparated g.expr
    expectSymbol ")"
    return .inList negated e items

/-- The character that escapes in a pattern, if one is named. -/
def escapeChar : Parser (Option String) := do
  if ← keyword "ESCAPE" then return some (← literalString) else return none

/-- A pattern test that is no plain likeness. -/
def patternTest (g : Grammar) (e : Expr) (negated : Bool) (word : String) (any escapes : Bool) :
    Parser Expr := do
  let any ← if any then keyword "ANY" else pure false
  let pattern ← g.subexpr Power.like
  let escape ← if escapes then escapeChar else pure none
  return .phrase [.expr e, .text (" " ++ negation negated ++ word ++ " " ++
    (if any then "ANY " else "")), .expr pattern,
    .text ((escape.map (" ESCAPE '" ++ · ++ "'")).getD "")]

/-- A test that may be negated, from its first keyword on. -/
def negatableTest (g : Grammar) (e : Expr) : Parser Expr := do
  let negated ← keyword "NOT"
  if ← keyword "REGEXP" then
    -- Both words may stand here; the first one is printed.
    let _ ← keyword "RLIKE"
    patternTest g e negated "REGEXP" false false
  else if ← keyword "RLIKE" then patternTest g e negated "RLIKE" false false
  else if ← keyword "IN" then membership g e negated
  else if ← keyword "BETWEEN" then
    let low ← g.subexpr Power.compare
    expect "AND"
    let high ← g.subexpr Power.compare
    return .between negated e low high
  else if ← keyword "LIKE" then
    let any ← keyword "ANY"
    let pattern ← g.subexpr Power.like
    return .like negated any e pattern (← escapeChar)
  else if ← keyword "ILIKE" then patternTest g e negated "ILIKE" true true
  else
    expectAll ["SIMILAR", "TO"]
    patternTest g e negated "SIMILAR TO" false true

/-! ### Expressions -/

/-- The expression that the operator ahead builds on `left`. -/
def infixed (g : Grammar) (left : Expr) (power : Nat) : Parser Expr := do
  if ← keyword "DIV" then
    return .binary (.other "DIV") left (← g.expr)
  match ← ahead with
  | [] => fail
  | t :: rest =>
    match tokenOp t with
    | some op =>
      goTo rest
      rightSide g left op power
    | none =>
      match t with
      | .word _ "IS" =>
        goTo rest
        isTest g left
      | .word _ "AT" =>
        goTo rest
        expectAll ["TIME", "ZONE"]
        return .phrase [.expr left, .text " AT TIME ZONE ", .expr (← g.subexpr power)]
      | .word .. => negatableTest g left
      | .symbol "::" =>
        goTo rest
        return .cast .colons left (← typeName).text
      | _ => fail

/-- An expression whose operators bind tighter than `power`: a term, the accesses behind it, and
the operators behind these. -/
def expression (g : Grammar) (power : Nat) : Parser Expr := do
  let first ← accessed g (← term g)
  loop (fun e => do
    let ts ← ahead
    let next := powerOf ts
    if power ≥ next then return .inr e
    else if (ts.head?.map (·.isSymbol ".")).getD false then return .inr e
    else return .inl (← infixed g e next)) first

end SemanticQuery.Sql.Parser
