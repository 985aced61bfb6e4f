import SemanticQuery.Sql.Token
import SemanticQuery.Text.Blank

/-!
# Splitting SQL text into tokens

`tokenize` reads SQL text as its tokens and drops blanks and comments. Words may hold letters of
every script, digits may start a word, a backslash escapes a character inside a string, and a
doubled quote stands for one quote.
-/

namespace SemanticQuery.Sql

/-- Why a text is not SQL. -/
inductive Fault where
  /-- Something stands where it cannot stand, or is missing. -/
  | unexpected
  /-- The text is nested deeper than the reader goes. -/
  | tooDeep
  deriving DecidableEq

namespace Lexer

/-! ### Words -/

/-- Whether a character may start a bare word. -/
def startsWord (c : Char) : Bool :=
  c.isAlpha || c == '_' || c == '$' || c == '@' ||
    (0x80 ≤ c.toNat && c.toNat ≤ 0xFFFF) || (c.toNat > 0xFFFF && Text.isAlphabetic c)

/-- Whether a character may continue a bare word. -/
def continuesWord (c : Char) : Bool := startsWord c || c.isDigit

/-- The longest word that starts with the characters `start` and goes on in `cs`. A run of digits
and points makes a number. -/
def readWord (start cs : List Char) : Token × List Char :=
  let text := start ++ cs.takeWhile continuesWord
  let rest := cs.dropWhile continuesWord
  let numeric := fun c : Char => c.isDigit || c == '.'
  if text.all numeric then
    (.number (String.ofList (text ++ rest.takeWhile numeric)) false, rest.dropWhile numeric)
  else
    (.ofWord (String.ofList text), rest)

/-! ### Quoted texts -/

/-- The character that a backslash and `c` stand for. -/
def unescaped (c : Char) : Char :=
  match c with
  | '0' => '\x00'
  | 'a' => '\x07'
  | 'b' => '\x08'
  | 'f' => '\x0c'
  | 'n' => '\n'
  | 'r' => '\r'
  | 't' => '\t'
  | 'Z' => '\x1a'
  | c => c

/-- Reads up to the closing quote `q`: a doubled quote stands for one, and where `escapes` holds a
backslash escapes the next character, except that `\%` and `\_` keep their backslash. -/
def readQuoted (q : Char) (escapes : Bool) : List Char → Option (List Char × List Char)
  | [] => none
  | c :: rest =>
    if c == q then
      match rest with
      | [] => some ([], [])
      | d :: rest' =>
        if d == q then (readQuoted q escapes rest').map fun (s, r) => (q :: s, r)
        else some ([], d :: rest')
    else if escapes && c == '\\' then
      match rest with
      | [] => none
      | d :: rest' =>
        (readQuoted q escapes rest').map fun (s, r) =>
          (if d == '%' || d == '_' then (c :: d :: s, r) else (unescaped d :: s, r))
    else
      (readQuoted q escapes rest).map fun (s, r) => (c :: s, r)

/-- A quoted text as the token that `make` builds from it. -/
def quotedToken (q : Char) (escapes : Bool) (make : String → Token) (cs : List Char) :
    Except Fault (Token × List Char) :=
  match readQuoted q escapes cs with
  | some (s, rest) => .ok (make (String.ofList s), rest)
  | none => .error .unexpected

/-! ### Comments -/

/-- What follows a comment that ends with its line. -/
def afterLine (cs : List Char) : List Char := (cs.dropWhile (· != '\n')).drop 1

/-- What follows a comment that ends with an asterisk and a slash. -/
def afterBlock : List Char → Option (List Char)
  | [] => none
  | c :: rest =>
    match c, rest with
    | '*', '/' :: rest' => some rest'
    | _, _ => afterBlock rest

/-! ### Numbers -/

/-- The exponent at the head of `cs`, if a digit belongs to it. -/
def readExponent (cs : List Char) : Option (List Char × List Char) :=
  match cs with
  | e :: rest =>
    if e == 'e' || e == 'E' then
      let (sign, digits) := match rest with
        | s :: rest' => if s == '+' || s == '-' then ([s], rest') else ([], rest)
        | [] => ([], [])
      if (digits.head?.map Char.isDigit).getD false then
        some (e :: sign ++ digits.takeWhile Char.isDigit, digits.dropWhile Char.isDigit)
      else
        none
    else
      none
  | [] => none

/-- Reads a number, a point, or a word that starts with a digit. `afterWord` says whether a word
stands immediately before. -/
def readNumber (afterWord : Bool) (cs : List Char) : Except Fault (Token × List Char) :=
  match cs with
  | '.' :: '_' :: _ => if afterWord then .ok (.symbol ".", cs.drop 1) else .error .unexpected
  | _ =>
    let whole := cs.takeWhile Char.isDigit
    let afterWhole := cs.dropWhile Char.isDigit
    match whole, afterWhole with
    | ['0'], 'x' :: rest =>
      let isHex := fun c : Char =>
        c.isDigit || ('a' ≤ c && c ≤ 'f') || ('A' ≤ c && c ≤ 'F')
      .ok (.hex (String.ofList (rest.takeWhile isHex)), rest.dropWhile isHex)
    | _, _ =>
      let (point, afterPoint) := match afterWhole with
        | '.' :: rest => (['.'], rest)
        | rest => ([], rest)
      let mantissa := whole ++ point ++ afterPoint.takeWhile Char.isDigit
      let rest := afterPoint.dropWhile Char.isDigit
      if mantissa == ['.'] then
        .ok (.symbol ".", rest)
      else
        match readExponent rest with
        | some (exponent, rest) =>
          .ok (withLong (mantissa ++ exponent) rest)
        | none =>
          let tail := rest.takeWhile continuesWord
          if tail.isEmpty then .ok (withLong mantissa rest)
          else .ok (.ofWord (String.ofList (mantissa ++ tail)), rest.dropWhile continuesWord)
where
  /-- The number with a trailing `L` taken in. -/
  withLong (digits rest : List Char) : Token × List Char :=
    match rest with
    | 'L' :: rest' => (.number (String.ofList digits) true, rest')
    | _ => (.number (String.ofList digits) false, rest)

/-! ### Symbols -/

/-- The spellings of more than one character with their canonical form, the longer ones first. -/
def longSymbols : List (List Char × String) :=
  [("!~~*".toList, "!~~*"), ("!~~".toList, "!~~"), ("!~*".toList, "!~*"), ("!~".toList, "!~"),
   ("!!".toList, "!!"), ("!=".toList, "<>"), ("<=>".toList, "<=>"), ("<=".toList, "<="),
   ("<>".toList, "<>"), ("<<".toList, "<<"), ("<@".toList, "<@"), (">=".toList, ">="),
   (">>".toList, ">>"), ("=>".toList, "=>"), ("==".toList, "=="), ("::".toList, "::"),
   (":=".toList, ":="), ("->>".toList, "->>"), ("->".toList, "->"), ("||/".toList, "||/"),
   ("||".toList, "||"), ("|/".toList, "|/"), ("&&".toList, "&&"), ("^@".toList, "^@"),
   ("~~*".toList, "~~*"), ("~~".toList, "~~"), ("~*".toList, "~*")]

/-- The symbol at the head of `c :: rest`: the longest spelling, or the character itself. -/
def readSymbol (c : Char) (rest : List Char) : Token × List Char :=
  match longSymbols.find? fun (spelling, _) => spelling.isPrefixOf (c :: rest) with
  | some (spelling, canonical) => (.symbol canonical, (c :: rest).drop spelling.length)
  | none => (.symbol c.toString, rest)

/-- Reads what an at sign starts: a variable, a doubled sign or the sign alone. -/
def readAt (rest : List Char) : Token × List Char :=
  match rest with
  | '>' :: rest' => (.symbol "@>", rest')
  | '?' :: rest' => (.symbol "@?", rest')
  | '@' :: rest' =>
    match rest' with
    | [] => (.symbol "@@", [])
    | ' ' :: _ => (.symbol "@@", rest')
    | c :: rest'' => readWord ['@', '@', c] rest''
  | [] => (.symbol "@", [])
  | c :: rest' =>
    if c == ' ' || c == '\'' || c == '"' || c == '`' then (.symbol "@", rest)
    else readWord ['@', c] rest'

/-! ### One token -/

/-- What the head of a text holds: a token, or something to pass over. -/
abbrev Step := Except Fault (Option Token × List Char)

/-- Passes a token on as a step. -/
def Step.ofToken : Except Fault (Token × List Char) → Step
  | .ok (t, rest) => .ok (some t, rest)
  | .error e => .error e

/-- A letter that may open a quoted text: with a quote behind it the text, else a word. -/
def readLettered (c : Char) (rest : List Char) (quotes : List (Char × Bool × (String → Token))) :
    Except Fault (Token × List Char) :=
  match rest with
  | q :: rest' =>
    match quotes.find? (fun (quote, _, _) => quote == q) with
    | some (_, escapes, make) => quotedToken q escapes make rest'
    | none => .ok (.ofWord (String.ofList (c :: rest.takeWhile continuesWord)),
        rest.dropWhile continuesWord)
  | [] => .ok (.ofWord c.toString, [])

/-- The step at the head of `c :: rest`. -/
def step (afterWord : Bool) (c : Char) (rest : List Char) : Step :=
  if c == ' ' || c == '\t' || c == '\n' || c == '\r' then
    .ok (none, rest)
  else if c == 'b' || c == 'B' then
    .ofToken (readLettered c rest [('\'', false, .bytes '\''), ('"', false, .bytes '"')])
  else if c == 'n' || c == 'N' then
    .ofToken (readLettered c rest [('\'', true, .national)])
  else if c == 'x' || c == 'X' then
    .ofToken (readLettered c rest [('\'', true, .hex)])
  else if c == '\'' then
    .ofToken (quotedToken '\'' true .single rest)
  else if c == '"' then
    .ofToken (quotedToken '"' true .double rest)
  else if c == '`' then
    .ofToken (quotedToken '`' false .quoted rest)
  else if c.isDigit || c == '.' then
    .ofToken (readNumber afterWord (c :: rest))
  else if c == '-' && ['-', ' '].isPrefixOf rest then
    .ok (none, afterLine rest)
  else if c == '#' then
    .ok (none, afterLine rest)
  else if c == '/' && ['*'].isPrefixOf rest then
    match afterBlock (rest.drop 1) with
    | some rest' => .ok (none, rest')
    | none => .error .unexpected
  else if c == '@' then
    .ofToken (.ok (readAt rest))
  else if c == '?' then
    .ok (some (.placeholder (String.ofList ('?' :: rest.takeWhile Text.isNumeric))),
      rest.dropWhile Text.isNumeric)
  else if startsWord c then
    .ofToken (.ok (readWord [c] rest))
  else if Text.isBlank c then
    .ok (none, rest)
  else
    .ofToken (.ok (readSymbol c rest))

/-- Splits a text, given at least as many steps as it has characters. `afterWord` says whether
the text before it ended in a word. -/
def tokensWithin : Nat → Bool → List Char → Except Fault (List Token)
  | _, _, [] => .ok []
  | 0, _, _ :: _ => .error .tooDeep
  | n + 1, afterWord, c :: rest =>
    match step afterWord c rest with
    | .error e => .error e
    | .ok (none, rest') => tokensWithin n false rest'
    | .ok (some t, rest') => (tokensWithin n t.isWord rest').map (t :: ·)

end Lexer

/-- The tokens of SQL text; every step reads at least one character. -/
def tokenize (text : String) : Except Fault (List Token) :=
  Lexer.tokensWithin text.length false text.toList

end SemanticQuery.Sql
