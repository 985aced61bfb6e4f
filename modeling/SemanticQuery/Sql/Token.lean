import SemanticQuery.Text.Case

/-!
# Tokens

The words of SQL text. A bare word keeps its spelling beside the capital form by which keywords
are recognised; a word in backticks is never a keyword. Operators and brackets are told apart by
their canonical spelling, so `!=` and `<>` are one token.
-/

namespace SemanticQuery.Sql

/-- One token of SQL text. -/
inductive Token where
  /-- A bare word with its keyword form. -/
  | word (text key : String)
  /-- A word in backticks. -/
  | quoted (text : String)
  /-- A number; `long` marks a trailing `L`. -/
  | number (digits : String) (long : Bool)
  /-- A string in single quotes. -/
  | single (text : String)
  /-- A string in double quotes. -/
  | double (text : String)
  /-- A national string, `N'…'`. -/
  | national (text : String)
  /-- Hexadecimal digits, `X'…'` or `0x…`. -/
  | hex (text : String)
  /-- A byte string, `B'…'` or `B"…"`. -/
  | bytes (quote : Char) (text : String)
  /-- A placeholder such as `?`. -/
  | placeholder (text : String)
  /-- An operator, a bracket, or a character that starts nothing else. -/
  | symbol (text : String)
  deriving DecidableEq

namespace Token

/-- A bare word; its keyword form is its capital form. -/
def ofWord (text : String) : Token := .word text (Text.upper text)

/-- Whether the token is the bare keyword `key`. -/
def isKeyword (key : String) : Token → Bool
  | .word _ k => k == key
  | _ => false

/-- Whether the token is one of the bare keywords. -/
def isOneOf (keys : List String) : Token → Bool
  | .word _ k => keys.contains k
  | _ => false

/-- Whether the token is the symbol `text`. -/
def isSymbol (text : String) : Token → Bool
  | .symbol s => s == text
  | _ => false

/-- Whether the token is a word, bare or in backticks. -/
def isWord : Token → Bool
  | .word .. | .quoted _ => true
  | _ => false

/-- The token as a message shows it; quotes inside it are not doubled. -/
def display : Token → String
  | .word text _ => text
  | .quoted text => "`" ++ text ++ "`"
  | .number digits long => if long then digits ++ "L" else digits
  | .single text => "'" ++ text ++ "'"
  | .double text => "\"" ++ text ++ "\""
  | .national text => "N'" ++ text ++ "'"
  | .hex text => "X'" ++ text ++ "'"
  | .bytes quote text => "B" ++ quote.toString ++ text ++ quote.toString
  | .placeholder text => text
  | .symbol text => text

end Token

end SemanticQuery.Sql
