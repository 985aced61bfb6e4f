import SemanticQuery.Sql.Parser.Basic
import SemanticQuery.Sql.Printer

/-!
# Names, literals and types

The parts of SQL that hold no expression: names and qualified names, literal values, and the
names of types, which are kept as their canonical text.
-/

namespace SemanticQuery.Sql.Parser

/-! ### Names -/

/-- The name that a token stands for; strings may serve as names. -/
def identOf : Token → Option Ident
  | .word text _ => some ⟨text, none⟩
  | .quoted text => some ⟨text, some '`'⟩
  | .single text => some ⟨text, some '\''⟩
  | .double text => some ⟨text, some '"'⟩
  | _ => none

/-- A name. -/
def ident : Parser Ident := do
  match (← next).bind identOf with
  | some i => pure i
  | none => fail

/-- A qualified name. -/
def path : Parser (List Ident) := do
  let first ← ident
  loop (fun found => do
    if ← symbol "." then
      return .inl ((← ident) :: found)
    else
      return .inr found.reverse) [first]

/-- The text of a qualified name. -/
def pathText : Parser String := do return printPath (← path)

/-- The text of one or more names with commas between them. -/
def identsText : Parser String := do
  return String.intercalate ", " ((← commaSeparated ident).map Ident.print)

/-! ### Literals -/

/-- A literal value. A colon or an at sign makes a placeholder of the word behind it. -/
def literal : Parser Literal := do
  match ← next with
  | some (.word _ "TRUE") => return .boolean true
  | some (.word _ "FALSE") => return .boolean false
  | some (.word _ "NULL") => return .null
  | some (.number digits long) => return .number digits long
  | some (.single text) => return .single text
  | some (.double text) => return .double text
  | some (.national text) => return .national text
  | some (.hex text) => return .hex text
  | some (.bytes quote text) => return .bytes quote text
  | some (.placeholder text) => return .placeholder text
  | some (.symbol s) => do
    require (s == ":" || s == "@")
    match ← next with
    | some (.word text _) => return .placeholder (s ++ text)
    | some (.quoted text) => return .placeholder (s ++ text)
    | some (.number digits false) => return .placeholder (s ++ digits)
    | _ => fail
  | _ => fail

/-- The text inside a string, or a bare word in its place. -/
def literalString : Parser String := do
  match ← next with
  | some (.word text _) => return text
  | some (.quoted text) => return text
  | some (.single text) => return text
  | some (.double text) => return text
  | _ => fail

/-- The greatest number of 64 bits. -/
def maxUnsigned : Nat := 0xFFFFFFFFFFFFFFFF

/-- A whole number of at most 64 bits. -/
def unsigned : Parser Nat := do
  match ← next with
  | some (.number digits false) =>
    let cs := digits.toList
    require (cs.all Char.isDigit)
    let n := cs.foldl (fun n c => n * 10 + (c.toNat - '0'.toNat)) 0
    require (n ≤ maxUnsigned)
    return n
  | _ => fail

/-! ### Types -/

/-- What the name of a type turned out to be. -/
inductive TypeName where
  /-- The type of spans of time, which may open an interval. -/
  | interval
  /-- A type that the language does not know. -/
  | custom (text : String)
  /-- A type of the language. -/
  | known (text : String)

/-- The text of a type's name. -/
def TypeName.text : TypeName → String
  | .interval => "INTERVAL"
  | .custom t => t
  | .known t => t

/-- A number in parentheses, or nothing. -/
def optionalSize : Parser String := do
  if ← symbol "(" then
    let n ← unsigned
    expectSymbol ")"
    return "(" ++ toString n ++ ")"
  else
    return ""

/-- One or two numbers in parentheses, with `comma` between them, or nothing. -/
def optionalSizes (comma : String) : Parser (String × Option (Nat × Option Nat)) := do
  if ← symbol "(" then
    let n ← unsigned
    if ← symbol "," then
      let m ← unsigned
      expectSymbol ")"
      return ("(" ++ toString n ++ comma ++ toString m ++ ")", some (n, some m))
    else
      expectSymbol ")"
      return ("(" ++ toString n ++ ")", some (n, none))
  else
    return ("", none)

/-- The length of a character type, with its unit where `units` allows one. -/
def optionalLength (units : Bool) : Parser String := do
  if ← symbol "(" then
    if ← keyword "MAX" then
      expectSymbol ")"
      return "(MAX)"
    let n ← unsigned
    let unit ← if units then oneOf ["CHARACTERS", "OCTETS"] else pure none
    expectSymbol ")"
    return "(" ++ toString n ++ ((unit.map (" " ++ ·)).getD "") ++ ")"
  else
    return ""

/-- The rest of a character type `base`. -/
def characterType (base : String) : Parser TypeName := do
  if ← keyword "VARYING" then
    return .known (base ++ " VARYING" ++ (← optionalLength true))
  else if ← keywords ["LARGE", "OBJECT"] then
    return .known (base ++ " LARGE OBJECT" ++ (← optionalSize))
  else
    return .known (base ++ (← optionalLength true))

/-- The rest of a type of times, with its precision and its zone. -/
def timeType (base : String) : Parser TypeName := do
  let size ← optionalSize
  if ← keyword "WITH" then
    expectAll ["TIME", "ZONE"]
    return .known (base ++ size ++ " WITH TIME ZONE")
  else if ← keyword "WITHOUT" then
    expectAll ["TIME", "ZONE"]
    return .known (base ++ size ++ " WITHOUT TIME ZONE")
  else
    return .known (base ++ size)

/-- Strings in parentheses, as the values of an enumeration. -/
def enumerated (base : String) : Parser TypeName := do
  let values ← parenthesized <| commaSeparated do
    match ← next with
    | some (.single text) => return quoteText '\'' text
    | _ => fail
  return .known (base ++ "(" ++ String.intercalate ", " values ++ ")")

/-- The types whose name is a single word. -/
def plainTypes : List String :=
  ["BOOLEAN", "BOOL", "REAL", "FLOAT4", "FLOAT32", "FLOAT64", "FLOAT8", "UUID", "DATE", "DATE32",
   "JSON", "JSONB", "REGCLASS", "TEXT", "TINYTEXT", "MEDIUMTEXT", "LONGTEXT", "BYTEA",
   "TINYBLOB", "MEDIUMBLOB", "LONGBLOB", "INT64", "TRIGGER", "TIMESTAMP_NTZ"]

/-- The types that may carry a size. -/
def sizedTypes : List String :=
  ["FLOAT", "CLOB", "BINARY", "BLOB", "BYTES", "DATETIME", "STRING", "VARBIT"]

/-- The types of whole numbers, which may carry a display width and lack a sign. -/
def wholeTypes : List String :=
  ["TINYINT", "INT2", "SMALLINT", "MEDIUMINT", "INT", "INT4", "INT8", "INTEGER", "BIGINT"]

/-- The types that may carry a precision and a scale. -/
def exactTypes : List String := ["NUMERIC", "DECIMAL", "DEC", "BIGNUMERIC", "BIGDECIMAL"]

/-- What stands in parentheses behind a type that the language does not know. -/
def typeModifiers : Parser String := do
  if ← symbol "(" then
    let found ← loop (fun found => do
      match ← next with
      | some (.word text _) => return .inl (text :: found)
      | some (.quoted text) => return .inl (("`" ++ text ++ "`") :: found)
      | some (.number digits _) => return .inl (digits :: found)
      | some (.single text) => return .inl (text :: found)
      | some (.symbol ",") => return .inl found
      | some (.symbol ")") => return .inr found.reverse
      | _ => fail) []
    return if found.isEmpty then "" else "(" ++ String.intercalate ", " found ++ ")"
  else
    return ""

/-- The name of a type. -/
def typeName : Parser TypeName := do
  let start ← ahead
  match ← next with
  | some (.word _ key) =>
    if plainTypes.contains key then return .known key
    else if sizedTypes.contains key then return .known (key ++ (← optionalSize))
    else if wholeTypes.contains key then
      let size ← optionalSize
      return .known (key ++ size ++ (if ← keyword "UNSIGNED" then " UNSIGNED" else ""))
    else if exactTypes.contains key then return .known (key ++ (← optionalSizes ",").1)
    else match key with
    | "DOUBLE" =>
      if ← keyword "PRECISION" then return .known "DOUBLE PRECISION"
      else return .known ("DOUBLE" ++ (← optionalSizes ",").1)
    | "VARCHAR" | "NVARCHAR" => return .known (key ++ (← optionalLength true))
    | "VARBINARY" => return .known (key ++ (← optionalLength false))
    | "CHARACTER" | "CHAR" => characterType key
    | "BIT" =>
      if ← keyword "VARYING" then return .known ("BIT VARYING" ++ (← optionalSize))
      else return .known ("BIT" ++ (← optionalSize))
    | "TIMESTAMP" | "TIME" => timeType key
    | "TIMESTAMPTZ" | "TIMETZ" => return .known (key ++ (← optionalSize))
    | "ENUM" | "SET" => enumerated key
    | "INTERVAL" => return .interval
    | "ARRAY" => fail
    | _ =>
      goTo start
      let name ← pathText
      return .custom (name ++ (← typeModifiers))
  | some (.quoted _) =>
    goTo start
    let name ← pathText
    return .custom (name ++ (← typeModifiers))
  | _ => fail

/-! ### Units of time -/

/-- The units that may be taken from a date or a time. -/
def timeFields : List String :=
  ["YEAR", "YEARS", "MONTH", "MONTHS", "WEEK", "WEEKS", "DAY", "DAYOFWEEK", "DAYOFYEAR", "DAYS",
   "DATE", "DATETIME", "HOUR", "HOURS", "MINUTE", "MINUTES", "SECOND", "SECONDS", "CENTURY",
   "DECADE", "DOY", "DOW", "EPOCH", "ISODOW", "ISOYEAR", "ISOWEEK", "JULIAN", "MICROSECOND",
   "MICROSECONDS", "MILLENIUM", "MILLENNIUM", "MILLISECOND", "MILLISECONDS", "NANOSECOND",
   "NANOSECONDS", "QUARTER", "TIME", "TIMEZONE", "TIMEZONE_ABBR", "TIMEZONE_HOUR",
   "TIMEZONE_MINUTE", "TIMEZONE_REGION"]

/-- The units that an interval may be measured in. -/
def intervalUnits : List String :=
  ["YEAR", "YEARS", "MONTH", "MONTHS", "WEEK", "WEEKS", "DAY", "DAYS", "HOUR", "HOURS", "MINUTE",
   "MINUTES", "SECOND", "SECONDS", "CENTURY", "DECADE", "DOW", "DOY", "EPOCH", "ISODOW",
   "ISOYEAR", "JULIAN", "MICROSECOND", "MICROSECONDS", "MILLENIUM", "MILLENNIUM", "MILLISECOND",
   "MILLISECONDS", "NANOSECOND", "NANOSECONDS", "QUARTER", "TIMEZONE", "TIMEZONE_HOUR",
   "TIMEZONE_MINUTE"]

/-- A unit of time. -/
def timeField : Parser String := expectOneOf timeFields

end SemanticQuery.Sql.Parser
