import SemanticQuery.Loading

/-!
# Filters

Constraints on columns that come with a request, and how they read as conditions.
-/

namespace SemanticQuery

/-- How a filter compares its column with its value. -/
inductive FilterOperator where
  | equals | notEquals | greaterThan | greaterThanEquals | minorThan | minorThanEquals
  | isIn | notIn | like
  deriving DecidableEq

namespace FilterOperator

/-- The operators with their names. -/
def names : List (String × FilterOperator) :=
  [("EQUALS", .equals), ("NOT_EQUALS", .notEquals), ("GREATER_THAN", .greaterThan),
    ("GREATER_THAN_EQUALS", .greaterThanEquals), ("MINOR_THAN", .minorThan),
    ("MINOR_THAN_EQUALS", .minorThanEquals), ("IN", .isIn), ("NOT_IN", .notIn), ("LIKE", .like)]

/-- The name of an operator. -/
def name : FilterOperator → String
  | .equals => "EQUALS"
  | .notEquals => "NOT_EQUALS"
  | .greaterThan => "GREATER_THAN"
  | .greaterThanEquals => "GREATER_THAN_EQUALS"
  | .minorThan => "MINOR_THAN"
  | .minorThanEquals => "MINOR_THAN_EQUALS"
  | .isIn => "IN"
  | .notIn => "NOT_IN"
  | .like => "LIKE"

/-- The spelling of an operator in a condition. -/
def sql : FilterOperator → String
  | .equals => "="
  | .notEquals => "<>"
  | .greaterThan => ">"
  | .greaterThanEquals => ">="
  | .minorThan => "<"
  | .minorThanEquals => "<="
  | .isIn => "IN"
  | .notIn => "NOT IN"
  | .like => "LIKE"

/-- How an operator is written. -/
def shape : Json.Shape FilterOperator := .choice names

end FilterOperator

/-- A constraint on a column. -/
structure Filter where
  bizName : String
  /-- The display name, which is the column's name in queries. -/
  name : String
  operator : FilterOperator
  value : Json.Value
  /-- The element that the filter belongs to. -/
  elementId : Option Int

/-! ### Conditions -/

/-- A text with every single quote written twice. -/
def doubleQuotes (text : String) : String :=
  String.ofList (text.toList.flatMap fun c => if c == '\'' then ['\'', '\''] else [c])

/-- A text between single quotes. -/
def singleQuoted (text : String) : String := "'" ++ doubleQuotes text ++ "'"

mutual

/-- A value as it stands in a condition: texts in single quotes, lists in parentheses. -/
def sqlValue : Json.Value → String
  | .null => "NULL"
  | .bool b => if b then "true" else "false"
  | .int i => toString i
  | .double d => d.print
  | .string text => singleQuoted text
  | .array items => "(" ++ sqlValues items ++ ")"
  | .object members => singleQuoted (Json.Value.object members).print

/-- Values with commas between them. -/
def sqlValues : List Json.Value → String
  | [] => ""
  | [v] => sqlValue v
  | v :: vs => sqlValue v ++ ", " ++ sqlValues vs

end

namespace Filter

/-- The filter as a condition. -/
def sql (f : Filter) : String := f.name ++ " " ++ f.operator.sql ++ " " ++ sqlValue f.value

/-- How a filter is written. -/
def shape : Json.Shape Filter :=
  Json.Record.shape
    (Filter.mk <$> .optional "bizName" .string "" <*> .required "name" .string
      <*> .required "operator" FilterOperator.shape <*> .required "value" Json.Shape.value
      <*> .optional "elementId" (.optional .int) none)

/-- How the filters of a request are written. -/
def listShape : Json.Shape (List Filter) :=
  Json.Record.shape (id <$> .optional "filters" (.list shape) [])

/-- Loads the filters of a request. -/
def loadAll (text : String) : Except Failure (List Filter) := listShape.load text

/-- The first of the filters that belongs to an element. -/
def forElement (filters : List Filter) (elementId : Int) : Option Filter :=
  filters.find? (·.elementId == some elementId)

end Filter

end SemanticQuery
