import SemanticQuery.Loading

/-!
# Schemas

The dimensions, metrics and values that models expose, and what they are called. A set of models
restricts every look-up; the empty set restricts nothing.
-/

namespace SemanticQuery

/-! ### Elements -/

/-- The kinds of schema elements. -/
inductive ElementKind where
  | dimension | metric | value | id | entity | tag
  deriving DecidableEq

namespace ElementKind

/-- The kinds with their names. -/
def names : List (String × ElementKind) :=
  [("DIMENSION", .dimension), ("METRIC", .metric), ("VALUE", .value), ("ID", .id),
    ("ENTITY", .entity), ("TAG", .tag)]

/-- The name of a kind. -/
def name : ElementKind → String
  | .dimension => "DIMENSION"
  | .metric => "METRIC"
  | .value => "VALUE"
  | .id => "ID"
  | .entity => "ENTITY"
  | .tag => "TAG"

/-- Whether a matched element of this kind becomes a filter. -/
def isFilterable (k : ElementKind) : Bool := k == .value || k == .id

/-- Whether an element of this kind may be selected. -/
def isSelectable (k : ElementKind) : Bool := k == .dimension || k == .metric

/-- How a kind is written. -/
def shape : Json.Shape ElementKind := .choice names

end ElementKind

/-- The names that people use for a value, and the value as it is stored. -/
structure ValueNames where
  bizName : Option String
  techName : Option String
  aliases : List String
  deriving DecidableEq

/-- An element that a model exposes. -/
structure Element where
  id : Int
  modelId : Int
  /-- The display name, which is also the column's name in queries. -/
  name : String
  bizName : String
  aliases : List String
  kind : ElementKind
  valueNames : List ValueNames
  deriving DecidableEq

namespace ValueNames

/-- How value names are written. -/
def shape : Json.Shape ValueNames :=
  Json.Record.shape
    (ValueNames.mk <$> .optional "bizName" (.optional .string) none
      <*> .optional "techName" (.optional .string) none
      <*> .optional "alias" (.list .string) [])

/-- The names of the value, the business name first. -/
def declared (v : ValueNames) : List String := v.bizName.toList ++ v.aliases

end ValueNames

namespace Element

/-- How an element is written. -/
def shape : Json.Shape Element :=
  Json.Record.shape
    (Element.mk <$> .required "id" .int <*> .required "modelId" .int <*> .required "name" .string
      <*> .required "bizName" .string <*> .optional "alias" (.list .string) []
      <*> .required "type" ElementKind.shape
      <*> .optional "valueMaps" (.list ValueNames.shape) [])

/-- Whether a field names the element, by its display name, business name or an alias. -/
def isNamed (e : Element) (field : String) : Bool :=
  e.name == field || e.bizName == field || e.aliases.contains field

/-- Whether the element belongs to one of the models. -/
def inScope (models : List Int) (e : Element) : Bool :=
  models.isEmpty || models.contains e.modelId

end Element

/-! ### Schemas -/

/-- The elements of all models, in the order of their declaration. -/
structure Schema where
  elements : List Element
  deriving DecidableEq

namespace Schema

/-- How a schema is written. -/
def shape : Json.Shape Schema :=
  Json.Record.shape (Schema.mk <$> .optional "elements" (.list Element.shape) [])

/-- Loads a schema. -/
def load (text : String) : Except Failure Schema := shape.load text

/-- The elements of the models. -/
def elementsOf (s : Schema) (models : List Int) : List Element :=
  s.elements.filter (Element.inScope models)

/-- The dimensions of the models. -/
def dimensions (s : Schema) (models : List Int) : List Element :=
  (s.elementsOf models).filter (·.kind == .dimension)

/-- The first dimension of the models with a business name. -/
def dimension? (s : Schema) (models : List Int) (bizName : String) : Option Element :=
  (s.dimensions models).find? (·.bizName == bizName)

/-- The first element with an id. -/
def element? (s : Schema) (id : Int) : Option Element := s.elements.find? (·.id == id)

end Schema

end SemanticQuery
