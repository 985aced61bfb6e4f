import SemanticQuery.Loading
import SemanticQuery.SortedList

/-!
# Plugins

Other ways to answer a request: what triggers them, the models that they serve and the parameters
that they are called with.
-/

namespace SemanticQuery

/-- Where the value of a parameter comes from. -/
inductive ParamKind where
  /-- From a schema element that was found in the text. -/
  | semantic
  /-- From the plugin itself. -/
  | custom
  /-- From the caller. -/
  | forward
  deriving DecidableEq

/-- A parameter of a plugin. -/
structure Param where
  key : String
  kind : ParamKind
  elementId : Option Int
  modelId : Option Int
  value : Option String
  deriving DecidableEq

/-- A plugin. -/
structure Plugin where
  id : Int
  name : String
  /-- The mode in which the plugin answers. -/
  type : String
  /-- The models that the plugin serves, in ascending order. -/
  models : List Int
  /-- Whether it serves every model. -/
  servesAll : Bool
  keywords : List String
  patterns : List String
  params : List Param
  deriving DecidableEq

namespace ParamKind

/-- The kinds with their names. -/
def names : List (String × ParamKind) :=
  [("SEMANTIC", .semantic), ("CUSTOM", .custom), ("FORWARD", .forward)]

/-- The name of a kind. -/
def name : ParamKind → String
  | .semantic => "SEMANTIC"
  | .custom => "CUSTOM"
  | .forward => "FORWARD"

/-- How a kind is written. -/
def shape : Json.Shape ParamKind := .choice names

end ParamKind

/-- How a parameter is written. -/
def Param.shape : Json.Shape Param :=
  Json.Record.shape
    (Param.mk <$> .required "key" .string <*> .required "paramType" ParamKind.shape
      <*> .optional "elementId" (.optional .int) none
      <*> .optional "modelId" (.optional .int) none
      <*> .optional "value" (.optional .string) none)

namespace Plugin

/-- How a plugin is written. -/
def shape : Json.Shape Plugin :=
  Json.Record.shape
    (Plugin.mk <$> .required "id" .int <*> .required "name" .string
      <*> .optional "type" .string "PLUGIN"
      <*> .optional "modelIds" (.mapValue SortedList.ofList (.list .int)) []
      <*> .optional "containsAllModel" .bool false
      <*> .optional "keywords" (.list .string) [] <*> .optional "patterns" (.list .string) []
      <*> .optional "params" (.list Param.shape) [])

/-- Loads a list of plugins. -/
def loadAll (text : String) : Except Failure (List Plugin) := (Json.Shape.list shape).load text

/-- The requested models that the plugin serves, or `none` if it serves none of them. An empty list
stands for a plugin without a particular model: it serves all, or nothing was requested and it
names none. -/
def eligibleModels (p : Plugin) (requested : List Int) : Option (List Int) :=
  if p.servesAll then some []
  else if requested.isEmpty then some p.models
  else
    let shared := p.models.filter requested.contains
    if shared.isEmpty then none else some shared

end Plugin

end SemanticQuery
