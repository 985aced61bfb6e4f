import SemanticQuery.Filter
import SemanticQuery.Schema
import SemanticQuery.Text.Blank

/-!
# Candidates

The interpretations of a request: the model that one is about, the schema elements that were found
in the text, and the query that was generated for it, if any.
-/

namespace SemanticQuery

open Number

/-! ### Matches -/

/-- A schema element that was found in a text. -/
structure ElementMatch where
  element : Element
  /-- The dictionary word that led to it. -/
  word : String
  similarity : Double
  /-- The part of the text that was searched. -/
  detectWord : Option String

/-- How a match is written. -/
def ElementMatch.shape : Json.Shape ElementMatch :=
  Json.Record.shape
    (ElementMatch.mk <$> .required "element" Element.shape <*> .required "word" .string
      <*> .optional "similarity" .double (.ofNat 1)
      <*> .optional "detectWord" (.optional .string) none)

/-! ### Candidates -/

/-- A query and the fields that it is about. -/
structure SqlInfo where
  /-- The query as it was generated. -/
  raw : String
  /-- The query as it was corrected. -/
  corrected : String
  /-- Operators and values by business name, in the order of the names. -/
  filterFields : List (String × String)
  /-- The business names of the selected fields. -/
  selectFields : List String

/-- A range of days. -/
structure DateInfo where
  startDate : Option String
  endDate : Option String

/-- An interpretation of a request. -/
structure Candidate where
  model : Option Int
  /-- How the candidate is answered. -/
  mode : String
  elementMatches : List ElementMatch
  score : Double
  sql : SqlInfo
  /-- Attributes in the order of their names. -/
  properties : List (String × Json.Value)
  filters : List Filter
  dates : Option DateInfo

/-- The model of candidates that are bound to none. -/
def anyModel : Int := -1

namespace SqlInfo

/-- No query. -/
def none : SqlInfo := ⟨"", "", [], []⟩

/-- How a query is written. -/
def shape : Json.Shape SqlInfo :=
  Json.Record.shape
    (SqlInfo.mk <$> .optional "rawSql" .string "" <*> .optional "correctedSql" .string ""
      <*> .optional "filterFields" (.map .string) []
      <*> .optional "selectFields" (.list .string) [])

end SqlInfo

/-- How a range of days is written. -/
def DateInfo.shape : Json.Shape DateInfo :=
  Json.Record.shape
    (DateInfo.mk <$> .optional "startDate" (.optional .string) none
      <*> .optional "endDate" (.optional .string) none)

namespace Candidate

/-- A candidate about nothing. -/
def blank : Candidate := ⟨none, "", [], .zero false, .none, [], [], none⟩

/-- How a candidate is written. -/
def shape : Json.Shape Candidate :=
  Json.Record.shape
    (Candidate.mk <$> .optional "modelId" (.optional .int) none <*> .optional "queryMode" .string ""
      <*> .optional "elementMatches" (.list ElementMatch.shape) []
      <*> .optional "score" .double (.zero false) <*> .optional "sqlInfo" SqlInfo.shape .none
      <*> .optional "properties" (.map Json.Shape.value) []
      <*> .optional "dimensionFilters" (.list Filter.shape) []
      <*> .optional "dateInfo" (.optional DateInfo.shape) none)

/-- The models that the candidate is about; none stand for all. -/
def modelScope (c : Candidate) : List Int :=
  match c.model with
  | some id => if id == anyModel then [] else [id]
  | none => []

/-- Whether the candidate has a query. -/
def hasSql (c : Candidate) : Bool := !Text.isBlankText c.sql.raw

end Candidate

end SemanticQuery
