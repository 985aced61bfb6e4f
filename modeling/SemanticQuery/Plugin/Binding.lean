import SemanticQuery.Candidate
import SemanticQuery.Plugin.Basic

/-!
# Parameters of a call

The values with which a plugin is called for a candidate. A parameter that stands for an element
takes the word of an exact match, unless a filter of the request says otherwise.
-/

namespace SemanticQuery

open Number

/-- A parameter with its value. -/
structure Binding where
  key : String
  value : Json.Value

/-- Whether a match is one of an element's values or ids, and exact. -/
def ElementMatch.isExact (m : ElementMatch) (elementId : Int) : Bool :=
  m.element.id == elementId && m.element.kind.isFilterable && (Double.ofNat 1).le m.similarity

/-- Whether a filter requires a word. -/
def Filter.requires (f : Filter) (word : String) : Bool :=
  match f.value with
  | .string text => text == word
  | _ => false

/-- The word that an element is bound to. -/
def boundWord (found : List ElementMatch) (filters : List Filter) (elementId : Int) :
    Option String :=
  match found.find? (·.isExact elementId) with
  | none => none
  | some m =>
    match Filter.forElement filters elementId with
    | some f => if f.requires m.word then some m.word else none
    | none => some m.word

/-- The value of a parameter, if it has one. -/
def Param.binding (found : List ElementMatch) (filters : List Filter) (p : Param) :
    Option Binding :=
  match p.kind with
  | .semantic =>
    (p.elementId.bind (boundWord found filters)).map fun word => ⟨p.key, .string word⟩
  | .custom => p.value.map fun v => ⟨p.key, .string v⟩
  | .forward => none

/-- The bindings of a call: its parameters, the days, the tenant and the fields of the query. -/
def bindings (p : Plugin) (c : Candidate) (filters : List Filter) (tenant : Option Int) :
    List Binding :=
  let dates :=
    match c.dates with
    | some d =>
      (d.startDate.map fun s => Binding.mk "start_date" (.string s)).toList ++
        (d.endDate.map fun s => Binding.mk "end_date" (.string s)).toList
    | none => []
  let tenants :=
    match tenant with
    | some t => if 0 < t then [Binding.mk "tenant_id" (.int t)] else []
    | none => []
  let fields := Json.Value.object (c.sql.filterFields.map fun (k, v) => (k, .string v))
  let selected := Json.Value.array (c.sql.selectFields.map .string)
  p.params.filterMap (Param.binding c.elementMatches filters) ++ dates ++ tenants ++
    [⟨"filter_fields_map", .string fields.print⟩, ⟨"select_fields", .string selected.print⟩]

end SemanticQuery
