import SemanticQuery.Plugin.Recall
import SemanticQuery.Sql.Predicate
import SemanticQuery.Sql.Reading

/-!
# Fields of a query

The schema elements that the fields of a generated query stand for. A field is looked up by
display name, then by business name, then by alias.
-/

namespace SemanticQuery

/-- The element that a field names: by display name, else by business name, else by alias. -/
def resolveField (elements : List Element) (field : String) : Option Element :=
  (elements.find? (·.name == field)).or
    ((elements.find? (·.bizName == field)).or (elements.find? (·.aliases.contains field)))

/-- The attribute that names the plugin of a candidate. -/
def pluginIdProperty : String := "plugin_id"

/-- Whether a candidate has a query whose fields can be looked up. -/
def Candidate.isSource (c : Candidate) : Bool :=
  (c.properties.lookup pluginIdProperty).isNone && c.hasSql && !c.elementMatches.isEmpty

/-- The conditions of a query by business name; of several on one the last counts. -/
def filterFields (elements : List Element) (s : Sql.Statement) : List (String × String) :=
  SortedMap.ofList (s.predicates.filterMap fun p =>
    (resolveField elements p.field).map fun e => (e.bizName, p.operator ++ " " ++ p.value))

/-- The business names of the dimensions and metrics that a query selects. -/
def selectFields (elements : List Element) (s : Sql.Statement) : List String :=
  s.projectedColumns.filterMap fun field =>
    (resolveField (elements.filter (·.kind.isSelectable)) field).map Element.bizName

/-- The candidates with the fields of the first query among the earlier candidates, if it can be
read. -/
def fillFields (earlier targets : List Candidate) : List Candidate :=
  match earlier.find? Candidate.isSource with
  | none => targets
  | some source =>
    match Sql.Statement.readSelection source.sql.raw with
    | .error _ => targets
    | .ok s =>
      let elements := source.elementMatches.map ElementMatch.element
      let filters := filterFields elements s
      let selected := selectFields elements s
      targets.map fun c =>
        { c with sql := { c.sql with filterFields := filters, selectFields := selected } }

end SemanticQuery
