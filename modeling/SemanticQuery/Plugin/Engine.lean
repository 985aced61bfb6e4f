import SemanticQuery.Plugin.Fields

/-!
# The recall engine

A request that triggers a plugin gets candidates for it: one for every model that the plugin
serves, or one that is bound to no model.
-/

namespace SemanticQuery

open Number

/-- Plugins with the query modes that they answer. -/
structure Engine where
  recaller : Recaller
  modes : List String

namespace Engine

/-- The engine of a configuration. -/
def load (c : Config) (plugins : List Plugin) : Except Failure Engine := do
  return ⟨← Recaller.ofPlugins c.strategy plugins, c.pluginModes⟩

/-- The mode of plugins whose type is no mode. -/
def defaultMode (e : Engine) : String := e.modes.head?.getD "PLUGIN"

/-- The mode in which a plugin answers. -/
def modeOf (e : Engine) (p : Plugin) : String :=
  if e.modes.contains p.type then p.type else e.defaultMode

/-- Whether a plugin's candidate covers the whole text already. -/
def skips (e : Engine) (ctx : QueryContext) : Bool :=
  ctx.candidates.any fun c =>
    (Double.ofNat ctx.length).le c.score && e.modes.contains c.mode

/-- The filters of matches: values and ids require the word that was matched. -/
def elementFilters (found : List ElementMatch) : List Filter :=
  (found.filter (·.element.kind.isFilterable)).map fun m =>
    ⟨m.element.bizName, m.element.name, .equals, .string m.word, some m.element.id⟩

/-- The candidate of a recalled plugin for a model. -/
def candidateFor (e : Engine) (ctx : QueryContext) (r : Recalled) (model : Int) : Candidate :=
  let found := ctx.matchesFor model
  { model := some model
    mode := e.modeOf r.plugin
    elementMatches := found
    score := .ofNat r.score
    sql := .none
    properties :=
      SortedMap.ofList
        [(pluginIdProperty, .int r.plugin.id), ("name", .string r.plugin.name),
          ("type", .string "plugin")]
    filters := elementFilters found
    dates := none }

/-- The candidates of a recalled plugin. -/
def candidatesOf (e : Engine) (ctx : QueryContext) (r : Recalled) : List Candidate :=
  let models := if r.plugin.servesAll || r.models.isEmpty then [anyModel] else r.models
  models.map (e.candidateFor ctx r)

/-- The candidates that recall adds to a request. -/
def recalled (e : Engine) (ctx : QueryContext) : List Candidate :=
  if e.skips ctx || !e.recaller.isReady ctx then []
  else
    match e.recaller.choose ctx with
    | some r => fillFields ctx.candidates (e.candidatesOf ctx r)
    | none => []

/-- Runs recall for a request: the number of candidates that it adds, and the request with them
behind its own. -/
def run (e : Engine) (ctx : QueryContext) : Nat × QueryContext :=
  let added := e.recalled ctx
  (added.length, { ctx with candidates := ctx.candidates ++ added })

/-- The request with the candidates that recall adds. -/
def parse (e : Engine) (ctx : QueryContext) : QueryContext := (e.run ctx).2

end Engine

end SemanticQuery
