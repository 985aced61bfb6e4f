import SemanticQuery.Loading
import SemanticQuery.Text.Blank

/-!
# Configuration

The settings of look-ups, corrections and recall. Missing settings take their defaults, and
settings without a meaning are refused.
-/

namespace SemanticQuery

/-- How plugins are recalled. -/
inductive RecallStrategy where
  | keyword | pattern
  deriving DecidableEq

/-- The columns that hold times, by granularity. -/
structure TimeDimensions where
  day : String
  week : String
  month : String
  deriving DecidableEq

/-- The settings. -/
structure Config where
  /-- How many results a look-up gives at most. -/
  searchSize : Nat
  /-- How many results each look-up of a segment gives at most. -/
  segmentSearchSize : Nat
  /-- How many workers match segments; the results do not depend on it. -/
  workerThreads : Option Nat
  timeDimensions : TimeDimensions
  /-- The business name of the dimension that holds the tenant. -/
  tenantBizName : String
  /-- The query modes that plugins answer. -/
  pluginModes : List String
  strategy : RecallStrategy
  deriving DecidableEq

namespace RecallStrategy

/-- The strategies with their names. -/
def names : List (String × RecallStrategy) := [("keyword", .keyword), ("pattern", .pattern)]

/-- The name of a strategy. -/
def name : RecallStrategy → String
  | .keyword => "keyword"
  | .pattern => "pattern"

/-- How a strategy is written. -/
def shape : Json.Shape RecallStrategy := .choice names

end RecallStrategy

namespace TimeDimensions

/-- The default columns. -/
def standard : TimeDimensions := ⟨"数据日期", "数据日期_周", "数据日期_月"⟩

/-- How the columns are written. -/
def shape : Json.Shape TimeDimensions :=
  Json.Record.shape
    (TimeDimensions.mk <$> .optional "day" .string standard.day
      <*> .optional "week" .string standard.week <*> .optional "month" .string standard.month)

/-- Whether one of the columns holds times. -/
def containsAny (t : TimeDimensions) (columns : List String) : Bool :=
  columns.any fun c => c == t.day || c == t.week || c == t.month

end TimeDimensions

namespace Config

/-- The default settings. -/
def standard : Config where
  searchSize := 200
  segmentSearchSize := 3
  workerThreads := none
  timeDimensions := .standard
  tenantBizName := "tenant_id"
  pluginModes := ["PLUGIN", "WEB_PAGE", "WEB_SERVICE"]
  strategy := .keyword

/-- How settings are written. -/
def shape : Json.Shape Config :=
  Json.Record.shape
    (Config.mk <$> .optional "search_size" .count standard.searchSize
      <*> .optional "segment_search_size" .count standard.segmentSearchSize
      <*> .optional "worker_threads" (.optional .count) standard.workerThreads
      <*> .optional "time_dimensions" TimeDimensions.shape standard.timeDimensions
      <*> .optional "tenant_biz_name" .string standard.tenantBizName
      <*> .optional "plugin_query_modes" (.list .string) standard.pluginModes
      <*> .optional "recall" RecallStrategy.shape standard.strategy)

/-- The first setting without a meaning. -/
def fault? (c : Config) : Option ConfigFault :=
  if c.searchSize == 0 then some .searchSize
  else if c.segmentSearchSize == 0 then some .segmentSearchSize
  else if c.workerThreads == some 0 then some .workerThreads
  else if Text.isBlankText c.tenantBizName then some .tenantBizName
  else none

/-- Loads settings. -/
def load (text : String) : Except Failure Config := do
  let c ← shape.load text
  match c.fault? with
  | some fault => .error (.config fault)
  | none => .ok c

/-- Whether plugins answer a query mode. -/
def isPluginMode (c : Config) (mode : String) : Bool := c.pluginModes.contains mode

end Config

end SemanticQuery
