import SemanticQuery.Matching.Segment
import SemanticQuery.Text.Blank

/-!
# Drafts

What the options of a call have said so far. An option sets one place of a draft and refuses a
value that it cannot take, or a second value where one is all it takes.
-/

namespace SemanticQuery.CommandLine

/-- The values that have been given. -/
structure Draft where
  config : Option String
  dictionary : Option String
  text : Option String
  schema : Option String
  sql : Option String
  date : Option String
  filters : Option String
  tenant : Option Int
  /-- The models in the order of the call. -/
  models : List Int
  /-- The protected tokens in the order of the call. -/
  tokens : List Matching.ProtectedToken

namespace Draft

/-- Nothing has been given. -/
def empty : Draft := ⟨none, none, none, none, none, none, none, none, [], []⟩

end Draft

/-! ### Values -/

/-- The path of a file; it is not empty. -/
def readPath (value : String) : Option String := if value.isEmpty then none else some value

/-- An id. -/
def readId (value : String) : Option Int := Number.readInteger value.toList

/-- The offset and the length of a protected token, with a colon between them. -/
def readToken (value : String) : Option Matching.ProtectedToken :=
  let cs := value.toList
  match cs.dropWhile (· != ':') with
  | [] => none
  | _ :: rest => do
    let offset ← Number.readWord (Text.trimChars (cs.takeWhile (· != ':')))
    let length ← Number.readWord (Text.trimChars rest)
    return ⟨offset, length⟩

/-! ### Options -/

/-- An option. It takes one value, as `--name value` or as `--name=value`. -/
structure OptionSpec where
  name : String
  /-- What stands for the value in a summary. -/
  label : String
  about : String
  /-- Whether a call without it is refused. -/
  isRequired : Bool
  /-- Whether a negative number that follows the option is its value. -/
  takesNegative : Bool
  /-- The draft with a value, unless the option refuses it. -/
  set : String → Draft → Option Draft

/-- What a place holds after a value for it has been read, unless it was taken before. -/
def once {α : Type} (read : String → Option α) (place : Option α) (value : String) :
    Option (Option α) :=
  match place with
  | some _ => none
  | none => (read value).map some

namespace OptionSpec

/-- The settings. -/
def config : OptionSpec :=
  ⟨"config", "CONFIG", "Engine configuration (JSON)", false, false,
    fun v d => (once readPath d.config v).map fun x => { d with config := x }⟩

/-- The file of the dictionary. -/
def dictionary : OptionSpec :=
  ⟨"dictionary", "DICTIONARY", "Dictionary file (JSON)", true, false,
    fun v d => (once readPath d.dictionary v).map fun x => { d with dictionary := x }⟩

/-- The text in which terms are looked for. -/
def text : OptionSpec :=
  ⟨"text", "TEXT", "Query text", true, false,
    fun v d => (once some d.text v).map fun x => { d with text := x }⟩

/-- The tenant who asks. -/
def tenant (takesNegative : Bool) : OptionSpec :=
  ⟨"tenant", "TENANT", "Requester's tenant id", false, takesNegative,
    fun v d => (once readId d.tenant v).map fun x => { d with tenant := x }⟩

/-- A model, one of several. -/
def model (about : String) : OptionSpec :=
  ⟨"model", "MODELS", about, false, false,
    fun v d => (readId v).map fun x => { d with models := d.models ++ [x] }⟩

/-- A protected token, one of several. -/
def protect : OptionSpec :=
  ⟨"protect", "PROTECTED", "Token that must not be split, as `offset:length`", false, false,
    fun v d => (readToken v).map fun x => { d with tokens := d.tokens ++ [x] }⟩

/-- The file of the schema. -/
def schema : OptionSpec :=
  ⟨"schema", "SCHEMA", "Schema metadata (JSON)", true, false,
    fun v d => (once readPath d.schema v).map fun x => { d with schema := x }⟩

/-- The query that is corrected. -/
def sql : OptionSpec :=
  ⟨"sql", "SQL", "SQL to correct", true, false,
    fun v d => (once some d.sql v).map fun x => { d with sql := x }⟩

/-- The reference date. -/
def date : OptionSpec :=
  ⟨"reference-date", "REFERENCE_DATE", "Reference date for the default date filter (YYYY-MM-DD)",
    false, false, fun v d => (once some d.date v).map fun x => { d with date := x }⟩

/-- The file of the filters. -/
def filters : OptionSpec :=
  ⟨"filters", "FILTERS", "Request filters (JSON)", false, false,
    fun v d => (once readPath d.filters v).map fun x => { d with filters := x }⟩

end OptionSpec

/-! ### Commands -/

/-- A command with its options. -/
structure CommandSpec where
  /-- The words that call it. -/
  call : String
  about : String
  options : List OptionSpec
  /-- The commands inside it, with what they are about. -/
  parts : List (String × String)

namespace CommandSpec

/-- Looking for terms. -/
def search : CommandSpec :=
  ⟨"s2sql match", "Print dictionary matches for every segment of a query",
    [.config, .dictionary, .text, .tenant false, .model "Restrict matches to these models",
      .protect], []⟩

/-- Correcting a query. -/
def correct : CommandSpec :=
  ⟨"s2sql correct", "Run the correction passes over one SQL statement",
    [.config, .schema, .sql, .model "Models the SQL was generated for", .tenant true, .date,
      .filters], []⟩

/-- What the command that prints summaries is about. -/
def helpAbout : String := "Print this message or the help of the given subcommand(s)"

/-- The whole program. -/
def program : CommandSpec :=
  ⟨"s2sql", "Match schema terms in natural-language queries and correct generated SQL",
    [.config], [("match", search.about), ("correct", correct.about), ("help", helpAbout)]⟩

/-- The option with a name. -/
def option? (c : CommandSpec) (name : String) : Option OptionSpec :=
  c.options.find? (·.name == name)

end CommandSpec

end SemanticQuery.CommandLine
