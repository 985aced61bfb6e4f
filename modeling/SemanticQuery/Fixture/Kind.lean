import SemanticQuery.Config
import SemanticQuery.Dictionary.Snapshot
import SemanticQuery.Plugin.Recall

/-!
# Kinds of fixtures

A fixture is a JSON file whose name begins with what it holds. It is sound if its text can be
loaded as that.
-/

namespace SemanticQuery.Fixture

/-- What a fixture holds. -/
inductive Kind where
  | config | dictionary | schema | plugins | filters
  deriving DecidableEq

namespace Kind

/-- All kinds, in the order in which a name is compared with them. -/
def all : List Kind := [.config, .dictionary, .schema, .plugins, .filters]

/-- The name of a kind. -/
def name : Kind → String
  | .config => "config"
  | .dictionary => "dictionary"
  | .schema => "schema"
  | .plugins => "plugins"
  | .filters => "filters"

/-- The kind with whose name the name of a file begins. -/
def ofFileName? (file : String) : Option Kind :=
  all.find? fun k => k.name.toList.isPrefixOf file.toList

/-- Loads a text as a fixture of a kind. -/
def check (text : String) : Kind → Except Failure Unit
  | .config => (Config.load text).map fun _ => ()
  | .dictionary => (Dictionary.Entries.load text).map fun _ => ()
  | .schema => (Schema.load text).map fun _ => ()
  | .plugins => do
    let plugins ← Plugin.loadAll text
    (Recaller.ofPlugins .pattern plugins).map fun _ => ()
  | .filters => (Filter.loadAll text).map fun _ => ()

end Kind

/-- Whether a file is a JSON file: behind the last point of its name stands `json`, and before it
anything. -/
def isDocument (file : String) : Bool :=
  match file.toList.reverse with
  | 'n' :: 'o' :: 's' :: 'j' :: '.' :: _ :: _ => true
  | _ => false

end SemanticQuery.Fixture
