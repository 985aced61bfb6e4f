/-!
# File trees

Directories with everything below them. A path holds names between slashes; an empty name and a
single point stand for the directory itself.
-/

namespace SemanticQuery

/-- A file, or a directory with what lies under its names. -/
inductive FileTree where
  | file (text : String)
  | directory (entries : List (String × FileTree))

namespace FileTree

/-- A directory that holds nothing. -/
def empty : FileTree := .directory []

/-- The names of a path, between slashes. -/
def names (path : String) : List String := path.splitOn "/"

/-- What lies under some names. -/
def find? : List String → FileTree → Option FileTree
  | [], t => some t
  | _ :: _, .file _ => none
  | name :: rest, .directory entries =>
    if name == "" || name == "." then find? rest (.directory entries)
    else (entries.lookup name).bind (find? rest)

/-- What lies under a path. The empty path leads nowhere. -/
def at? (t : FileTree) (path : String) : Option FileTree :=
  if path.isEmpty then none else t.find? (names path)

/-- The text of the file under a path. -/
def read? (t : FileTree) (path : String) : Option String :=
  match t.at? path with
  | some (.file text) => some text
  | _ => none

/-- What lies in the directory under a path. -/
def entries? (t : FileTree) (path : String) : Option (List (String × FileTree)) :=
  match t.at? path with
  | some (.directory entries) => some entries
  | _ => none

/-- The entries without the one under a name. -/
def without (name : String) (entries : List (String × FileTree)) : List (String × FileTree) :=
  entries.filter fun (key, _) => key != name

/-- The tree with a file under a path, in directories that are made for it. -/
def insert (text : String) : List String → FileTree → FileTree
  | [], _ => .file text
  | name :: rest, t =>
    let entries :=
      match t with
      | .directory entries => entries
      | .file _ => []
    let below := (entries.lookup name).getD empty
    .directory (without name entries ++ [(name, insert text rest below)])

end FileTree

end SemanticQuery
