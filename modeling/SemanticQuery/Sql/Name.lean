import SemanticQuery.Text.Blank
import SemanticQuery.Text.Case

/-!
# Names

A name may stand in quotes and behind the names that qualify it. Two spellings name the same
thing when they agree without quotes, without the blanks around them and without regard to case.
-/

namespace SemanticQuery.Sql.Name

/-- The text between a first and a last character `q`, which are two. -/
def between? (q : Char) : List Char → Option (List Char)
  | [] => none
  | c :: rest => if c == q && rest.getLast? == some q then some rest.dropLast else none

/-- The name without the pair of quotes around it, double quotes or backticks. -/
def unquoted (name : String) : String :=
  match (between? '"' name.toList).or (between? '\x60' name.toList) with
  | some inside => String.ofList inside
  | none => name

/-- The form in which names are compared. -/
def normalized (name : String) : String := Text.lower (unquoted (Text.trim name))

/-- The last component of the characters that follow. `quote` is the quote that is open, and
`component` what follows the last dot outside quotes. -/
def lastFrom (quote : Option Char) (component : List Char) : List Char → List Char
  | [] => component
  | c :: rest =>
    match quote with
    | some q => lastFrom (if c == q then none else some q) component rest
    | none =>
      if c == '"' || c == '\x60' then lastFrom (some c) component rest
      else if c == '.' then lastFrom none rest rest
      else lastFrom none component rest

/-- The last component of a qualified name, without the blanks around it. -/
def lastComponent (name : String) : String :=
  String.ofList (Text.trimChars (lastFrom none name.toList name.toList))

end SemanticQuery.Sql.Name
