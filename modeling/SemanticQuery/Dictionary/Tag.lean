import SemanticQuery.Number.Word

/-!
# Tags

What a term is the name of, in the form `_model_element_kind`. A tag without a kind marks a value
of a dimension, one without an element a model; terms that are found by their endings carry the
mark `_suffix` behind their tags.
-/

namespace SemanticQuery.Dictionary

/-- What a term may name. -/
inductive WordKind where
  | model | metric | dimension | value | entity | tag | other
  deriving DecidableEq

/-- What a tag says. -/
structure Tag where
  model : Option Int
  element : Option Int
  kind : WordKind
  /-- Whether the tag carries the mark of endings. -/
  suffix : Bool
  deriving DecidableEq

/-! ### Characters -/

/-- The character between the parts of a tag. -/
def separator : Char := '_'

/-- The mark of endings. -/
def suffixMark : List Char := ['_', 's', 'u', 'f', 'f', 'i', 'x']

/-- The parts between separators. -/
def tagParts : List Char → List (List Char)
  | [] => [[]]
  | c :: cs =>
    if c == separator then [] :: tagParts cs
    else
      match tagParts cs with
      | part :: parts => (c :: part) :: parts
      | [] => [[c]]

/-- The kind that a word names. -/
def WordKind.ofWord (word : List Char) : WordKind :=
  match String.ofList word with
  | "metric" => .metric
  | "dimension" => .dimension
  | "entity" => .entity
  | "tag" => .tag
  | "model" => .model
  | _ => .other

/-- A text without an ending, if it has it. -/
def dropEnding? (ending cs : List Char) : Option (List Char) :=
  if ending.isSuffixOf cs then some (cs.take (cs.length - ending.length)) else none

namespace Tag

/-- The kind of a tag, from its ids and its parts. -/
def kindOf : Option Int → Option Int → List (List Char) → WordKind
  | none, _, _ => .other
  | some _, none, _ :: word :: _ => .ofWord word
  | some _, none, _ => .model
  | some _, some _, _ :: _ :: word :: _ => .ofWord word
  | some _, some _, _ => .value

/-- Reads a tag without the mark of endings. -/
def ofBody (suffix : Bool) : List Char → Tag
  | '_' :: body =>
    let parts := tagParts body
    let model := parts.head?.bind Number.readInteger
    let element := parts[1]?.bind Number.readInteger
    ⟨model, element, kindOf model element parts, suffix⟩
  | _ => ⟨none, none, .other, suffix⟩

/-- Reads a tag. -/
def read (text : String) : Tag :=
  match dropEnding? suffixMark text.toList with
  | some body => ofBody true body
  | none => ofBody false text.toList

end Tag

/-! ### Tags of terms -/

/-- Characters without any mark of endings. -/
def dropMarks : List Char → List Char
  | '_' :: 's' :: 'u' :: 'f' :: 'f' :: 'i' :: 'x' :: rest => dropMarks rest
  | c :: rest => c :: dropMarks rest
  | [] => []

/-- A tag without any mark of endings. -/
def withoutMarks (tag : String) : String := String.ofList (dropMarks tag.toList)

/-- Whether a tag names an entity. -/
def isEntity (tag : String) : Bool := ['e', 'n', 't', 'i', 't', 'y'].isSuffixOf tag.toList

/-- Whether one of the tags names a metric or a dimension. -/
def namesMetricOrDimension (tags : List String) : Bool :=
  tags.any fun t => (Tag.read t).kind == .metric || (Tag.read t).kind == .dimension

/-- Whether one of the tags belongs to one of the models. -/
def belongsToAny (tags : List String) (models : List Int) : Bool :=
  tags.any fun t =>
    match (Tag.read t).model with
    | some m => models.contains m
    | none => false

/-- The tags, and those of the others that are not among them, each where it comes first. -/
def union (tags others : List String) : List String :=
  others.foldl (fun ts t => if ts.contains t then ts else ts ++ [t]) tags

end SemanticQuery.Dictionary
