import SemanticQuery.Json.Value
import SemanticQuery.SortedMap

/-!
# Shapes

What a document has to look like to be read as a value of some type. A shape knows how many more
levels of brackets it may enter; a record is an object with known members, or the array of its
fields in the order of their declaration. Members that a record does not know are passed over,
whatever they hold.
-/

namespace SemanticQuery.Json

open Number

/-- How a document is read as a value of a type, with a bound on the levels of brackets. -/
def Shape (α : Type) : Type := Nat → Document → Option α

namespace Shape

variable {α β : Type}

/-- How many brackets may stand one inside the other. -/
def maxLevels : Nat := 127

/-- Reads a text. -/
def readText (s : Shape α) (text : String) : Option α :=
  (Document.read text).bind (s maxLevels)

/-! ### Scalars -/

/-- A text. -/
def string : Shape String
  | _, .string text => text
  | _, _ => none

/-- A truth value. -/
def bool : Shape Bool
  | _, .bool b => some b
  | _, _ => none

/-- An integer between two bounds. -/
def intBetween (low high : Int) : Shape Int
  | _, .number n =>
    match n.toInt? with
    | some i => if low ≤ i && i ≤ high then some i else none
    | none => none
  | _, _ => none

/-- An integer of 64 bits with a sign. -/
def int : Shape Int := intBetween (-signBound) (signBound - 1)

/-- A natural number of 64 bits. -/
def count : Shape Nat := fun levels d => (intBetween 0 (wordBound - 1) levels d).map Int.toNat

/-- A double; integers are rounded. -/
def double : Shape Double
  | _, .number n =>
    match n.toInt? with
    | some i => some ((Double.ofNat i.natAbs).signed (decide (i < 0)))
    | none => n.toDouble?
  | _, _ => none

/-- Null, or what `s` reads. -/
def optional (s : Shape α) : Shape (Option α)
  | _, .null => some none
  | levels, d => (s levels d).map some

/-- One of several names, alone or as the only member of an object, with nothing under it. -/
def choice (names : List (String × α)) : Shape α
  | _, .string (some text) => names.lookup text
  | levels, .object [(some text, .null)] => if levels == 0 then none else names.lookup text
  | _, _ => none

/-! ### Lists and maps -/

/-- The documents of a list, each read. -/
def readAll (s : Shape α) (levels : Nat) : List Document → Option (List α)
  | [] => some []
  | d :: ds => do return (← s levels d) :: (← readAll s levels ds)

/-- A list of what `s` reads. -/
def list (s : Shape α) : Shape (List α)
  | levels + 1, .array items => readAll s levels items
  | _, _ => none

/-- The members of an object, each read. -/
def readMembers (s : Shape α) (levels : Nat) :
    List (Option String × Document) → Option (List (String × α))
  | [] => some []
  | (key, d) :: rest => do return (← key, ← s levels d) :: (← readMembers s levels rest)

/-- Members in the order of their keys, of repeated keys the last. -/
def map (s : Shape α) : Shape (List (String × α))
  | levels + 1, .object members => (readMembers s levels members).map SortedMap.ofList
  | _, _ => none

mutual

/-- Any value. -/
def value (levels : Nat) (d : Document) : Option Value :=
  match d with
  | .null => some .null
  | .bool b => some (.bool b)
  | .number n => n.toValue?
  | .string text => text.map .string
  | .array items => if levels == 0 then none else (values (levels - 1) items).map .array
  | .object members =>
    if levels == 0 then none
    else (memberValues (levels - 1) members).map fun found => .object (SortedMap.ofList found)

/-- The values of documents. -/
def values (levels : Nat) (ds : List Document) : Option (List Value) :=
  match ds with
  | [] => some []
  | d :: ds => do return (← value levels d) :: (← values levels ds)

/-- The values under keys. -/
def memberValues (levels : Nat) (ms : List (Option String × Document)) :
    Option (List (String × Value)) :=
  match ms with
  | [] => some []
  | (key, d) :: rest => do return (← key, ← value levels d) :: (← memberValues levels rest)

end

/-- The shape with its value under a function. -/
def mapValue (f : α → β) (s : Shape α) : Shape β := fun levels d => (s levels d).map f

end Shape

/-! ### Records -/

/-- How the fields of a record are read. The fields are given as one slot each, in the order of
their names; a slot is empty where the field is missing. -/
structure Record (α : Type) where
  /-- The names of the fields. -/
  names : List String
  /-- Reads the slots at the head of a list; gives the slots that are left. -/
  take : Nat → List (Option Document) → Option (α × List (Option Document))

namespace Record

variable {α β : Type}

/-- A record without fields. -/
def const (a : α) : Record α := ⟨[], fun _ slots => some (a, slots)⟩

/-- The fields of one record, then those of another. -/
def andThen (f : Record (α → β)) (r : Record α) : Record β where
  names := f.names ++ r.names
  take levels slots := do
    let (g, slots) ← f.take levels slots
    let (a, slots) ← r.take levels slots
    return (g a, slots)

instance : Functor Record where
  map f r := (const f).andThen r

instance : Seq Record where
  seq f r := f.andThen (r ())

/-- A field that may not be missing. -/
def required (name : String) (s : Shape α) : Record α where
  names := [name]
  take levels
    | some d :: slots => (s levels d).map (·, slots)
    | _ => none

/-- A field with a value for when it is missing. -/
def optional (name : String) (s : Shape α) (missing : α) : Record α where
  names := [name]
  take levels
    | some d :: slots => (s levels d).map (·, slots)
    | none :: slots => some (missing, slots)
    | [] => none

/-- The documents under a name. -/
def underName (name : String) (members : List (Option String × Document)) : List Document :=
  members.filterMap fun (key, d) => if key = some name then some d else none

/-- The slots of an object: every key has a text, and no name stands twice. -/
def slotsOfObject (names : List String) (members : List (Option String × Document)) :
    Option (List (Option Document)) :=
  if members.all (fun (key, _) => key.isSome) then
    names.mapM fun name =>
      match underName name members with
      | [] => some none
      | [d] => some (some d)
      | _ => none
  else none

/-- The slots of an array: the fields at its end may be missing. -/
def slotsOfArray (names : List String) (items : List Document) : Option (List (Option Document)) :=
  if items.length ≤ names.length then
    some (items.map some ++ List.replicate (names.length - items.length) none)
  else none

/-- The shape of a record. -/
def shape (r : Record α) : Shape α
  | levels + 1, .object members => do
    let (a, _) ← r.take levels (← slotsOfObject r.names members)
    return a
  | levels + 1, .array items => do
    let (a, _) ← r.take levels (← slotsOfArray r.names items)
    return a
  | _, _ => none

end Record

end SemanticQuery.Json
