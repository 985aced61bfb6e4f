/-!
# Documents

A JSON text as the tree that its grammar gives, before anything is asked of it: repeated members
stand side by side in their order, numbers are kept as digits, and a string whose escapes spell
no character has no text. What a document is read as decides later which of these matter.
-/

namespace SemanticQuery.Json

/-- A number as it is written. -/
structure Numeral where
  negative : Bool
  /-- The digits before the point. -/
  whole : List Nat
  /-- The digits behind the point, if there is one. -/
  fraction : List Nat
  /-- The exponent, if there is one. -/
  exponent : Option Int
  deriving DecidableEq

/-- A JSON text as a tree. -/
inductive Document where
  | null
  | bool (value : Bool)
  | number (value : Numeral)
  /-- A string, with its text if its escapes spell characters. -/
  | string (text : Option String)
  | array (items : List Document)
  | object (members : List (Option String × Document))

namespace Document

/-! ### Blanks and numbers -/

/-- Whether a character may stand between tokens. -/
def isGap (c : Char) : Bool := c == ' ' || c == '\n' || c == '\t' || c == '\r'

/-- What follows the gap at the head of a text. -/
def skipGap (cs : List Char) : List Char := cs.dropWhile isGap

/-- The digits at the head of a text, and what follows them. -/
def digits (cs : List Char) : List Nat × List Char :=
  ((cs.takeWhile Char.isDigit).map (fun c => c.toNat - '0'.toNat), cs.dropWhile Char.isDigit)

/-- The number that digits spell. -/
def spelled (ds : List Nat) : Nat := ds.foldl (fun n d => n * 10 + d) 0

/-- The digits before the point: a single zero, or digits that begin with another one. -/
def wholePart (cs : List Char) : Option (List Nat × List Char) :=
  match digits cs with
  | ([], _) => none
  | (0 :: _ :: _, _) => none
  | found => some found

/-- The digits behind the point, at least one, if a point follows. -/
def fractionPart : List Char → Option (List Nat × List Char)
  | '.' :: cs =>
    match digits cs with
    | ([], _) => none
    | found => some found
  | cs => some ([], cs)

/-- The exponent, if its letter follows. -/
def exponentPart : List Char → Option (Option Int × List Char)
  | [] => some (none, [])
  | c :: cs =>
    if c == 'e' || c == 'E' then
      let (negative, cs) :=
        match cs with
        | '-' :: rest => (true, rest)
        | '+' :: rest => (false, rest)
        | rest => (false, rest)
      match digits cs with
      | ([], _) => none
      | (ds, rest) =>
        let n : Int := spelled ds
        some (some (if negative then -n else n), rest)
    else some (none, c :: cs)

/-- The number behind its sign. -/
def numeral (negative : Bool) (cs : List Char) : Option (Numeral × List Char) := do
  let (whole, cs) ← wholePart cs
  let (fraction, cs) ← fractionPart cs
  let (exponent, cs) ← exponentPart cs
  return (⟨negative, whole, fraction, exponent⟩, cs)

/-! ### Strings -/

/-- The value of a hexadecimal digit. -/
def hexDigit (c : Char) : Option Nat :=
  if c.isDigit then some (c.toNat - '0'.toNat)
  else if 'a' ≤ c && c ≤ 'f' then some (c.toNat - 'a'.toNat + 10)
  else if 'A' ≤ c && c ≤ 'F' then some (c.toNat - 'A'.toNat + 10)
  else none

/-- A character of a string, or one unit of a character that is escaped in two. -/
inductive Unit16 where
  | char (c : Char)
  | escaped (code : Nat)

/-- The character of a short escape. -/
def shortEscape : Char → Option Char
  | '"' => some '"'
  | '\\' => some '\\'
  | '/' => some '/'
  | 'b' => some '\x08'
  | 'f' => some '\x0c'
  | 'n' => some '\n'
  | 'r' => some '\r'
  | 't' => some '\t'
  | _ => none

/-- The units of a string up to its closing quote, the last one first. -/
def stringUnits (found : List Unit16) : List Char → Option (List Unit16 × List Char)
  | [] => none
  | '"' :: rest => some (found, rest)
  | '\\' :: 'u' :: a :: b :: c :: d :: rest =>
    match hexDigit a, hexDigit b, hexDigit c, hexDigit d with
    | some a, some b, some c, some d =>
      stringUnits (.escaped (((a * 16 + b) * 16 + c) * 16 + d) :: found) rest
    | _, _, _, _ => none
  | '\\' :: c :: rest =>
    match shortEscape c with
    | some c => stringUnits (.char c :: found) rest
    | none => none
  | c :: rest => if c.toNat < 0x20 || c == '\\' then none else stringUnits (.char c :: found) rest

/-- The characters that units spell: an escape is a character of its own, or the first half of a
pair whose second half follows at once. -/
def spell (found : List Char) : List Unit16 → Option (List Char)
  | [] => some found.reverse
  | .char c :: rest => spell (c :: found) rest
  | .escaped n :: rest =>
    if 0xD800 ≤ n && n < 0xDC00 then
      match rest with
      | .escaped m :: rest =>
        if 0xDC00 ≤ m && m < 0xE000 then
          spell (Char.ofNat (0x10000 + (n - 0xD800) * 0x400 + (m - 0xDC00)) :: found) rest
        else none
      | _ => none
    else if 0xDC00 ≤ n && n < 0xE000 then none
    else spell (Char.ofNat n :: found) rest

/-- The string behind its opening quote. -/
def quoted (cs : List Char) : Option (Option String × List Char) := do
  let (units, rest) ← stringUnits [] cs
  return ((spell [] units.reverse).map String.ofList, rest)

/-! ### Trees -/

mutual

/-- The tree at the head of a text that begins with no gap, and what follows it. `fuel` bounds the
steps; every step takes a character. -/
def value (fuel : Nat) (cs : List Char) : Option (Document × List Char) :=
  match fuel with
  | 0 => none
  | fuel + 1 =>
    match cs with
    | 'n' :: 'u' :: 'l' :: 'l' :: rest => some (.null, rest)
    | 't' :: 'r' :: 'u' :: 'e' :: rest => some (.bool true, rest)
    | 'f' :: 'a' :: 'l' :: 's' :: 'e' :: rest => some (.bool false, rest)
    | '"' :: rest => (quoted rest).map fun (text, rest) => (.string text, rest)
    | '[' :: rest =>
      match skipGap rest with
      | ']' :: rest => some (.array [], rest)
      | rest => (items fuel [] rest).map fun (found, rest) => (.array found, rest)
    | '\x7b' :: rest =>
      match skipGap rest with
      | '\x7d' :: rest => some (.object [], rest)
      | rest => (members fuel [] rest).map fun (found, rest) => (.object found, rest)
    | '-' :: rest => (numeral true rest).map fun (n, rest) => (.number n, rest)
    | cs => (numeral false cs).map fun (n, rest) => (.number n, rest)

/-- The items of an array up to its closing bracket, behind the ones already found. -/
def items (fuel : Nat) (found : List Document) (cs : List Char) :
    Option (List Document × List Char) :=
  match fuel with
  | 0 => none
  | fuel + 1 =>
    match value fuel cs with
    | none => none
    | some (item, rest) =>
      match skipGap rest with
      | ']' :: rest => some ((item :: found).reverse, rest)
      | ',' :: rest => items fuel (item :: found) (skipGap rest)
      | _ => none

/-- The members of an object up to its closing brace, behind the ones already found. -/
def members (fuel : Nat) (found : List (Option String × Document)) (cs : List Char) :
    Option (List (Option String × Document) × List Char) :=
  match fuel with
  | 0 => none
  | fuel + 1 =>
    match cs with
    | '"' :: rest =>
      match quoted rest with
      | none => none
      | some (key, rest) =>
        match skipGap rest with
        | ':' :: rest =>
          match value fuel (skipGap rest) with
          | none => none
          | some (item, rest) =>
            match skipGap rest with
            | '\x7d' :: rest => some (((key, item) :: found).reverse, rest)
            | ',' :: rest => members fuel ((key, item) :: found) (skipGap rest)
            | _ => none
        | _ => none
    | _ => none

end

/-- The tree of a text, with nothing but gaps around it. -/
def read (text : String) : Option Document :=
  let cs := text.toList
  match value (cs.length + 1) (skipGap cs) with
  | some (found, rest) => if (skipGap rest).isEmpty then some found else none
  | none => none

end Document

end SemanticQuery.Json
