import SemanticQuery.Json.Document
import SemanticQuery.Number.Shortest
import SemanticQuery.Number.Word

/-!
# Values

JSON values with their meaning: integers, doubles, texts, lists, and members under keys. A value
that is read has its members in the order of their keys; of repeated keys the last counts.
-/

namespace SemanticQuery.Json

open Number

/-- A JSON value. -/
inductive Value where
  | null
  | bool (value : Bool)
  | int (value : Int)
  | double (value : Double)
  | string (text : String)
  | array (items : List Value)
  | object (members : List (String × Value))

/-! ### Numbers -/

/-- Reads digits behind `n` while the number stays below the bound; gives the number and the
digits that are left. -/
def fitting (n : Nat) : List Nat → Nat × List Nat
  | [] => (n, [])
  | d :: ds => if n * 10 + d < wordBound then fitting (n * 10 + d) ds else (n, d :: ds)

namespace Numeral

/-- The double of a numeral. Digits that do not fit a significand below the bound are dropped; the
ones before the point still count as places. -/
def toDouble? (n : Numeral) : Option Double :=
  let (whole, dropped) := fitting 0 n.whole
  let (significand, rest) := fitting whole n.fraction
  let places : Int := dropped.length - (n.fraction.length - rest.length : Nat)
  Double.ofDecimal n.negative significand (places + n.exponent.getD 0)

/-- The integer of a numeral without point and exponent. It lies from `-2 ^ 63` to `2 ^ 64 - 1`,
and a negative zero is none. -/
def toInt? (n : Numeral) : Option Int :=
  if n.fraction.isEmpty && n.exponent.isNone then
    let m := Document.spelled n.whole
    if n.negative then
      if 0 < m && m ≤ signBound then some (-m) else none
    else if m < wordBound then some m else none
  else none

/-- The value of a numeral: its integer, or else its double. -/
def toValue? (n : Numeral) : Option Value :=
  match n.toInt? with
  | some i => some (.int i)
  | none => n.toDouble?.map .double

end Numeral

/-! ### Text -/

/-- A hexadecimal digit. -/
def hexChar (n : Nat) : Char := Nat.digitChar n

/-- A character as it stands between quotes. -/
def escapeChar (c : Char) : List Char :=
  if c == '"' then ['\\', '"']
  else if c == '\\' then ['\\', '\\']
  else if c == '\n' then ['\\', 'n']
  else if c == '\r' then ['\\', 'r']
  else if c == '\t' then ['\\', 't']
  else if c == '\x08' then ['\\', 'b']
  else if c == '\x0c' then ['\\', 'f']
  else if c.toNat < 0x20 then
    ['\\', 'u', '0', '0', hexChar (c.toNat / 16), hexChar (c.toNat % 16)]
  else [c]

/-- A text in quotes. -/
def quote (text : String) : String :=
  String.ofList ('"' :: text.toList.flatMap escapeChar ++ ['"'])

mutual

/-- The text of a value, without blanks. -/
def Value.print : Value → String
  | .null => "null"
  | .bool b => if b then "true" else "false"
  | .int i => toString i
  | .double d => d.print
  | .string text => quote text
  | .array items => "[" ++ printItems items ++ "]"
  | .object members => "\x7b" ++ printMembers members ++ "\x7d"

/-- The texts of values, with commas between them. -/
def printItems : List Value → String
  | [] => ""
  | [v] => v.print
  | v :: vs => v.print ++ "," ++ printItems vs

/-- The texts of members, with commas between them. -/
def printMembers : List (String × Value) → String
  | [] => ""
  | [(k, v)] => quote k ++ ":" ++ v.print
  | (k, v) :: rest => quote k ++ ":" ++ v.print ++ "," ++ printMembers rest

end

/-- A new line with `depth` steps of indentation. -/
def newLine (depth : Nat) : String := String.ofList ('\n' :: List.replicate (2 * depth) ' ')

mutual

/-- The text of a value with every item and member on a line of its own. -/
def Value.layOut (depth : Nat) : Value → String
  | .array [] => "[]"
  | .array items => "[" ++ layOutItems (depth + 1) items ++ newLine depth ++ "]"
  | .object [] => "\x7b\x7d"
  | .object members => "\x7b" ++ layOutMembers (depth + 1) members ++ newLine depth ++ "\x7d"
  | v => v.print

/-- The lines of items. -/
def layOutItems (depth : Nat) : List Value → String
  | [] => ""
  | [v] => newLine depth ++ v.layOut depth
  | v :: vs => newLine depth ++ v.layOut depth ++ "," ++ layOutItems depth vs

/-- The lines of members. -/
def layOutMembers (depth : Nat) : List (String × Value) → String
  | [] => ""
  | [(k, v)] => newLine depth ++ quote k ++ ": " ++ v.layOut depth
  | (k, v) :: rest =>
    newLine depth ++ quote k ++ ": " ++ v.layOut depth ++ "," ++ layOutMembers depth rest

end

end SemanticQuery.Json
