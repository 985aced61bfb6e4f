/-!
# Words

Integers of 64 bits, and how they are read: decimal digits behind at most one sign. A text that
spells an integer of another size spells none.
-/

namespace SemanticQuery.Number

/-- The number of words. -/
def wordBound : Nat := 0x10000000000000000

/-- The number of signed integers that are not negative. -/
def signBound : Nat := 0x8000000000000000

/-- The number that decimal digits spell, if there are any and nothing else. -/
def digitsValue? (cs : List Char) : Option Nat :=
  if !cs.isEmpty && cs.all Char.isDigit then
    some (cs.foldl (fun n c => n * 10 + (c.toNat - '0'.toNat)) 0)
  else none

/-- A number below a bound. -/
def below (bound : Nat) (n : Nat) : Option Nat := if n < bound then some n else none

/-- The word that a text spells, behind at most a plus sign. -/
def readWord (cs : List Char) : Option Nat :=
  match cs with
  | '+' :: rest => (digitsValue? rest).bind (below wordBound)
  | rest => (digitsValue? rest).bind (below wordBound)

/-- The signed integer that a text spells, behind at most one sign. -/
def readInteger (cs : List Char) : Option Int :=
  match cs with
  | '-' :: rest => ((digitsValue? rest).bind (below (signBound + 1))).map fun n => -(n : Int)
  | '+' :: rest => ((digitsValue? rest).bind (below signBound)).map fun n => (n : Int)
  | rest => ((digitsValue? rest).bind (below signBound)).map fun n => (n : Int)

end SemanticQuery.Number
