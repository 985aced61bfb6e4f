import SemanticQuery.Text.CaseTable
import SemanticQuery.Text.Property

/-!
# Case

The small and the capital form of a text. Both follow the full mappings of the character
standard: one character may become several, and a capital sigma becomes the final small sigma
where it ends a word.
-/

namespace SemanticQuery.Text

/-! ### Single characters -/

/-- The distance by which the shifts move the character with code `n`, if one of them holds it. -/
def shiftOf (n : Nat) : List (Nat × Nat × Nat × Int) → Option Int
  | [] => none
  | (first, last, step, distance) :: rest =>
    if CharSet.spanHas n (first, last, step) then some distance else shiftOf n rest

/-- The form of a character under a table of shifts; without a shift it is its own form. -/
def shifted (shifts : List (Nat × Nat × Nat × Int)) (c : Char) : Char :=
  match shiftOf c.toNat shifts with
  | some d => Char.ofNat ((c.toNat : Int) + d).toNat
  | none => c

/-- The form of a character under a table of expansions and one of shifts. -/
def mapped (expansions : List (Nat × List Nat)) (shifts : List (Nat × Nat × Nat × Int))
    (c : Char) : List Char :=
  match expansions.lookup c.toNat with
  | some codes => codes.map Char.ofNat
  | none => [shifted shifts c]

/-- The small form of a character that stands alone. -/
def lowerChar (c : Char) : List Char :=
  if c.val < 0x80 then [c.toLower] else mapped lowerExpansions lowerShifts c

/-- The capital form of a character. -/
def upperChar (c : Char) : List Char :=
  if c.val < 0x80 then [c.toUpper] else mapped upperExpansions upperShifts c

/-! ### Texts -/

/-- Whether the first character that is not looked through is a cased one. -/
def meetsCased : List Char → Bool
  | [] => false
  | c :: rest => if caseIgnorable.contains c then meetsCased rest else casedChars.contains c

/-- Lowers the rest of a text. `before` holds the characters that were already read, the nearest
first: a capital sigma is final when a cased letter precedes it and none follows. -/
def lowerFrom (before : List Char) : List Char → List Char
  | [] => []
  | c :: rest =>
    (if c == 'Σ' then
      [if meetsCased before && !meetsCased rest then 'ς' else 'σ']
    else
      lowerChar c) ++ lowerFrom (c :: before) rest

/-- The small form of a list of characters. -/
def lowerChars (cs : List Char) : List Char := lowerFrom [] cs

/-- The capital form of a list of characters. -/
def upperChars (cs : List Char) : List Char := cs.flatMap upperChar

/-- The small form of a text. -/
def lower (s : String) : String := String.ofList (lowerChars s.toList)

/-- The capital form of a text. -/
def upper (s : String) : String := String.ofList (upperChars s.toList)

end SemanticQuery.Text
