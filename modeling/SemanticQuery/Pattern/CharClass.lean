import SemanticQuery.Text.Category
import SemanticQuery.Text.CaseVariant

/-!
# Classes of characters

The sets of characters that patterns can write down, closed under union, intersection and
complement.
-/

namespace SemanticQuery.Pattern

open Text

/-- A set of characters. -/
inductive CharClass where
  | none
  /-- The characters with codes from `first` to `last`. -/
  | span (first last : Nat)
  /-- The characters of a table. -/
  | table (s : CharSet)
  | or (a b : CharClass)
  | and (a b : CharClass)
  | not (a : CharClass)
  /-- The characters with a variant of case in the set. -/
  | anyCase (a : CharClass)

namespace CharClass

/-- Whether the set holds a character. -/
def contains : CharClass → Char → Bool
  | none, _ => false
  | span first last, c => first ≤ c.toNat && c.toNat ≤ last
  | table s, c => s.contains c
  | or a b, c => a.contains c || b.contains c
  | and a b, c => a.contains c && b.contains c
  | not a, c => !a.contains c
  | anyCase a, c => (caseVariants c).any a.contains

/-- The union of sets. -/
def any (as : List CharClass) : CharClass := as.foldr or none

/-- The set of one character. -/
def single (c : Char) : CharClass := span c.toNat c.toNat

/-- The set of the characters of a text. -/
def ofText (text : String) : CharClass := any (text.toList.map single)

/-- What is in the first set and not in the second. -/
def minus (a b : CharClass) : CharClass := and a (not b)

/-- Complements a set, or leaves it. -/
def negated (negative : Bool) (a : CharClass) : CharClass := if negative then not a else a

/-! ### Common classes -/

/-- Letters and what is used like them. -/
def alphabetic : CharClass := or (table letters) (table lettersBesides)

/-- The digits of decimal systems. -/
def digit : CharClass := table decimalDigits

/-- White space. -/
def space : CharClass :=
  any [span 9 13, span 0x20 0x20, span 0x85 0x85, span 0xA0 0xA0, span 0x1680 0x1680,
    span 0x2000 0x200A, span 0x2028 0x2029, span 0x202F 0x202F, span 0x205F 0x205F,
    span 0x3000 0x3000]

/-- What words are made of. -/
def word : CharClass :=
  any [alphabetic, table marks, digit, table connectors, span 0x200C 0x200D]

/-- The digits from zero to nine. -/
def basicDigit : CharClass := span 0x30 0x39

/-- The white space of the basic character set. -/
def basicSpace : CharClass := or (span 9 13) (single ' ')

/-- The capital letters of the basic character set. -/
def basicUpper : CharClass := span 0x41 0x5A

/-- The small letters of the basic character set. -/
def basicLower : CharClass := span 0x61 0x7A

/-- The letters of the basic character set. -/
def basicAlpha : CharClass := or basicUpper basicLower

/-- The letters and digits of the basic character set. -/
def basicAlnum : CharClass := or basicAlpha basicDigit

/-- What words are made of in the basic character set. -/
def basicWord : CharClass := or basicAlnum (single '_')

/-- The named classes of the basic character set. -/
def basicNames : List (String × CharClass) :=
  [("alnum", basicAlnum), ("alpha", basicAlpha), ("ascii", span 0 0x7F),
    ("blank", or (single '\t') (single ' ')), ("cntrl", or (span 0 0x1F) (span 0x7F 0x7F)),
    ("digit", basicDigit), ("graph", span 0x21 0x7E), ("lower", basicLower),
    ("print", span 0x20 0x7E),
    ("punct", any [span 0x21 0x2F, span 0x3A 0x40, span 0x5B 0x60, span 0x7B 0x7E]),
    ("space", basicSpace), ("upper", basicUpper), ("word", basicWord),
    ("xdigit", any [basicDigit, span 0x41 0x46, span 0x61 0x66])]

end CharClass

end SemanticQuery.Pattern
