import SemanticQuery.Pattern.CharClass

/-!
# Named properties

The names under which patterns refer to properties of characters: general categories, scripts,
and a few others. Case, blanks, hyphens and low lines in a name do not count, nor does `is` at
its beginning.
-/

namespace SemanticQuery.Pattern

open Text CharClass

/-! ### Categories -/

/-- Letters, marks, numbers, punctuation, symbols and separators. -/
def visible : CharClass :=
  any [table letters, table marks, table numbers, table punctuation, table symbols,
    table separators]

/-- Letters with case. -/
def casedLetter : CharClass := any [table upperLetters, table lowerLetters, table titleLetters]

/-- Characters to which no meaning is assigned. -/
def unassigned : CharClass :=
  minus (not visible) (any [table controls, table formats, table privateUse])

/-- The general categories with their names. -/
def categories : List (List String × CharClass) := [
  (["any"], not none),
  (["ascii"], span 0 0x7F),
  (["assigned"], not unassigned),
  (["c", "other"], not visible),
  (["cc", "control", "cntrl"], table controls),
  (["cf", "format"], table formats),
  (["cn", "unassigned"], unassigned),
  (["co", "privateuse"], table privateUse),
  (["cs", "surrogate"], none),
  (["l", "letter"], table letters),
  (["lc", "casedletter"], casedLetter),
  (["ll", "lowercaseletter"], table lowerLetters),
  (["lm", "modifierletter"], table modifierLetters),
  (["lo", "otherletter"], minus (table letters) (or casedLetter (table modifierLetters))),
  (["lt", "titlecaseletter"], table titleLetters),
  (["lu", "uppercaseletter"], table upperLetters),
  (["m", "mark", "combiningmark"], table marks),
  (["mc", "spacingmark"], table spacingMarks),
  (["me", "enclosingmark"], table enclosingMarks),
  (["mn", "nonspacingmark"], minus (table marks) (or (table spacingMarks) (table enclosingMarks))),
  (["n", "number"], table numbers),
  (["nd", "decimalnumber", "digit"], table decimalDigits),
  (["nl", "letternumber"], minus (table numbers) (or (table decimalDigits) (table otherNumbers))),
  (["no", "othernumber"], table otherNumbers),
  (["p", "punctuation", "punct"], table punctuation),
  (["pc", "connectorpunctuation"], table connectors),
  (["pd", "dashpunctuation"], table dashes),
  (["pe", "closepunctuation"], table closeBrackets),
  (["pf", "finalpunctuation"], table closeQuotes),
  (["pi", "initialpunctuation"], table openQuotes),
  (["po", "otherpunctuation"],
    minus (table punctuation)
      (any [table connectors, table dashes, table openBrackets, table closeBrackets,
        table openQuotes, table closeQuotes])),
  (["ps", "openpunctuation"], table openBrackets),
  (["s", "symbol"], table symbols),
  (["sc", "currencysymbol"], table currencySymbols),
  (["sk", "modifiersymbol"], table modifierSymbols),
  (["sm", "mathsymbol"], table mathSymbols),
  (["so", "othersymbol"],
    minus (table symbols) (any [table currencySymbols, table modifierSymbols, table mathSymbols])),
  (["z", "separator"], table separators),
  (["zl", "lineseparator"], table lineSeparators),
  (["zp", "paragraphseparator"], table paragraphSeparators),
  (["zs", "spaceseparator"],
    minus (table separators) (or (table lineSeparators) (table paragraphSeparators)))]

/-! ### Scripts and other properties -/

/-- The scripts with their names. -/
def scripts : List (List String × CharClass) := [
  (["han", "hani"], table han),
  (["latin", "latn"], table latin),
  (["greek", "grek"], table greek),
  (["cyrillic", "cyrl"], table cyrillic),
  (["hiragana", "hira"], table hiragana),
  (["katakana", "kana"], table katakana),
  (["hangul", "hang"], table hangul),
  (["arabic", "arab"], table arabic),
  (["armenian", "armn"], table armenian),
  (["bengali", "beng"], table bengali),
  (["bopomofo", "bopo"], table bopomofo),
  (["devanagari", "deva"], table devanagari),
  (["georgian", "geor"], table georgian),
  (["hebrew", "hebr"], table hebrew),
  (["khmer", "khmr"], table khmer),
  (["lao", "laoo"], table lao),
  (["mongolian", "mong"], table mongolian),
  (["myanmar", "mymr"], table myanmar),
  (["tamil", "taml"], table tamil),
  (["telugu", "telu"], table telugu),
  (["thai"], table thai),
  (["tibetan", "tibt"], table tibetan),
  (["common", "zyyy"], table common),
  (["inherited", "zinh", "qaai"], table inherited)]

/-- Properties that are neither categories nor scripts, with their names. -/
def binaries : List (List String × CharClass) := [
  (["alphabetic", "alpha"], alphabetic),
  (["uppercase", "upper"], or (table upperLetters) (table capitalsBesides)),
  (["lowercase", "lower"], or (table lowerLetters) (table smallBesides)),
  (["whitespace", "wspace", "space"], space),
  (["cased"], table casedChars),
  (["caseignorable", "ci"], table caseIgnorable),
  (["ideographic", "ideo"], table ideographs),
  (["joincontrol", "joinc"], span 0x200C 0x200D),
  (["asciihexdigit", "ahex"], any [basicDigit, span 0x41 0x46, span 0x61 0x66])]

/-! ### Names -/

/-- The class under a name. -/
def named (classes : List (List String × CharClass)) (name : String) : Option CharClass :=
  (classes.find? fun (names, _) => names.contains name).map (·.2)

/-- The form in which names are compared. -/
def plainName (name : List Char) : String :=
  let cs := (name.filter fun c => c.val < 0x80 && c != ' ' && c != '_' && c != '-').map Char.toLower
  match cs with
  | 'i' :: 's' :: rest => if rest == ['c'] then "isc" else String.ofList rest
  | cs => String.ofList cs

/-- The characters with a property. -/
def property? (name : List Char) : Option CharClass :=
  let n := plainName name
  (named binaries n).or ((named categories n).or (named scripts n))

/-- The characters for which a property has a value. -/
def propertyValue? (name value : List Char) : Option CharClass :=
  let n := plainName name
  if ["gc", "generalcategory"].contains n then named categories (plainName value)
  else if ["sc", "script"].contains n then named scripts (plainName value)
  else .none

end SemanticQuery.Pattern
