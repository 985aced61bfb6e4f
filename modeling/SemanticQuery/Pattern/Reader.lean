import SemanticQuery.Pattern.Property
import SemanticQuery.Pattern.Tree
import SemanticQuery.Text.Blank

/-!
# Reading patterns

Patterns as they are written: alternatives, repetitions, groups, classes in brackets, escapes and
flags. A text that is no pattern is refused, without a reason.
-/

namespace SemanticQuery.Pattern

/-! ### State -/

/-- What flags a pattern is read under. -/
structure Flags where
  ignoreCase : Bool
  multiLine : Bool
  dotAll : Bool
  /-- Whether repetitions are lazy unless marked. -/
  swapGreed : Bool
  unicode : Bool
  /-- Whether blanks and comments are passed over. -/
  verbose : Bool
  /-- Whether a carriage return ends a line. -/
  carriage : Bool

/-- The flags at the beginning of a pattern. -/
def Flags.initial : Flags := ⟨false, false, false, false, true, false, false⟩

/-- Sets or clears a flag. -/
def Flags.put (f : Flags) (value : Bool) : Char → Option Flags
  | 'i' => some { f with ignoreCase := value }
  | 'm' => some { f with multiLine := value }
  | 's' => some { f with dotAll := value }
  | 'U' => some { f with swapGreed := value }
  | 'u' => some { f with unicode := value }
  | 'x' => some { f with verbose := value }
  | 'R' => some { f with carriage := value }
  | _ => none

/-- What is left to read, and what has been read of flags and names. -/
structure Scan where
  rest : List Char
  flags : Flags
  /-- The names of the groups so far. -/
  names : List (List Char)

/-- A step of reading. -/
abbrev Reading (α : Type) : Type := StateT Scan Option α

/-! ### Characters -/

/-- The character at the head, if any. -/
def peek : Reading (Option Char) := return (← get).rest.head?

/-- The characters at the head and behind it. -/
def ahead : Reading (List Char) := return (← get).rest

/-- Passes over so many characters. -/
def skip (n : Nat) : Reading Unit := modify fun s => { s with rest := s.rest.drop n }

/-- What follows blanks and comments. -/
def dropVerbose (comment : Bool) : List Char → List Char
  | [] => []
  | c :: cs =>
    if comment then dropVerbose (c != '\n') cs
    else if Text.isBlank c then dropVerbose false cs
    else if c == '#' then dropVerbose true cs
    else c :: cs

/-- Passes over blanks and comments, if they do not count. -/
def skipGap : Reading Unit :=
  modify fun s => if s.flags.verbose then { s with rest := dropVerbose false s.rest } else s

/-- Passes over a character and the gap behind it. -/
def skipOne : Reading Unit := do
  skip 1
  skipGap

/-- The character at the head. -/
def next : Reading Char := do
  match ← peek with
  | some c => return c
  | none => failure

/-- Passes over a text at the head, if it is there. -/
def accept (text : List Char) : Reading Bool := do
  if text.isPrefixOf (← ahead) then
    skip text.length
    return true
  else
    return false

/-- Takes characters up to `stop`, which is passed over. -/
def upToChar (stop : Char) : Reading (List Char) := do
  let cs ← ahead
  let taken := cs.takeWhile (· != stop)
  if taken.length == cs.length then failure
  else
    skip (taken.length + 1)
    return taken

/-! ### Numbers -/

/-- The decimal digits at the head; between them there may be gaps. -/
def decimalDigits (fuel n : Nat) : Reading Nat :=
  match fuel with
  | 0 => return n
  | fuel + 1 => do
    match ← peek with
    | some c =>
      if c.isDigit then
        skipOne
        decimalDigits fuel (n * 10 + (c.toNat - '0'.toNat))
      else return n
    | none => return n

/-- Passes over the blanks at the head. -/
def skipBlanks : Reading Unit := modify fun s => { s with rest := s.rest.dropWhile Text.isBlank }

/-- A decimal number of 32 bits with blanks around it. -/
def decimal : Reading Nat := do
  skipBlanks
  match ← peek with
  | some c =>
    if c.isDigit then
      let n ← decimalDigits (← ahead).length 0
      skipBlanks
      if n < 0x100000000 then return n else failure
    else failure
  | none => failure

/-- The value of a hexadecimal digit. -/
def hexValue (c : Char) : Option Nat :=
  if c.isDigit then some (c.toNat - '0'.toNat)
  else if 'a' ≤ c && c ≤ 'f' then some (c.toNat - 'a'.toNat + 10)
  else if 'A' ≤ c && c ≤ 'F' then some (c.toNat - 'A'.toNat + 10)
  else none

/-- The value of hexadecimal digits. -/
def hexNumber (cs : List Char) : Option Nat :=
  cs.foldlM (fun n c => (hexValue c).map (n * 16 + ·)) 0

/-- The character with a code. -/
def charOf (n : Nat) : Option Char := if n.isValidChar then some (Char.ofNat n) else none

/-- So many characters; between them there may be gaps. -/
def fixedChars : Nat → Reading (List Char)
  | 0 => return []
  | n + 1 => do
    let c ← next
    skipOne
    return c :: (← fixedChars n)

/-- The character of a code of so many digits, or of any number of digits in braces. -/
def hexChar (digits : Nat) : Reading Char := do
  skipOne
  let f := (← get).flags
  let ds ←
    if ← accept ['\x7b'] then do
      let ds := (← upToChar '\x7d').filter fun c => !(f.verbose && Text.isBlank c)
      if ds.isEmpty then failure
      skipGap
      pure ds
    else fixedChars digits
  match (hexNumber ds).bind charOf with
  | some c => if !f.unicode && digits == 2 && 0x7F < c.toNat then failure else return c
  | none => failure

/-! ### Escapes -/

/-- What an escape stands for. -/
inductive Atom where
  | literal (c : Char)
  | charClass (c : CharClass)
  | anchor (a : Anchor)

/-- A class under the flags: variants of case count if case does not. -/
def fold (f : Flags) (c : CharClass) : CharClass := if f.ignoreCase then .anyCase c else c

/-- A class of the basic set where the pattern is restricted to it. Its complement is refused
there, since it would hold parts of characters. -/
def eitherClass (negative : Bool) (full basic : CharClass) : Reading Atom := do
  if (← get).flags.unicode then return .charClass (.negated negative full)
  else if negative then failure
  else return .charClass basic

/-- The class of a property, behind `p`. -/
def propertyClass (negative : Bool) : Reading Atom := do
  skipOne
  let f := (← get).flags
  let found ←
    if ← accept ['\x7b'] then do
      let name ← upToChar '\x7d'
      let operator := name.find? fun c => c == '=' || c == ':'
      skipGap
      match operator with
      | some op =>
        let before := name.takeWhile (· != op)
        let value := (name.dropWhile (· != op)).drop 1
        if before.getLast? == some '!' then
          pure ((propertyValue? before.dropLast value).map .not)
        else pure (propertyValue? before value)
      | none => pure (property? name)
    else do
      let c ← next
      skipOne
      pure (property? [c])
  match found with
  | some c => if f.unicode then return .charClass (.negated negative (fold f c)) else failure
  | none => failure

/-- The special edges of words, by their names. -/
def wordEdges (basic : Bool) : List (List Char × Anchor) :=
  [("start".toList, .wordStart basic), ("end".toList, .wordEnd basic),
    ("start-half".toList, .halfStart basic), ("end-half".toList, .halfEnd basic)]

/-- What stands behind `\b`: a name in braces, or nothing of it. -/
def wordEdge : Reading Atom := do
  let basic := !(← get).flags.unicode
  let isName (c : Char) : Bool := c.isAlpha || c == '-'
  match ← ahead with
  | '\x7b' :: c :: rest =>
    if isName c then
      let name := (c :: rest).takeWhile isName
      skip (name.length + 1)
      if ← accept ['\x7d'] then
        match (wordEdges basic).lookup name with
        | some a => return .anchor a
        | none => failure
      else failure
    else return .anchor (.wordEdge basic)
  | _ => return .anchor (.wordEdge basic)

/-- Whether a character means itself behind a backslash. -/
def isEscapable (c : Char) : Bool := c.val < 0x80 && !c.isAlphanum && c != '<' && c != '>'

/-- What stands behind a backslash, which has been passed over. -/
def escape : Reading Atom := do
  let basic := !(← get).flags.unicode
  let c ← next
  match c with
  | 'x' => .literal <$> hexChar 2
  | 'u' => .literal <$> hexChar 4
  | 'U' => .literal <$> hexChar 8
  | 'p' => propertyClass false
  | 'P' => propertyClass true
  | c =>
    skip 1
    match c with
    | 'd' => eitherClass false .digit .basicDigit
    | 's' => eitherClass false .space .basicSpace
    | 'w' => eitherClass false .word .basicWord
    | 'D' => eitherClass true .digit .basicDigit
    | 'S' => eitherClass true .space .basicSpace
    | 'W' => eitherClass true .word .basicWord
    | 'a' => return .literal '\x07'
    | 'f' => return .literal '\x0c'
    | 't' => return .literal '\t'
    | 'n' => return .literal '\n'
    | 'r' => return .literal '\r'
    | 'v' => return .literal '\x0b'
    | 'A' => return .anchor .textStart
    | 'z' => return .anchor .textEnd
    | 'b' => wordEdge
    | 'B' => return .anchor (.noWordEdge basic)
    | '<' => return .anchor (.wordStart basic)
    | '>' => return .anchor (.wordEnd basic)
    | c => if isEscapable c then return .literal c else failure

/-! ### Classes in brackets -/

/-- A character or an escape inside brackets. -/
def classAtom : Reading Atom := do
  match ← next with
  | '\\' => do
    skip 1
    escape
  | c => do
    skip 1
    return .literal c

/-- The class that an atom is inside brackets. -/
def Atom.toClass? : Atom → Option CharClass
  | .literal c => some (.single c)
  | .charClass c => some c
  | .anchor _ => none

/-- What follows a character and the gap behind it. -/
def afterGap (f : Flags) (cs : List Char) : List Char :=
  if f.verbose then dropVerbose false (cs.drop 1) else cs.drop 1

/-- A character, a range, or an escape inside brackets. -/
def classItem : Reading CharClass := do
  let first ← classAtom
  skipGap
  let following := (afterGap (← get).flags (← ahead)).head?
  if (← next) != '-' || following == some ']' || following == some '-' then
    match first.toClass? with
    | some c => return c
    | none => failure
  else
    skipOne
    match first, ← classAtom with
    | .literal a, .literal b => if a ≤ b then return .span a.toNat b.toNat else failure
    | _, _ => failure

/-- A named class of the basic set in brackets and colons, if one follows. -/
def basicClass : Reading (Option CharClass) := do
  match ← ahead with
  | '[' :: ':' :: rest =>
    let (negative, rest) :=
      match rest with
      | '^' :: rest => (true, rest)
      | rest => (false, rest)
    let name := rest.takeWhile (· != ':')
    match (rest.dropWhile (· != ':')), CharClass.basicNames.lookup (String.ofList name) with
    | ':' :: ']' :: rest, some c =>
      modify fun s => { s with rest }
      return some (.negated negative c)
    | _, _ => return none
  | _ => return none

/-- The operators between parts of a class. -/
inductive ClassOp where
  | both | minus | oneOf

/-- The operator at the head, if one is there. -/
def classOp : Reading (Option ClassOp) := do
  if ← accept ['&', '&'] then return some .both
  else if ← accept ['-', '-'] then return some .minus
  else if ← accept ['~', '~'] then return some .oneOf
  else return none

/-- Two parts of a class under the operator between them. -/
def ClassOp.apply : ClassOp → CharClass → CharClass → CharClass
  | .both, a, b => .and a b
  | .minus, a, b => a.minus b
  | .oneOf, a, b => .or (a.minus b) (b.minus a)

/-- The hyphens at the head of a class, and a closing bracket that stands where it can close
nothing. -/
def leadingLiterals (fuel : Nat) (found : List CharClass) : Reading (List CharClass) :=
  match fuel with
  | 0 => return found
  | fuel + 1 => do
    match ← next with
    | '-' => do
      skipOne
      leadingLiterals fuel (.single '-' :: found)
    | ']' =>
      if found.isEmpty then do
        skipOne
        return [.single ']']
      else return found
    | _ => return found

mutual

/-- A class behind its opening bracket. -/
def bracketed : Nat → Reading CharClass
  | 0 => failure
  | fuel + 1 => do
    skipGap
    let negative ← accept ['^']
    skipGap
    let found ← leadingLiterals (← ahead).length []
    let c ← classParts fuel none found
    let f := (← get).flags
    if negative && !f.unicode then failure
    return .negated negative (fold f c)

/-- The parts of a class up to its closing bracket. `left` is what stands before the last operator,
with the operator, and `found` holds the items behind it. -/
def classParts : Nat → Option (CharClass × ClassOp) → List CharClass → Reading CharClass
  | 0, _, _ => failure
  | fuel + 1, left, found => do
    skipGap
    let f := (← get).flags
    let whole (items : List CharClass) : CharClass :=
      match left with
      | some (a, op) => op.apply (fold f a) (fold f (.any items))
      | none => .any items
    match ← next with
    | '[' =>
      match ← basicClass with
      | some c => classParts fuel left (c :: found)
      | none => do
        skip 1
        let c ← bracketed fuel
        classParts fuel left (c :: found)
    | ']' => do
      skip 1
      return whole found
    | _ =>
      match ← classOp with
      | some op => classParts fuel (some (whole found, op)) []
      | none => do
        let c ← classItem
        if !f.unicode && (c.contains '\x80') then failure
        classParts fuel left (c :: found)

end

/-! ### Groups and repetitions -/

/-- What may begin the name of a group. -/
def isNameStart (c : Char) : Bool := c == '_' || Text.isAlphabetic c

/-- What may stand in the name of a group. -/
def isNamePart (c : Char) : Bool :=
  c == '_' || c == '.' || c == '[' || c == ']' || Text.isAlphabetic c || Text.isNumeric c

/-- The name of a group, up to the closing angle. No two groups have one name. -/
def groupName : Reading Unit := do
  let name ← upToChar '>'
  match name with
  | [] => failure
  | c :: cs =>
    if isNameStart c && cs.all isNamePart && !(← get).names.contains name then
      modify fun s => { s with names := name :: s.names }
    else failure

/-- Flags up to the colon or the parenthesis behind them, which is given. -/
def flagList (fuel : Nat) (value : Bool) (seen : List Char) (f : Flags) :
    Reading (Flags × List Char × Char) :=
  match fuel with
  | 0 => failure
  | fuel + 1 => do
    let c ← next
    skip 1
    if c == ':' || c == ')' then
      if seen.head? == some '-' then failure else return (f, seen, c)
    else if seen.contains c then failure
    else if c == '-' then flagList fuel false (c :: seen) f
    else
      match f.put value c with
      | some f => flagList fuel value (c :: seen) f
      | none => failure

/-- How a group begins. -/
inductive Opening where
  /-- A group with its own flags. -/
  | group (f : Flags)
  /-- Flags for what follows. -/
  | flags (f : Flags)

/-- The beginning of a group, behind its parenthesis. -/
def opening : Reading Opening := do
  skipGap
  let f := (← get).flags
  match ← ahead with
  | '?' :: '=' :: _ => failure
  | '?' :: '!' :: _ => failure
  | '?' :: '<' :: '=' :: _ => failure
  | '?' :: '<' :: '!' :: _ => failure
  | '?' :: 'P' :: '<' :: _ => do
    skip 3
    groupName
    return .group f
  | '?' :: '<' :: _ => do
    skip 2
    groupName
    return .group f
  | '?' :: rest => do
    skip 1
    let (g, seen, stop) ← flagList (rest.length + 1) true [] f
    if stop == ':' then return .group g
    else if seen.isEmpty then failure
    else return .flags g
  | _ => return .group f

/-- How often something is repeated. -/
structure Bounds where
  least : Nat
  most : Option Nat

/-- The bounds in braces, behind the opening one, up to the closing one. -/
def bounds : Reading Bounds := do
  skipOne
  let least ← decimal
  let b : Bounds ←
    if (← next) == ',' then do
      skipOne
      if (← next) == '\x7d' then pure ⟨least, none⟩
      else
        let most ← decimal
        pure ⟨least, some most⟩
    else pure ⟨least, some least⟩
  if (← next) != '\x7d' then failure
  match b.most with
  | some m => if m < b.least then failure else return b
  | none => return b

/-- Whether a repetition is greedy; a question mark behind it turns its greed round. -/
def greed : Reading Bool := do
  let swap := (← get).flags.swapGreed
  if ← accept ['?'] then return swap else return !swap

/-- Repeats the last piece. Flags are no piece that can be repeated. -/
def repeatLast (b : Bounds) (greedy : Bool) : List (Option Tree) → Option (List (Option Tree))
  | some t :: pieces => some (some (.times greedy b.least b.most t) :: pieces)
  | _ => none

/-! ### Patterns -/

/-- The pattern of an atom outside brackets. -/
def Atom.tree (f : Flags) : Atom → Tree
  | .literal c => .char (fold f (.single c))
  | .charClass c => .char c
  | .anchor a => .anchor a

/-- The pattern of a character that is neither literal nor a bracket nor an escape, if it is one. -/
def special (f : Flags) : Char → Option (Option Tree)
  | '.' =>
    if !f.unicode then some none
    else if f.dotAll then some (some (.char (.not .none)))
    else if f.carriage then some (some (.char (.not (.ofText "\r\n"))))
    else some (some (.char (.not (.single '\n'))))
  | '^' => some (some (.anchor (if f.multiLine then .lineStart f.carriage else .textStart)))
  | '$' => some (some (.anchor (if f.multiLine then .lineEnd f.carriage else .textEnd)))
  | _ => none

/-- Alternatives up to a closing parenthesis or the end. `done` holds the earlier alternatives and
`pieces` the pieces of the current one, both the last one first; flags are empty pieces. -/
def alternatives : Nat → List Tree → List (Option Tree) → Reading Tree
  | 0, _, _ => failure
  | fuel + 1, done, pieces => do
    skipGap
    let f := (← get).flags
    let current := Tree.seqAll (pieces.reverse.filterMap id)
    let finish : Tree :=
      match (current :: done).reverse with
      | t :: ts => Tree.altAll t ts
      | [] => current
    let repeated (b : Bounds) : Reading Tree := do
      let greedy ← greed
      match repeatLast b greedy pieces with
      | some pieces => alternatives fuel done pieces
      | none => failure
    match ← peek with
    | none => return finish
    | some ')' => return finish
    | some '|' => do
      skip 1
      alternatives fuel (current :: done) []
    | some '(' => do
      skip 1
      match ← opening with
      | .flags g => do
        modify fun s => { s with flags := g }
        alternatives fuel done (none :: pieces)
      | .group g => do
        modify fun s => { s with flags := g }
        let t ← alternatives fuel [] []
        if !(← accept [')']) then failure
        modify fun s => { s with flags := f }
        alternatives fuel done (some t :: pieces)
    | some '[' => do
      skip 1
      let c ← bracketed fuel
      alternatives fuel done (some (.char c) :: pieces)
    | some '?' => do
      skip 1
      repeated ⟨0, some 1⟩
    | some '*' => do
      skip 1
      repeated ⟨0, none⟩
    | some '+' => do
      skip 1
      repeated ⟨1, none⟩
    | some '\x7b' =>
      if (repeatLast ⟨0, none⟩ true pieces).isNone then failure
      else do
        let b ← bounds
        skipOne
        repeated b
    | some '\\' => do
      skip 1
      let a ← escape
      alternatives fuel done (some (a.tree f) :: pieces)
    | some c => do
      skip 1
      match special f c with
      | some (some t) => alternatives fuel done (some t :: pieces)
      | some none => failure
      | none => alternatives fuel done (some ((Atom.literal c).tree f) :: pieces)

/-- Reads a pattern. -/
def Tree.read? (text : String) : Option Tree :=
  let cs := text.toList
  match (alternatives (2 * cs.length + 2) [] []).run ⟨cs, .initial, []⟩ with
  | some (t, s) => if s.rest.isEmpty then some t else none
  | none => none

end SemanticQuery.Pattern
