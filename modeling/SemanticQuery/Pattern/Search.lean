import SemanticQuery.Pattern.Tree

/-!
# Searching

Where a pattern matches: at the first place at which it matches at all, up to the end that its
preferences choose. `Tree.ends` lists all ends from a place, the preferred ones first and each
only once.
-/

namespace SemanticQuery.Pattern

/-- A place between two characters of a text. -/
structure Place where
  /-- The number of characters before it. -/
  offset : Nat
  /-- The characters before it, the nearest first. -/
  before : List Char
  /-- The characters behind it. -/
  after : List Char

namespace Place

/-- The start of a text. -/
def start (text : List Char) : Place := ⟨0, [], text⟩

/-- The place one character further, if that character is of a class. -/
def step (c : CharClass) (p : Place) : Option Place :=
  match p.after with
  | [] => none
  | d :: rest => if c.contains d then some ⟨p.offset + 1, d :: p.before, rest⟩ else none

/-- The places of a list, each where it comes first. -/
def distinct (ps : List Place) : List Place :=
  (ps.foldl
    (fun (seen, kept) p =>
      if seen.contains p.offset then (seen, kept) else (p.offset :: seen, p :: kept))
    (([], []) : List Nat × List Place)).2.reverse

/-! ### Anchors -/

/-- Whether a character of a word is next in a direction. -/
def meetsWord (basic : Bool) : List Char → Bool
  | [] => false
  | c :: _ => (if basic then CharClass.basicWord else CharClass.word).contains c

/-- Whether a line starts here. -/
def startsLine (carriage : Bool) (p : Place) : Bool :=
  match p.before, p.after with
  | [], _ => true
  | '\n' :: _, _ => true
  | '\r' :: _, '\n' :: _ => false
  | '\r' :: _, _ => carriage
  | _, _ => false

/-- Whether a line ends here. -/
def endsLine (carriage : Bool) (p : Place) : Bool :=
  match p.before, p.after with
  | _, [] => true
  | '\r' :: _, '\n' :: _ => !carriage
  | _, '\n' :: _ => true
  | _, '\r' :: _ => carriage
  | _, _ => false

/-- Whether a condition holds at a place. -/
def satisfies (p : Place) : Anchor → Bool
  | .textStart => p.before.isEmpty
  | .textEnd => p.after.isEmpty
  | .lineStart carriage => p.startsLine carriage
  | .lineEnd carriage => p.endsLine carriage
  | .wordEdge basic => meetsWord basic p.before != meetsWord basic p.after
  | .noWordEdge basic => meetsWord basic p.before == meetsWord basic p.after
  | .wordStart basic => !meetsWord basic p.before && meetsWord basic p.after
  | .wordEnd basic => meetsWord basic p.before && !meetsWord basic p.after
  | .halfStart basic => !meetsWord basic p.before
  | .halfEnd basic => !meetsWord basic p.after

end Place

/-! ### Repetition -/

/-- What a repetition has found: the rounds from which it has gone on, by the number of rounds that
were left and the offset, and the ends so far, the last one first. -/
structure Rounds where
  seen : List (Option Nat × Nat)
  found : List Place

/-- Goes on from a place with rounds left, with no bound if `left` is `none`. In a repetition without
a bound a round that takes no character is the last one. -/
def rounds (body : Place → List Place) (greedy : Bool) :
    Nat → Rounds → Option Nat → Place → Rounds
  | 0, r, _, _ => r
  | fuel + 1, r, left, p =>
    if r.seen.contains (left, p.offset) then r
    else
      let here (r : Rounds) : Rounds := { r with found := p :: r.found }
      let further (r : Rounds) : Rounds :=
        match left with
        | some 0 => r
        | some (n + 1) => (body p).foldl (fun r q => rounds body greedy fuel r (some n) q) r
        | none =>
          (body p).foldl
            (fun r q => if q.offset == p.offset then here r else rounds body greedy fuel r none q) r
      let r := { r with seen := (left, p.offset) :: r.seen }
      if greedy then here (further r) else further (here r)

/-- The ends of exactly so many rounds from several places. -/
def exactly (body : Place → List Place) : Nat → List Place → List Place
  | 0, ps => ps
  | n + 1, ps => if ps.isEmpty then [] else exactly body n (Place.distinct (ps.flatMap body))

/-- The ends of at most so many further rounds, or of any number. -/
def upTo (body : Place → List Place) (greedy : Bool) (left : Option Nat) (p : Place) :
    List Place :=
  let fuel :=
    match left with
    | some n => n + 1
    | none => p.after.length + 1
  (rounds body greedy fuel ⟨[], []⟩ left p).found.reverse

/-! ### Search -/

/-- The ends of a pattern from a place. -/
def Tree.ends : Tree → Place → List Place
  | .empty, p => [p]
  | .char c, p => (p.step c).toList
  | .anchor a, p => if p.satisfies a then [p] else []
  | .seq first second, p => Place.distinct ((first.ends p).flatMap second.ends)
  | .alt first second, p => Place.distinct (first.ends p ++ second.ends p)
  | .times greedy least most body, p =>
    Place.distinct
      ((exactly body.ends least [p]).flatMap (upTo body.ends greedy (most.map (· - least))))

/-- The length of the first match from a place on. -/
def Tree.searchFrom (t : Tree) (offset : Nat) (before after : List Char) : Option Nat :=
  match (t.ends ⟨offset, before, after⟩).head? with
  | some p => some (p.offset - offset)
  | none =>
    match after with
    | [] => none
    | c :: rest => t.searchFrom (offset + 1) (c :: before) rest

/-- The length of the first match in a text. -/
def Tree.matchLength? (t : Tree) (text : String) : Option Nat := t.searchFrom 0 [] text.toList

end SemanticQuery.Pattern
