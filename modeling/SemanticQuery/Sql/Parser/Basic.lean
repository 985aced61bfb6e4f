import SemanticQuery.Sql.Lexer

/-!
# Reading tokens

A parser reads a part of a list of tokens, within a number of nested forms that it may still
enter. `attempt` goes back when a parser fails, but a text that is nested too deeply stays a
failure. Repetition is bounded by the tokens that are left, since each round reads one.
-/

namespace SemanticQuery.Sql

/-- A reader of tokens: from the nesting still allowed and the tokens ahead to a result and the
tokens behind it. -/
def Parser (α : Type) : Type := Nat → List Token → Except Fault (α × List Token)

namespace Parser

/-! ### Composition -/

/-- Reads nothing. -/
@[always_inline, inline]
protected def pure {α : Type} (a : α) : Parser α := fun _ ts => .ok (a, ts)

/-- Reads what the first parser reads and then what the second one does. -/
@[always_inline, inline]
protected def bind {α β : Type} (p : Parser α) (f : α → Parser β) : Parser β := fun d ts =>
  match p d ts with
  | .ok (a, rest) => f a d rest
  | .error e => .error e

instance : Monad Parser where
  pure := Parser.pure
  bind := Parser.bind

/-- Fails. -/
def fail {α : Type} : Parser α := fun _ _ => .error .unexpected

/-- Fails unless the condition holds. -/
def require (b : Bool) : Parser Unit := if b then pure () else fail

/-- Enters a nested form. -/
def nest {α : Type} (p : Parser α) : Parser α := fun d ts =>
  match d with
  | 0 => .error .tooDeep
  | d + 1 => p d ts

/-- What the parser reads, or nothing if it fails. -/
def attempt {α : Type} (p : Parser α) : Parser (Option α) := fun d ts =>
  match p d ts with
  | .ok (a, rest) => .ok (some a, rest)
  | .error .tooDeep => .error .tooDeep
  | .error .unexpected => .ok (none, ts)

/-- What the parser reads; if it fails for whatever cause, what the other reads, and the first
failure if that one fails too. -/
def orElse {α : Type} (p q : Parser α) : Parser α := fun d ts =>
  match p d ts with
  | .ok r => .ok r
  | .error e =>
    match q d ts with
    | .ok r => .ok r
    | .error _ => .error e

/-! ### Single tokens -/

/-- The tokens ahead. -/
def ahead : Parser (List Token) := fun _ ts => .ok (ts, ts)

/-- Goes on with other tokens. -/
def goTo (ts : List Token) : Parser Unit := fun _ _ => .ok ((), ts)

/-- The next token, unless the text ends; it is not read. -/
def peek : Parser (Option Token) := fun _ ts => .ok (ts.head?, ts)

/-- Reads the next token, if there is one. -/
def next : Parser (Option Token) := fun _ ts => .ok (ts.head?, ts.tail)

/-- Whether the next token is the keyword `key`; it is not read. -/
def sees (key : String) : Parser Bool := fun _ ts =>
  .ok ((ts.head?.map (·.isKeyword key)).getD false, ts)

/-- Whether the next token is one of the keywords; it is not read. -/
def seesOneOf (keys : List String) : Parser Bool := fun _ ts =>
  .ok ((ts.head?.map (·.isOneOf keys)).getD false, ts)

/-- Whether the next token is the symbol `s`; it is not read. -/
def seesSymbol (s : String) : Parser Bool := fun _ ts =>
  .ok ((ts.head?.map (·.isSymbol s)).getD false, ts)

/-- Reads the keyword `key` if it comes next, and tells whether it did. -/
def keyword (key : String) : Parser Bool := fun _ ts =>
  match ts with
  | t :: rest => if t.isKeyword key then .ok (true, rest) else .ok (false, ts)
  | [] => .ok (false, ts)

/-- Reads the keyword `key` if it comes next and the condition holds, and tells whether it did. -/
def keywordWhen (b : Bool) (key : String) : Parser Bool := if b then keyword key else pure false

/-- The tokens behind the given keywords, if these come next. -/
def afterKeywords : List String → List Token → Option (List Token)
  | [], ts => some ts
  | key :: keys, t :: ts => if t.isKeyword key then afterKeywords keys ts else none
  | _ :: _, [] => none

/-- Reads the keywords if all of them come next, and tells whether they did. -/
def keywords (keys : List String) : Parser Bool := fun _ ts =>
  match afterKeywords keys ts with
  | some rest => .ok (true, rest)
  | none => .ok (false, ts)

/-- Reads one of the keywords if one comes next. -/
def oneOf (keys : List String) : Parser (Option String) := fun _ ts =>
  match ts with
  | .word _ k :: rest => if keys.contains k then .ok (some k, rest) else .ok (none, ts)
  | _ => .ok (none, ts)

/-- Reads the symbol `s` if it comes next, and tells whether it did. -/
def symbol (s : String) : Parser Bool := fun _ ts =>
  match ts with
  | t :: rest => if t.isSymbol s then .ok (true, rest) else .ok (false, ts)
  | [] => .ok (false, ts)

/-- Reads the keyword `key`. -/
def expect (key : String) : Parser Unit := do require (← keyword key)

/-- Reads the keywords. -/
def expectAll (keys : List String) : Parser Unit := do require (← keywords keys)

/-- Reads one of the keywords. -/
def expectOneOf (keys : List String) : Parser String := do
  match ← oneOf keys with
  | some k => pure k
  | none => fail

/-- Reads the symbol `s`. -/
def expectSymbol (s : String) : Parser Unit := do require (← symbol s)

/-! ### Repetition -/

/-- Takes steps until one hands back a result, at most `n` of them. -/
def iterate {σ α : Type} (step : σ → Parser (σ ⊕ α)) : Nat → σ → Parser α
  | 0, _ => fail
  | n + 1, s => do
    match ← step s with
    | .inl s' => iterate step n s'
    | .inr a => pure a

/-- Takes steps until one hands back a result. Every step but the last reads a token. -/
def loop {σ α : Type} (step : σ → Parser (σ ⊕ α)) (s : σ) : Parser α := do
  iterate step ((← ahead).length + 1) s

/-- Reads one or more things with commas between them. -/
def commaSeparated {α : Type} (p : Parser α) : Parser (List α) := do
  let first ← p
  loop (fun found => do
    if ← symbol "," then
      return .inl ((← p) :: found)
    else
      return .inr found.reverse) [first]

/-- Reads a thing in parentheses. -/
def parenthesized {α : Type} (p : Parser α) : Parser α := do
  expectSymbol "("
  let a ← p
  expectSymbol ")"
  return a

end Parser

end SemanticQuery.Sql
