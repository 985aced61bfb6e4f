import SemanticQuery.Proofs.Sql.Parser.Operator
import SemanticQuery.Sql.Reading

/-!
# What is read

Whatever a form of the grammar reads as an operand is well joined and closed enough for the power it
is read at, by induction on how deep forms may be nested. A statement that is read is all that its
text holds.
-/

namespace SemanticQuery.Sql

namespace Parser

lemma yields_subexpr (n power : Nat) (ts : List Token) :
    Yields ((grammar n).subexpr power) ts (IsReadWithin power) := by
  induction n generalizing power ts with
  | zero => exact ⟨fun h => by simp [grammar, Grammar.empty] at h⟩
  | succ n ih => exact yields_nest (yields_expression ih power)

end Parser

namespace Statement

/-- The one statement of a text is all that is read from its tokens. -/
lemma exists_tokens_of_read {text : String} {s : Statement} (h : read text = .ok s) :
    ∃ ts d rest, tokenize text = .ok ts ∧
      Parser.statements (Parser.levels ts) d ts = .ok ([s], rest) := by
  unfold read at h
  split at h
  · simp at h
  next statement hread =>
    obtain rfl : statement = s := by simpa using h
    unfold readAll at hread
    cases htokens : tokenize text with
    | error fault => simp [htokens, bind, Except.bind] at hread
    | ok ts =>
      cases hfound : Parser.statements (Parser.levels ts) Parser.maxDepth ts with
      | error fault => simp [htokens, hfound, bind, Except.bind] at hread
      | ok found =>
        obtain ⟨found, rest⟩ := found
        obtain rfl : found = [statement] := by
          simpa [htokens, hfound, bind, Except.bind, pure, Except.pure] using hread
        exact ⟨ts, Parser.maxDepth, rest, rfl, hfound⟩
  · simp at h

lemma read_of_readSelection {text : String} {s : Statement} (h : readSelection text = .ok s) :
    read text = .ok s ∧ s.selection?.isSome = true := by
  unfold readSelection at h
  split at h
  · simp at h
  next statement hread =>
    split at h
    next hselection =>
      obtain rfl : statement = s := by simpa using h
      exact ⟨hread, hselection⟩
    next _ => simp at h

end Statement

end SemanticQuery.Sql
