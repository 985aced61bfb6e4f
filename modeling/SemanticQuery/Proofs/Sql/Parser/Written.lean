import SemanticQuery.Proofs.Sql.Lexer
import SemanticQuery.Proofs.Sql.Sound

/-!
# Tokens that are written

The lexer makes numbers of texts that start with a digit or a point only.
-/

namespace SemanticQuery.Sql

/-! ### Tokens -/

/-- The token is no number, or one that is written like a number. -/
def Token.IsWritten : Token → Prop
  | .number digits _ => IsNumeral digits
  | _ => True

/-- The tokens are all written. -/
def AreWritten (ts : List Token) : Prop := ∀ t ∈ ts, t.IsWritten

lemma AreWritten.tail {t : Token} {ts : List Token} (h : AreWritten (t :: ts)) : AreWritten ts :=
  fun t' ht => h t' (List.mem_cons_of_mem t ht)

lemma AreWritten.drop {ts : List Token} (h : AreWritten ts) (n : Nat) : AreWritten (ts.drop n) :=
  fun t ht => h t (List.mem_of_mem_drop ht)

namespace Lexer

lemma isWritten_of_eq_ok {read : Token × List Char} {t : Token} {rest : List Char}
    (h : (Except.ok read : Except Fault (Token × List Char)) = .ok (t, rest))
    (hread : read.1.IsWritten) : t.IsWritten := by
  obtain rfl := Except.ok.inj h
  exact hread

lemma isWritten_quotedToken {q : Char} {escapes : Bool} {make : String → Token}
    {cs rest : List Char} {t : Token} (hmake : ∀ s, (make s).IsWritten)
    (h : quotedToken q escapes make cs = .ok (t, rest)) : t.IsWritten := by
  unfold quotedToken at h
  split at h
  next s rest' _ => exact isWritten_of_eq_ok h (hmake _)
  next => simp at h

lemma isWritten_readLettered {c : Char} {cs rest : List Char} {t : Token}
    {quotes : List (Char × Bool × (String → Token))}
    (hquotes : ∀ q ∈ quotes, ∀ s, (q.2.2 s).IsWritten)
    (h : readLettered c cs quotes = .ok (t, rest)) : t.IsWritten := by
  unfold readLettered at h
  split at h
  · split at h
    next quote escapes make hfind =>
      exact isWritten_quotedToken (hquotes _ (List.mem_of_find?_eq_some hfind)) h
    next _ => exact isWritten_of_eq_ok h trivial
  · exact isWritten_of_eq_ok h trivial

/-- A text that goes on with word characters is a word, unless it starts with a digit or a point. -/
lemma isWritten_readWord {c : Char} {start cs : List Char} :
    (readWord (c :: start) cs).1.IsWritten := by
  unfold readWord
  dsimp only
  split
  next hnumeric =>
    refine ⟨c, by simp, ?_⟩
    simp only [List.cons_append, List.all_cons, Bool.and_eq_true, Bool.or_eq_true, beq_iff_eq]
      at hnumeric
    exact hnumeric.1
  next => trivial

lemma isWritten_withLong {c : Char} {digits rest : List Char} (hc : c.isDigit = true ∨ c = '.') :
    (readNumber.withLong (c :: digits) rest).1.IsWritten := by
  unfold readNumber.withLong
  split <;> exact ⟨c, by simp, hc⟩

lemma isWritten_fromMantissa {c : Char} {mantissa tail rest : List Char} {t : Token}
    (hc : c.isDigit = true ∨ c = '.') (h : fromMantissa (c :: mantissa) tail = .ok (t, rest)) :
    t.IsWritten := by
  unfold fromMantissa at h
  split at h
  · exact isWritten_of_eq_ok h trivial
  split at h
  · exact isWritten_of_eq_ok h (isWritten_withLong hc)
  dsimp only at h
  split at h
  · exact isWritten_of_eq_ok h (isWritten_withLong hc)
  · exact isWritten_of_eq_ok h trivial

lemma isWritten_readNumber {afterWord : Bool} {c : Char} {cs rest : List Char} {t : Token}
    (hc : c.isDigit = true ∨ c = '.') (h : readNumber afterWord (c :: cs) = .ok (t, rest)) :
    t.IsWritten := by
  unfold readNumber at h
  split at h
  · split at h
    · exact isWritten_of_eq_ok h trivial
    · simp at h
  dsimp only at h
  split at h
  · exact isWritten_of_eq_ok h trivial
  have hmade : fromMantissa ((c :: cs).takeWhile Char.isDigit ++
      (pointOf ((c :: cs).dropWhile Char.isDigit)).1 ++
      (pointOf ((c :: cs).dropWhile Char.isDigit)).2.takeWhile Char.isDigit)
      ((pointOf ((c :: cs).dropWhile Char.isDigit)).2.dropWhile Char.isDigit) = .ok (t, rest) := h
  by_cases hdigit : c.isDigit = true
  · rw [List.takeWhile_cons_of_pos hdigit, List.cons_append, List.cons_append] at hmade
    exact isWritten_fromMantissa hc hmade
  · obtain rfl := hc.resolve_left hdigit
    exact isWritten_fromMantissa hc hmade

lemma isWritten_readAt {cs : List Char} : (readAt cs).1.IsWritten := by
  unfold readAt
  split
  case h_3 => split <;> trivial
  case h_5 => split <;> trivial
  all_goals trivial

/-- A token that is read is written. -/
lemma isWritten_of_step {afterWord : Bool} {c : Char} {cs rest : List Char} {t : Token}
    (h : step afterWord c cs = .ok (some t, rest)) : t.IsWritten := by
  unfold step at h
  rcases ite_eq_iff.mp h with ⟨_, h⟩ | ⟨_, h⟩
  · simp at h
  rcases ite_eq_iff.mp h with ⟨_, h⟩ | ⟨_, h⟩
  · exact isWritten_readLettered (by simp [Token.IsWritten]) (eq_ok_of_ofToken h)
  rcases ite_eq_iff.mp h with ⟨_, h⟩ | ⟨_, h⟩
  · exact isWritten_readLettered (by simp [Token.IsWritten]) (eq_ok_of_ofToken h)
  rcases ite_eq_iff.mp h with ⟨_, h⟩ | ⟨_, h⟩
  · exact isWritten_readLettered (by simp [Token.IsWritten]) (eq_ok_of_ofToken h)
  rcases ite_eq_iff.mp h with ⟨_, h⟩ | ⟨_, h⟩
  · exact isWritten_quotedToken (by simp [Token.IsWritten]) (eq_ok_of_ofToken h)
  rcases ite_eq_iff.mp h with ⟨_, h⟩ | ⟨_, h⟩
  · exact isWritten_quotedToken (by simp [Token.IsWritten]) (eq_ok_of_ofToken h)
  rcases ite_eq_iff.mp h with ⟨_, h⟩ | ⟨_, h⟩
  · exact isWritten_quotedToken (by simp [Token.IsWritten]) (eq_ok_of_ofToken h)
  rcases ite_eq_iff.mp h with ⟨hc, h⟩ | ⟨_, h⟩
  · exact isWritten_readNumber (by simpa using hc) (eq_ok_of_ofToken h)
  rcases ite_eq_iff.mp h with ⟨_, h⟩ | ⟨_, h⟩
  · simp at h
  rcases ite_eq_iff.mp h with ⟨_, h⟩ | ⟨_, h⟩
  · simp at h
  rcases ite_eq_iff.mp h with ⟨_, h⟩ | ⟨_, h⟩
  · split at h <;> simp at h
  rcases ite_eq_iff.mp h with ⟨_, h⟩ | ⟨_, h⟩
  · exact isWritten_of_eq_ok (eq_ok_of_ofToken h) isWritten_readAt
  rcases ite_eq_iff.mp h with ⟨_, h⟩ | ⟨_, h⟩
  · obtain ⟨rfl, -⟩ : Token.placeholder _ = t ∧ _ = rest := by simpa using h
    trivial
  rcases ite_eq_iff.mp h with ⟨_, h⟩ | ⟨_, h⟩
  · exact isWritten_of_eq_ok (eq_ok_of_ofToken h) isWritten_readWord
  rcases ite_eq_iff.mp h with ⟨_, h⟩ | ⟨_, h⟩
  · simp at h
  · refine isWritten_of_eq_ok (eq_ok_of_ofToken h) ?_
    unfold readSymbol
    split <;> trivial

lemma areWritten_of_tokensWithin {n : Nat} {afterWord : Bool} {cs : List Char} {ts : List Token}
    (h : tokensWithin n afterWord cs = .ok ts) : AreWritten ts := by
  induction n generalizing afterWord cs ts with
  | zero =>
    cases cs with
    | nil =>
      obtain rfl : [] = ts := by simpa [tokensWithin] using h
      simp [AreWritten]
    | cons c cs => simp [tokensWithin] at h
  | succ n ih =>
    cases cs with
    | nil =>
      obtain rfl : [] = ts := by simpa [tokensWithin] using h
      simp [AreWritten]
    | cons c cs =>
      obtain ⟨m, _, t, rest, ts', hm, hstep, hrest, rfl⟩ := exists_step_of_tokensWithin h
      obtain rfl : n = m := by omega
      intro x hx
      rcases List.mem_append.mp hx with hx | hx
      · obtain rfl : t = some x := by simpa using hx
        exact isWritten_of_step hstep
      · exact ih hrest x hx

end Lexer

/-- The tokens of a text are written. -/
theorem areWritten_of_tokenize {text : String} {ts : List Token} (h : tokenize text = .ok ts) :
    AreWritten ts :=
  Lexer.areWritten_of_tokensWithin h

end SemanticQuery.Sql
