import Mathlib.Tactic.Common
import SemanticQuery.Sql.Parser

/-!
# What stands ahead

A reader runs on tokens of which only the first ones are known. What it does about the others is
settled by which symbols and keywords can come next: it passes over everything that is asked for and
cannot stand there.
-/

namespace SemanticQuery.Sql.Parser

variable {α β σ : Type} {p : Parser α} {f : α → Parser β} {d : Nat} {a : α} {t : Token}
  {ts rest : List Token} {k s : String} {ks : List String}

/-! ### Running -/

lemma bind_run (p : Parser α) (f : α → Parser β) (d : Nat) (ts : List Token) :
    (p >>= f) d ts = match p d ts with
      | .ok (a, rest) => f a d rest
      | .error fault => .error fault := rfl

lemma pure_run (a : α) (d : Nat) (ts : List Token) : (pure a : Parser α) d ts = .ok (a, ts) := rfl

lemma ite_run {c : Prop} [Decidable c] (p q : Parser α) :
    (if c then p else q) d ts = if c then p d ts else q d ts := by
  split <;> rfl

lemma bind_of_ok (h : p d ts = .ok (a, rest)) : (p >>= f) d ts = f a d rest := by
  rw [bind_run, h]

lemma nest_run (p : Parser α) (d : Nat) (ts : List Token) : nest p (d + 1) ts = p d ts := rfl

lemma attempt_of_ok (h : p d ts = .ok (a, rest)) : attempt p d ts = .ok (some a, rest) := by
  rw [attempt, h]

lemma attempt_of_unexpected (h : p d ts = .error .unexpected) :
    attempt p d ts = .ok (none, ts) := by
  rw [attempt, h]

/-! ### Known tokens -/

lemma ahead_run : ahead d ts = .ok (ts, ts) := rfl

lemma peek_run : peek d ts = .ok (ts.head?, ts) := rfl

lemma next_run : next d (t :: ts) = .ok (some t, ts) := rfl

lemma goTo_run : goTo rest d ts = .ok ((), rest) := rfl

lemma keyword_run : keyword k d (t :: ts) =
    if t.isKeyword k then .ok (true, ts) else .ok (false, t :: ts) := rfl

lemma keyword_other (h : t.isKeyword k = false) : keyword k d (t :: ts) = .ok (false, t :: ts) := by
  rw [keyword_run, h, if_neg Bool.false_ne_true]

lemma symbol_run : symbol s d (t :: ts) =
    if t.isSymbol s then .ok (true, ts) else .ok (false, t :: ts) := rfl

lemma expectSymbol_run : expectSymbol s d (.symbol s :: ts) = .ok ((), ts) := by
  simp [expectSymbol, bind_run, symbol_run, Token.isSymbol, require, pure_run]

lemma expect_run (text : String) : expect k d (.word text k :: ts) = .ok ((), ts) := by
  simp [expect, bind_run, keyword_run, Token.isKeyword, require, pure_run]

/-! ### Unknown tokens -/

/-- The tokens end, or one of the symbols or one of the keywords comes next. -/
def IsAhead (symbols keys : List String) (ts : List Token) : Prop :=
  ∀ t ∈ ts.head?, (∃ s ∈ symbols, t = .symbol s) ∨ ∃ text, ∃ k ∈ keys, t = .word text k

namespace IsAhead

variable {symbols keys symbols' keys' : List String}

lemma nil : IsAhead symbols keys [] := by simp [IsAhead]

lemma symbol_cons (h : s ∈ symbols) : IsAhead symbols keys (.symbol s :: ts) := by
  simpa [IsAhead] using h

lemma word_cons {text : String} (h : k ∈ keys) : IsAhead symbols keys (.word text k :: ts) := by
  simpa [IsAhead] using h

lemma mono (h : IsAhead symbols keys ts) (hsymbols : symbols ⊆ symbols') (hkeys : keys ⊆ keys') :
    IsAhead symbols' keys' ts := by
  intro t ht
  rcases h t ht with ⟨s, hs, rfl⟩ | ⟨text, k, hk, rfl⟩
  · exact .inl ⟨s, hsymbols hs, rfl⟩
  · exact .inr ⟨text, k, hkeys hk, rfl⟩

variable (h : IsAhead symbols keys ts)
include h

lemma isKeyword_eq_false (hk : k ∉ keys) : ∀ t ∈ ts.head?, t.isKeyword k = false := by
  intro t ht
  rcases h t ht with ⟨s, -, rfl⟩ | ⟨text, k', hk', rfl⟩
  · rfl
  · exact beq_eq_false_iff_ne.mpr fun heq => hk (heq ▸ hk')

lemma isSymbol_eq_false (hs : s ∉ symbols) : ∀ t ∈ ts.head?, t.isSymbol s = false := by
  intro t ht
  rcases h t ht with ⟨s', hs', rfl⟩ | ⟨text, k, -, rfl⟩
  · exact beq_eq_false_iff_ne.mpr fun heq => hs (heq ▸ hs')
  · rfl

lemma keyword (hk : k ∉ keys) : Parser.keyword k d ts = .ok (false, ts) := by
  cases ts with
  | nil => rfl
  | cons t ts => exact keyword_other (h.isKeyword_eq_false hk t rfl)

lemma symbol (hs : s ∉ symbols) : Parser.symbol s d ts = .ok (false, ts) := by
  cases ts with
  | nil => rfl
  | cons t ts => rw [symbol_run, h.isSymbol_eq_false hs t rfl, if_neg Bool.false_ne_true]

lemma keywords (ks : List String) (hk : k ∉ keys) :
    Parser.keywords (k :: ks) d ts = .ok (false, ts) := by
  cases ts with
  | nil => rfl
  | cons t ts => simp [Parser.keywords, afterKeywords, h.isKeyword_eq_false hk t rfl]

lemma sees (hk : k ∉ keys) : Parser.sees k d ts = .ok (false, ts) := by
  cases ts with
  | nil => rfl
  | cons t ts => simp [Parser.sees, h.isKeyword_eq_false hk t rfl]

lemma seesSymbol (hs : s ∉ symbols) : Parser.seesSymbol s d ts = .ok (false, ts) := by
  cases ts with
  | nil => rfl
  | cons t ts => simp [Parser.seesSymbol, h.isSymbol_eq_false hs t rfl]

lemma oneOf (ks : List String) (hks : ∀ k ∈ ks, k ∉ keys) :
    Parser.oneOf ks d ts = .ok (none, ts) := by
  unfold Parser.oneOf
  split
  next text k rest =>
    obtain ⟨k', hk', heq⟩ : ∃ k' ∈ keys, k = k' := by simpa [IsAhead] using h
    have hnot : ¬ ks.contains k = true := fun hmem =>
      hks k (by simpa using hmem) (heq ▸ hk')
    rw [if_neg hnot]
  next => rfl

end IsAhead

/-! ### Repetition -/

lemma iterate_inl {step : σ → Parser (σ ⊕ α)} {n : Nat} {x y : σ}
    (h : step x d ts = .ok (.inl y, rest)) :
    iterate step (n + 1) x d ts = iterate step n y d rest := by
  rw [iterate, bind_of_ok h]

lemma iterate_inr {step : σ → Parser (σ ⊕ α)} {n : Nat} {x : σ}
    (h : step x d ts = .ok (.inr a, rest)) : iterate step (n + 1) x d ts = .ok (a, rest) := by
  rw [iterate, bind_of_ok h]
  rfl

lemma loop_run (step : σ → Parser (σ ⊕ α)) (x : σ) :
    loop step x d ts = iterate step (ts.length + 1) x d ts := rfl

lemma loop_of_inr {step : σ → Parser (σ ⊕ α)} {x : σ} (a : α) (rest : List Token)
    (h : step x d ts = .ok (.inr a, rest)) : loop step x d ts = .ok (a, rest) := by
  rw [loop_run, iterate_inr h]

lemma loop_of_inl {step : σ → Parser (σ ⊕ α)} {x : σ} (y : σ) (behind : List Token)
    (h : step x d (t :: ts) = .ok (.inl y, behind)) (hend : step y d behind = .ok (.inr a, rest)) :
    loop step x d (t :: ts) = .ok (a, rest) := by
  rw [loop_run, List.length_cons, iterate_inl h, iterate_inr hend]

end SemanticQuery.Sql.Parser
