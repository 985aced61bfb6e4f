import Mathlib.Tactic.Common
import SemanticQuery.Sql.Parser.Basic

/-!
# What parsers yield

`Yields p ts Q` tells that whatever a parser reads from the tokens `ts`, its result and the tokens
behind it have a property. A parser that is put together from others yields what its steps yield
one behind the other, so a property is shown by going through the parser once.
-/

namespace SemanticQuery.Sql.Parser

variable {α β σ : Type}

/-- What the parser reads from the tokens has the property, if it reads anything. -/
structure Yields (p : Parser α) (ts : List Token) (Q : α → List Token → Prop) : Prop where
  of_eq_ok : ∀ {d a rest}, p d ts = .ok (a, rest) → Q a rest

variable {p q : Parser α} {ts : List Token} {Q R : α → List Token → Prop}

lemma Yields.mono (h : Yields p ts R) (hRQ : ∀ a rest, R a rest → Q a rest) : Yields p ts Q :=
  ⟨fun hp => hRQ _ _ (h.of_eq_ok hp)⟩

lemma Yields.and (hQ : Yields p ts Q) (hR : Yields p ts R) :
    Yields p ts fun a rest => Q a rest ∧ R a rest :=
  ⟨fun hp => ⟨hQ.of_eq_ok hp, hR.of_eq_ok hp⟩⟩

/-- A parser that does on some tokens what another one does on others yields the same. -/
lemma yields_of_eq {ts' : List Token} (h : ∀ d, p d ts = q d ts') (hq : Yields q ts' Q) :
    Yields p ts Q :=
  ⟨fun hp => hq.of_eq_ok ((h _).symm.trans hp)⟩

/-! ### Composition -/

lemma bind_eq_ok {f : α → Parser β} {d : Nat} {rest : List Token} {b : β}
    (h : (p >>= f) d ts = .ok (b, rest)) :
    ∃ a middle, p d ts = .ok (a, middle) ∧ f a d middle = .ok (b, rest) := by
  have hbind : (p >>= f) d ts = (p d ts).bind fun q => f q.1 d q.2 := by
    change Parser.bind p f d ts = _
    unfold Parser.bind
    cases p d ts <;> rfl
  rw [hbind] at h
  cases hp : p d ts with
  | error fault => simp [hp, Except.bind] at h
  | ok q => exact ⟨q.1, q.2, rfl, by simpa [hp, Except.bind] using h⟩

lemma pure_eq_ok {a b : α} {d : Nat} {rest : List Token}
    (h : (pure a : Parser α) d ts = .ok (b, rest)) : a = b ∧ ts = rest := by
  have hpure : (pure a : Parser α) d ts = .ok (a, ts) := rfl
  rw [hpure, Except.ok.injEq, Prod.mk.injEq] at h
  exact h

lemma yields_pure {a : α} (h : Q a ts) : Yields (pure a) ts Q where
  of_eq_ok hp := by
    obtain ⟨rfl, rfl⟩ := pure_eq_ok hp
    exact h

/-- The first step may read anything. -/
lemma yields_bind {f : α → Parser β} {Q : β → List Token → Prop}
    (h : ∀ a middle, Yields (f a) middle Q) : Yields (p >>= f) ts Q where
  of_eq_ok hp := by
    obtain ⟨a, middle, _, hf⟩ := bind_eq_ok hp
    exact (h a middle).of_eq_ok hf

lemma yields_bind_of {f : α → Parser β} {Q : β → List Token → Prop} (hp : Yields p ts R)
    (h : ∀ a middle, R a middle → Yields (f a) middle Q) : Yields (p >>= f) ts Q where
  of_eq_ok hok := by
    obtain ⟨a, middle, ha, hf⟩ := bind_eq_ok hok
    exact (h a middle (hp.of_eq_ok ha)).of_eq_ok hf

lemma yields_fail : Yields (fail : Parser α) ts Q where
  of_eq_ok hp := by simp [fail] at hp

lemma yields_ite {c : Prop} [Decidable c] (hp : c → Yields p ts Q) (hq : ¬c → Yields q ts Q) :
    Yields (if c then p else q) ts Q := by
  split
  · exact hp ‹_›
  · exact hq ‹_›

lemma yields_nest (hp : Yields p ts Q) : Yields (nest p) ts Q where
  of_eq_ok {d a rest} h := by
    cases d with
    | zero => simp [nest] at h
    | succ d => exact hp.of_eq_ok h

lemma yields_attempt {Q : Option α → List Token → Prop}
    (hsome : Yields p ts fun a => Q (some a)) (hnone : Q none ts) :
    Yields (attempt p) ts Q where
  of_eq_ok {d a rest} h := by
    unfold attempt at h
    split at h
    next b rest' hp =>
      obtain ⟨rfl, rfl⟩ : some b = a ∧ rest' = rest := by simpa using h
      exact hsome.of_eq_ok hp
    next _ => simp at h
    next _ =>
      obtain ⟨rfl, rfl⟩ : none = a ∧ ts = rest := by simpa using h
      exact hnone

lemma yields_orElse (hp : Yields p ts Q) (hq : Yields q ts Q) : Yields (orElse p q) ts Q where
  of_eq_ok {d a rest} h := by
    unfold orElse at h
    split at h
    next r hr =>
      obtain rfl : r = (a, rest) := by simpa using h
      exact hp.of_eq_ok hr
    next e he =>
      split at h
      next r hr =>
        obtain rfl : r = (a, rest) := by simpa using h
        exact hq.of_eq_ok hr
      next _ => simp at h

/-! ### Single tokens -/

lemma yields_ahead : Yields ahead ts fun a rest => a = ts ∧ rest = ts where
  of_eq_ok h := by
    obtain ⟨rfl, rfl⟩ := Prod.mk.inj (Except.ok.inj h)
    exact ⟨rfl, rfl⟩

lemma yields_goTo (target : List Token) : Yields (goTo target) ts fun _ rest => rest = target where
  of_eq_ok h := (Prod.mk.inj (Except.ok.inj h)).2.symm

lemma yields_peek : Yields peek ts fun a rest => a = ts.head? ∧ rest = ts where
  of_eq_ok h := by
    obtain ⟨rfl, rfl⟩ := Prod.mk.inj (Except.ok.inj h)
    exact ⟨rfl, rfl⟩

lemma yields_next : Yields next ts fun a rest => a = ts.head? ∧ rest = ts.tail where
  of_eq_ok h := by
    obtain ⟨rfl, rfl⟩ := Prod.mk.inj (Except.ok.inj h)
    exact ⟨rfl, rfl⟩

lemma yields_seesSymbol (s : String) : Yields (seesSymbol s) ts fun _ rest => rest = ts where
  of_eq_ok h := (Prod.mk.inj (Except.ok.inj h)).2.symm

/-- A keyword is read where it is the next token, and else nothing is. -/
lemma yields_keyword (key : String) :
    Yields (keyword key) ts fun b rest =>
      (b = true ∧ ∃ t, ts = t :: rest ∧ t.isKeyword key = true) ∨ (b = false ∧ rest = ts) where
  of_eq_ok {d b rest} h := by
    unfold keyword at h
    split at h
    next t rest' =>
      split at h
      next ht =>
        obtain ⟨rfl, rfl⟩ : true = b ∧ rest' = rest := by simpa using h
        exact .inl ⟨rfl, t, rfl, ht⟩
      next _ =>
        obtain ⟨rfl, rfl⟩ : false = b ∧ t :: rest' = rest := by simpa using h
        exact .inr ⟨rfl, rfl⟩
    next _ =>
      obtain ⟨rfl, rfl⟩ : false = b ∧ [] = rest := by simpa using h
      exact .inr ⟨rfl, rfl⟩

/-- Where none of the keywords is found, nothing is read. -/
lemma yields_oneOf (keys : List String) :
    Yields (oneOf keys) ts fun a rest => a = none → rest = ts where
  of_eq_ok {d a rest} h := by
    unfold oneOf at h
    split at h
    · split at h
      · obtain ⟨rfl, -⟩ := Prod.mk.inj (Except.ok.inj h)
        simp
      · exact fun _ => (Prod.mk.inj (Except.ok.inj h)).2.symm
    · exact fun _ => (Prod.mk.inj (Except.ok.inj h)).2.symm

/-- A symbol is read where it is the next token, and else nothing is. -/
lemma yields_symbol (s : String) :
    Yields (symbol s) ts fun b rest =>
      (b = true ∧ ∃ t, ts = t :: rest ∧ t.isSymbol s = true) ∨ (b = false ∧ rest = ts) where
  of_eq_ok {d b rest} h := by
    unfold symbol at h
    split at h
    next t rest' =>
      split at h
      next ht =>
        obtain ⟨rfl, rfl⟩ : true = b ∧ rest' = rest := by simpa using h
        exact .inl ⟨rfl, t, rfl, ht⟩
      next _ =>
        obtain ⟨rfl, rfl⟩ : false = b ∧ t :: rest' = rest := by simpa using h
        exact .inr ⟨rfl, rfl⟩
    next _ =>
      obtain ⟨rfl, rfl⟩ : false = b ∧ [] = rest := by simpa using h
      exact .inr ⟨rfl, rfl⟩

/-! ### Repetition -/

/-- What the steps keep, the last one turns into the result. -/
lemma yields_loop {step : σ → Parser (σ ⊕ α)} {I : σ → List Token → Prop}
    (hstep : ∀ s ts, I s ts → Yields (step s) ts (Sum.elim I Q)) {s : σ} (hs : I s ts) :
    Yields (loop step s) ts Q := by
  have hiterate : ∀ n s ts, I s ts → Yields (iterate step n s) ts Q := by
    intro n
    induction n with
    | zero => exact fun _ _ _ => yields_fail
    | succ n ih =>
      intro s ts hs
      refine yields_bind_of (hstep s ts hs) fun r middle hr => ?_
      cases r with
      | inl s' => exact ih s' middle hr
      | inr a => exact yields_pure hr
  refine yields_bind_of yields_ahead fun a middle ha => ?_
  obtain ⟨rfl, rfl⟩ := ha
  exact hiterate _ s _ hs

/-- Every thing between the commas has the property. -/
lemma yields_commaSeparated {Q : α → Prop} (hp : ∀ ts, Yields p ts fun a _ => Q a) :
    Yields (commaSeparated p) ts fun as _ => ∀ a ∈ as, Q a := by
  refine yields_bind_of (hp ts) fun first middle hfirst => ?_
  refine yields_loop (I := fun found _ => ∀ a ∈ found, Q a) ?_ (by simpa using hfirst)
  intro found ts hfound
  refine yields_bind fun comma middle => yields_ite (fun _ => ?_) (fun _ => yields_pure ?_)
  · refine yields_bind_of (hp middle) fun a rest ha => yields_pure ?_
    simpa using ⟨ha, hfound⟩
  · simpa using hfound

end SemanticQuery.Sql.Parser
