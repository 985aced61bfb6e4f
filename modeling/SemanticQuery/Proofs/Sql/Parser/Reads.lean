import SemanticQuery.Proofs.Sql.Parser.Written
import SemanticQuery.Proofs.Sql.Parser.Yields
import SemanticQuery.Sql.Parser.Query

/-!
# What parsers read from written tokens

A parser goes on with tokens that it was given, so whatever it meets behind others is written as
they are. `Reads p ts Q` tells what a parser yields from written tokens, and that the tokens behind
are written again. `Keeps p` tells the latter alone, wherever the parser starts, and is found out
for a parser from its steps.
-/

namespace SemanticQuery.Sql.Parser

variable {α β σ : Type}

/-- What the parser reads from written tokens has the property, and written tokens are left. -/
structure Reads (p : Parser α) (ts : List Token) (Q : α → List Token → Prop) : Prop where
  yields : AreWritten ts → Yields p ts fun a rest => AreWritten rest ∧ Q a rest

/-- The parser leaves written tokens of written ones. -/
class Keeps (p : Parser α) : Prop where
  reads : ∀ ts, Reads p ts fun _ _ => True

variable {p q : Parser α} {ts : List Token} {Q R : α → List Token → Prop}

lemma Reads.mono (h : Reads p ts R) (hRQ : ∀ a rest, R a rest → Q a rest) : Reads p ts Q :=
  ⟨fun hts => (h.yields hts).mono fun a rest => And.imp_right (hRQ a rest)⟩

lemma Reads.and_yields (hQ : Reads p ts Q) (hR : Yields p ts R) :
    Reads p ts fun a rest => Q a rest ∧ R a rest :=
  ⟨fun hts => ((hQ.yields hts).and hR).mono fun _ _ h => ⟨h.1.1, h.1.2, h.2⟩⟩

lemma keeps_of_reads {Q : List Token → α → List Token → Prop} (h : ∀ ts, Reads p ts (Q ts)) :
    Keeps p :=
  ⟨fun ts => (h ts).mono fun _ _ _ => trivial⟩

/-! ### Composition -/

lemma reads_pure {a : α} (h : Q a ts) : Reads (pure a) ts Q :=
  ⟨fun hts => yields_pure ⟨hts, h⟩⟩

lemma reads_fail : Reads (fail : Parser α) ts Q := ⟨fun _ => yields_fail⟩

lemma reads_bind_of {f : α → Parser β} {Q : β → List Token → Prop} (hp : Reads p ts R)
    (h : ∀ a middle, R a middle → Reads (f a) middle Q) : Reads (p >>= f) ts Q :=
  ⟨fun hts => yields_bind_of (hp.yields hts) fun a middle ha => (h a middle ha.2).yields ha.1⟩

/-- The first step may read anything, as long as written tokens are left. -/
lemma reads_bind [hp : Keeps p] {f : α → Parser β} {Q : β → List Token → Prop}
    (h : ∀ a middle, Reads (f a) middle Q) : Reads (p >>= f) ts Q :=
  reads_bind_of (hp.reads ts) fun a middle _ => h a middle

lemma reads_pure_bind {a : α} {f : α → Parser β} {Q : β → List Token → Prop}
    (h : Reads (f a) ts Q) : Reads (pure a >>= f) ts Q :=
  h

lemma reads_ite {c : Prop} [Decidable c] (hp : c → Reads p ts Q) (hq : ¬c → Reads q ts Q) :
    Reads (if c then p else q) ts Q := by
  split
  · exact hp ‹_›
  · exact hq ‹_›

lemma reads_nest (hp : Reads p ts Q) : Reads (nest p) ts Q :=
  ⟨fun hts => yields_nest (hp.yields hts)⟩

lemma reads_attempt {Q : Option α → List Token → Prop} (hsome : Reads p ts fun a => Q (some a))
    (hnone : Q none ts) : Reads (attempt p) ts Q :=
  ⟨fun hts => yields_attempt (hsome.yields hts) ⟨hts, hnone⟩⟩

lemma reads_orElse (hp : Reads p ts Q) (hq : Reads q ts Q) : Reads (orElse p q) ts Q :=
  ⟨fun hts => yields_orElse (hp.yields hts) (hq.yields hts)⟩

/-! ### Single tokens -/

lemma reads_ahead : Reads ahead ts fun a rest => AreWritten a ∧ a = ts ∧ rest = ts :=
  ⟨fun hts => yields_ahead.mono fun _ _ ⟨ha, hrest⟩ => by
    rw [ha, hrest]
    exact ⟨hts, hts, rfl, rfl⟩⟩

lemma reads_goTo {target : List Token} (h : AreWritten target) :
    Reads (goTo target) ts fun _ _ => True :=
  ⟨fun _ => (yields_goTo target).mono fun _ _ hrest => ⟨hrest ▸ h, trivial⟩⟩

lemma reads_next : Reads next ts fun a _ => ∀ t ∈ a, t.IsWritten :=
  ⟨fun hts => yields_next.mono fun _ _ ⟨ha, hrest⟩ => by
    refine ⟨?_, fun t ht => hts t (List.mem_of_mem_head? (ha ▸ ht))⟩
    rw [hrest]
    exact fun t ht => hts t (List.mem_of_mem_tail ht)⟩

/-! ### Repetition -/

lemma reads_loop {step : σ → Parser (σ ⊕ α)} {I : σ → List Token → Prop}
    (hstep : ∀ s ts, I s ts → Reads (step s) ts (Sum.elim I Q)) {s : σ} (hs : I s ts) :
    Reads (loop step s) ts Q := by
  refine ⟨fun hts => ?_⟩
  refine yields_loop (I := fun s ts => AreWritten ts ∧ I s ts) ?_ ⟨hts, hs⟩
  intro s ts hs
  refine ((hstep s ts hs.2).yields hs.1).mono fun r rest hr => ?_
  cases r with
  | inl s' => exact hr
  | inr a => exact hr

/-! ### Parsers that keep tokens written -/

instance (a : α) : Keeps (pure a) := ⟨fun _ => reads_pure trivial⟩

instance : Keeps (fail : Parser α) := ⟨fun _ => reads_fail⟩

instance {f : α → Parser β} [Keeps p] [h : ∀ a, Keeps (f a)] : Keeps (p >>= f) :=
  ⟨fun _ => reads_bind fun a _ => (h a).reads _⟩

instance {c : Prop} [Decidable c] [hp : Keeps p] [hq : Keeps q] : Keeps (if c then p else q) :=
  ⟨fun _ => reads_ite (fun _ => hp.reads _) (fun _ => hq.reads _)⟩

instance [hp : Keeps p] : Keeps (nest p) := ⟨fun _ => reads_nest (hp.reads _)⟩

instance [hp : Keeps p] : Keeps (attempt p) :=
  ⟨fun _ => reads_attempt (hp.reads _) trivial⟩

instance [hp : Keeps p] [hq : Keeps q] : Keeps (orElse p q) :=
  ⟨fun _ => reads_orElse (hp.reads _) (hq.reads _)⟩

instance {step : σ → Parser (σ ⊕ α)} [h : ∀ s, Keeps (step s)] (s : σ) : Keeps (loop step s) :=
  ⟨fun _ => reads_loop (I := fun _ _ => True)
    (fun s ts _ => ((h s).reads ts).mono fun r _ _ => by cases r <;> trivial) trivial⟩

instance : Keeps ahead := keeps_of_reads fun _ => reads_ahead

instance : Keeps next := keeps_of_reads fun _ => reads_next

lemma keeps_of_subset (h : ∀ ts, Yields p ts fun _ rest => rest ⊆ ts) : Keeps p :=
  ⟨fun ts => ⟨fun hts => (h ts).mono fun _ _ hsub => ⟨fun t ht => hts t (hsub ht), trivial⟩⟩⟩

/-- A parser that only looks ahead. -/
lemma keeps_of_rest_eq {f : List Token → α} (h : ∀ d ts, p d ts = .ok (f ts, ts)) : Keeps p :=
  keeps_of_subset fun ts => ⟨fun {d a rest} hp => by
    rw [h, Except.ok.injEq, Prod.mk.injEq] at hp
    rw [hp.2]
    exact List.Subset.refl rest⟩

instance : Keeps peek := keeps_of_rest_eq fun _ _ => rfl

instance (key : String) : Keeps (sees key) := keeps_of_rest_eq fun _ _ => rfl

instance (keys : List String) : Keeps (seesOneOf keys) := keeps_of_rest_eq fun _ _ => rfl

instance (s : String) : Keeps (seesSymbol s) := keeps_of_rest_eq fun _ _ => rfl

instance (key : String) : Keeps (keyword key) :=
  keeps_of_subset fun _ => (yields_keyword key).mono fun _ rest h => by
    obtain ⟨-, t, rfl, -⟩ | ⟨-, rfl⟩ := h
    · exact List.subset_cons_self t rest
    · exact List.Subset.refl rest

instance (s : String) : Keeps (symbol s) :=
  keeps_of_subset fun _ => (yields_symbol s).mono fun _ rest h => by
    obtain ⟨-, t, rfl, -⟩ | ⟨-, rfl⟩ := h
    · exact List.subset_cons_self t rest
    · exact List.Subset.refl rest

lemma afterKeywords_subset {keys : List String} {ts rest : List Token}
    (h : afterKeywords keys ts = some rest) : rest ⊆ ts := by
  fun_induction afterKeywords keys ts with
  | case1 ts =>
    obtain rfl : ts = rest := by simpa using h
    exact List.Subset.refl ts
  | case2 key keys t ts _ ih => exact List.subset_cons_of_subset t (ih h)
  | case3 | case4 => simp at h

instance (keys : List String) : Keeps (keywords keys) :=
  keeps_of_subset fun _ => ⟨fun {d b rest} h => by
    unfold keywords at h
    split at h
    next hafter =>
      rw [← (Prod.mk.inj (Except.ok.inj h)).2]
      exact afterKeywords_subset hafter
    next =>
      rw [← (Prod.mk.inj (Except.ok.inj h)).2]
      exact List.Subset.refl _⟩

instance (keys : List String) : Keeps (oneOf keys) :=
  keeps_of_subset fun _ => ⟨fun {d b rest} h => by
    unfold oneOf at h
    split at h
    · split at h <;> rw [← (Prod.mk.inj (Except.ok.inj h)).2]
      · exact List.subset_cons_self _ _
      · exact List.Subset.refl _
    · rw [← (Prod.mk.inj (Except.ok.inj h)).2]
      exact List.Subset.refl _⟩

instance (b : Bool) : Keeps (require b) :=
  inferInstanceAs (Keeps (if b then pure () else fail))

instance (b : Bool) (key : String) : Keeps (keywordWhen b key) :=
  inferInstanceAs (Keeps (if b then keyword key else pure false))

instance (key : String) : Keeps (expect key) :=
  inferInstanceAs (Keeps (keyword key >>= require))

instance (keys : List String) : Keeps (expectAll keys) :=
  inferInstanceAs (Keeps (keywords keys >>= require))

instance (s : String) : Keeps (expectSymbol s) :=
  inferInstanceAs (Keeps (symbol s >>= require))

instance (keys : List String) : Keeps (expectOneOf keys) :=
  ⟨fun _ => reads_bind fun a _ => by
    split
    · exact reads_pure trivial
    · exact reads_fail⟩

lemma reads_commaSeparated {Q : α → Prop} (hp : ∀ ts, Reads p ts fun a _ => Q a) :
    Reads (commaSeparated p) ts fun as _ => ∀ a ∈ as, Q a := by
  refine reads_bind_of (hp ts) fun first middle hfirst => ?_
  refine reads_loop (I := fun found _ => ∀ a ∈ found, Q a) ?_ (by simpa using hfirst)
  intro found ts hfound
  refine reads_bind fun _ _ => reads_ite (fun _ => ?_) (fun _ => reads_pure ?_)
  · refine reads_bind_of (hp _) fun a rest ha => reads_pure ?_
    simpa using ⟨ha, hfound⟩
  · simpa using hfound

instance [hp : Keeps p] : Keeps (commaSeparated p) :=
  keeps_of_reads fun _ => reads_commaSeparated (Q := fun _ => True) hp.reads

instance [Keeps p] : Keeps (parenthesized p) :=
  inferInstanceAs (Keeps (do
    expectSymbol "("
    let a ← p
    expectSymbol ")"
    return a))

/-! ### Names, literals and types -/

instance : Keeps ident :=
  ⟨fun _ => reads_bind fun _ _ => by
    split
    · exact reads_pure trivial
    · exact reads_fail⟩

instance : Keeps path :=
  inferInstanceAs (Keeps (do
    let first ← ident
    loop (fun found => do
      if ← symbol "." then
        return .inl ((← ident) :: found)
      else
        return .inr found.reverse) [first]))

instance : Keeps pathText := inferInstanceAs (Keeps (do return printPath (← path)))

instance : Keeps identsText :=
  inferInstanceAs (Keeps (do
    return String.intercalate ", " ((← commaSeparated ident).map Ident.print)))

/-- A literal is read from a token, so it is written like it. -/
lemma reads_literal : Reads literal ts fun value _ => value.IsWritten := by
  refine reads_bind_of reads_next fun t _ ht => ?_
  split
  case h_4 => exact reads_pure (ht _ rfl)
  case h_11 =>
    refine reads_bind fun _ _ => reads_bind fun _ _ => ?_
    split
    all_goals first
      | exact reads_pure trivial
      | exact reads_fail
  all_goals first
    | exact reads_pure trivial
    | exact reads_fail

instance : Keeps literal := keeps_of_reads fun _ => reads_literal

instance : Keeps literalString :=
  ⟨fun _ => reads_bind fun _ _ => by
    split
    all_goals first
      | exact reads_pure trivial
      | exact reads_fail⟩

instance : Keeps unsigned :=
  ⟨fun _ => reads_bind fun _ _ => by
    split
    · exact reads_bind fun _ _ => reads_bind fun _ _ => reads_pure trivial
    · exact reads_fail⟩

instance : Keeps optionalSize :=
  ⟨fun _ => reads_bind fun _ _ => reads_ite
    (fun _ => reads_bind fun _ _ => reads_bind fun _ _ => reads_pure trivial)
    (fun _ => reads_pure trivial)⟩

instance (comma : String) : Keeps (optionalSizes comma) :=
  ⟨fun _ => reads_bind fun _ _ => reads_ite
    (fun _ => reads_bind fun _ _ => reads_bind fun _ _ => reads_ite
      (fun _ => reads_bind fun _ _ => reads_bind fun _ _ => reads_pure trivial)
      (fun _ => reads_bind fun _ _ => reads_pure trivial))
    (fun _ => reads_pure trivial)⟩

instance (units : Bool) : Keeps (optionalLength units) := by
  refine ⟨fun _ => ?_⟩
  unfold optionalLength
  dsimp only
  repeat' first
    | exact reads_pure trivial
    | refine reads_ite (fun _ => ?_) (fun _ => ?_)
    | refine reads_bind fun _ _ => ?_

instance (base : String) : Keeps (characterType base) :=
  ⟨fun _ => reads_bind fun _ _ => reads_ite
    (fun _ => reads_bind fun _ _ => reads_pure trivial)
    (fun _ => reads_bind fun _ _ => reads_ite
      (fun _ => reads_bind fun _ _ => reads_pure trivial)
      (fun _ => reads_bind fun _ _ => reads_pure trivial))⟩

instance (base : String) : Keeps (timeType base) :=
  ⟨fun _ => reads_bind fun _ _ => reads_bind fun _ _ => reads_ite
    (fun _ => reads_bind fun _ _ => reads_pure trivial)
    (fun _ => reads_bind fun _ _ => reads_ite
      (fun _ => reads_bind fun _ _ => reads_pure trivial)
      (fun _ => reads_pure trivial))⟩

/-- The text of a string. -/
lemma keeps_single : Keeps (do
    match ← next with
    | some (.single text) => return quoteText '\'' text
    | _ => fail) :=
  ⟨fun _ => reads_bind fun _ _ => by
    split
    · exact reads_pure trivial
    · exact reads_fail⟩

instance (base : String) : Keeps (enumerated base) :=
  have := keeps_single
  ⟨fun _ => reads_bind fun _ _ => reads_pure trivial⟩

instance : Keeps typeModifiers := by
  refine ⟨fun _ => reads_bind fun _ _ => reads_ite (fun _ => ?_) (fun _ => reads_pure trivial)⟩
  refine reads_bind_of (R := fun _ _ => True) ?_ fun _ _ _ => reads_pure trivial
  refine reads_loop (I := fun _ _ => True) (fun _ _ _ => reads_bind fun _ _ => ?_) trivial
  split
  all_goals first
    | exact reads_pure trivial
    | exact reads_fail

instance : Keeps typeName := by
  refine ⟨fun ts => reads_bind_of reads_ahead fun start _ hstart => reads_bind fun _ _ => ?_⟩
  have hcustom : ∀ ts, Reads (do
      goTo start
      let name ← pathText
      return TypeName.custom (name ++ (← typeModifiers))) ts fun _ _ => True := fun ts =>
    reads_bind_of (reads_goTo hstart.1) fun _ _ _ => reads_bind fun _ _ => reads_bind fun _ _ =>
      reads_pure trivial
  split
  · repeat' first
      | exact hcustom _
      | exact reads_pure trivial
      | exact reads_fail
      | exact Keeps.reads _
      | refine reads_ite (fun _ => ?_) (fun _ => ?_)
      | refine reads_bind fun _ _ => ?_
      | split
  · exact hcustom _
  · exact reads_fail

instance : Keeps timeField := inferInstanceAs (Keeps (expectOneOf timeFields))

/-! ### Clauses without expressions -/

instance : Keeps namedSign :=
  ⟨fun _ => reads_bind fun _ _ => reads_ite (fun _ => reads_pure trivial)
    (fun _ => reads_bind fun _ _ => reads_pure trivial)⟩

instance : Keeps seesQuery := inferInstanceAs (Keeps (seesOneOf ["SELECT", "WITH"]))

instance : Keeps seesSource :=
  ⟨fun _ => reads_bind fun _ _ => by split <;> exact reads_pure trivial⟩

instance (forms : List (List String × String)) : Keeps (firstOf forms) := by
  induction forms with
  | nil => exact ⟨fun _ => reads_pure trivial⟩
  | cons form forms ih =>
    exact ⟨fun _ => reads_bind fun _ _ => reads_ite (fun _ => reads_pure trivial)
      (fun _ => ih.reads _)⟩

instance : Keeps escapeChar :=
  ⟨fun _ => reads_bind fun _ _ => reads_ite
    (fun _ => reads_bind fun _ _ => reads_pure trivial) (fun _ => reads_pure trivial)⟩

instance (stops : List String) : Keeps (optionalAlias stops) := by
  refine ⟨fun ts => reads_bind fun explicit _ => reads_bind_of reads_ahead fun tokens _ h => ?_⟩
  split
  next t rest =>
    dsimp only
    split
    · exact reads_bind_of (reads_goTo h.1.tail) fun _ _ _ => reads_pure trivial
    · exact reads_bind fun _ _ => reads_pure trivial
  · exact reads_bind fun _ _ => reads_pure trivial

/-- The name of a column and perhaps its type. -/
lemma keeps_typedColumn : Keeps (do
    let c := (← ident).print
    match ← attempt typeName with
    | some t => return c ++ " " ++ t.text
    | none => return c) :=
  ⟨fun _ => reads_bind fun _ _ => reads_bind fun _ _ => by split <;> exact reads_pure trivial⟩

instance : Keeps tableAlias.columns :=
  have := keeps_typedColumn
  ⟨fun _ => reads_bind fun _ _ => reads_ite
    (fun _ => reads_bind fun _ _ => reads_bind fun _ _ => reads_pure trivial)
    (fun _ => reads_pure trivial)⟩

instance : Keeps tableAlias :=
  ⟨fun _ => reads_bind fun _ _ => by
    split
    · exact reads_pure trivial
    · exact reads_bind fun _ _ => reads_pure trivial⟩

instance : Keeps indexHint := by
  refine ⟨fun _ => reads_bind fun _ _ => ?_⟩
  split
  · exact reads_pure trivial
  · dsimp only
    repeat' first
      | exact reads_pure trivial
      | refine reads_ite (fun _ => ?_) (fun _ => ?_)
      | refine reads_bind fun _ _ => ?_

/-- One more hint, if one comes next. -/
lemma keeps_nextHint (found : String) : Keeps (do
    match ← indexHint with
    | some h => return (.inl (found ++ " " ++ h) : String ⊕ String)
    | none => return .inr found) :=
  ⟨fun _ => reads_bind fun _ _ => by split <;> exact reads_pure trivial⟩

instance : Keeps indexHints :=
  have := keeps_nextHint
  ⟨fun _ => reads_bind fun _ _ => reads_pure trivial⟩

instance : Keeps joinWords := by
  refine ⟨fun _ => ?_⟩
  unfold joinWords
  repeat' first
    | exact reads_pure trivial
    | refine reads_ite (fun _ => ?_) (fun _ => ?_)
    | refine reads_bind fun _ _ => ?_
    | split

instance (token : Option Token) : Keeps (wordText token) := by
  refine ⟨fun _ => ?_⟩
  unfold wordText
  split
  · exact reads_pure trivial
  · exact reads_pure trivial
  · exact reads_fail

instance : Keeps setQuantifier := by
  refine ⟨fun _ => ?_⟩
  unfold setQuantifier
  repeat' first
    | exact reads_pure trivial
    | refine reads_ite (fun _ => ?_) (fun _ => ?_)
    | refine reads_bind fun _ _ => ?_

end SemanticQuery.Sql.Parser
