import SemanticQuery.Proofs.Sql.Plain.Terms

/-!
# Reading plain expressions

An operator with its right side is read behind any expression, and an expression is read by going
through its operators from left to right.
-/

namespace SemanticQuery.Sql.Plain

open Sql.Parser

variable {F : Forms} {g : Grammar} {p q power d : Nat} {left e : Expr} {t : Token}
  {ts us rest : List Token} {symbols keys : List String}

/-- The keywords that end the core of a query. -/
def bodyEnds : List String := ["ORDER", "LIMIT", "OFFSET"]

/-- The reader reads what stands inside other forms, and the cores of queries. -/
structure Forms.ReadsBodies (F : Forms) (g : Grammar) (d : Nat) : Prop extends F.Reads g d where
  read_body : ∀ {body ts rest}, IsBody F body ts → IsAhead [")"] bodyEnds rest →
    g.body 0 d (ts ++ rest) = .ok (body, rest)
  body_unexpected : ∀ {t} ts, Opens t → t ≠ .symbol "(" →
    g.body 0 d (t :: ts) = .error .unexpected

/-! ### Operators -/

lemma Opens.keyword {k : String} (h : Opens t) (hk : k ∈ openers) :
    keyword k d (t :: ts) = .ok (false, t :: ts) :=
  keyword_other (h.isKeyword_eq_false hk)

lemma Opens.oneOf {ks : List String} (h : Opens t) (hks : ks ⊆ openers) :
    oneOf ks d (t :: ts) = .ok (none, t :: ts) := by
  cases t with
  | word text k =>
    have hnot : k ∉ ks := fun hmem => h.1 text k rfl (hks hmem)
    simp [Parser.oneOf, hnot]
  | _ => rfl

lemma rightSide_run {op : BinaryOp} (hts : Opening ts)
    (h : g.subexpr power d ts = .ok (e, rest)) :
    rightSide g left op power d ts = .ok (.binary op left e, rest) := by
  obtain ⟨t, us, rfl, ht, -⟩ := hts.cons
  have hnone : Parser.oneOf ["ANY", "ALL", "SOME"] d (t :: us) = .ok (none, t :: us) :=
    ht.oneOf (by decide)
  simp [rightSide, bind_run, hnone, h, pure_run]

lemma infixed_binary {op : BinaryOp} (hop : (op, power, t) ∈ operators) (hts : Opening ts)
    (h : g.subexpr power d ts = .ok (e, rest)) :
    infixed g left power d (t :: ts) = .ok (.binary op left e, rest) := by
  obtain ⟨-, htoken, hdiv, -⟩ := operator_powerOf hop ts
  simp [infixed, bind_run, keyword_run, hdiv, ahead_run, htoken, goTo_run, rightSide_run hts h]

/-! ### Tests -/

lemma infixed_is {form : List String × String} (h : form ∈ isForms) :
    infixed g left power d (key "IS" :: form.1.map key ++ rest) =
      .ok (.phrase [.expr left, .text form.2], rest) := by
  simp only [isForms, List.mem_cons, List.not_mem_nil, or_false] at h
  rcases h with rfl | rfl | rfl | rfl | rfl | rfl | rfl | rfl <;> rfl

lemma infixed_word {k : String} (hk : k ∈ ["NOT", "IN", "LIKE", "BETWEEN"]) :
    infixed g left power d (key k :: ts) = negatableTest g left d (key k :: ts) := by
  simp only [List.mem_cons, List.not_mem_nil, or_false] at hk
  rcases hk with rfl | rfl | rfl | rfl <;> rfl

/-- A test that may be negated is read from its first keyword on. -/
lemma infixed_negatable {k : String} (negated : Bool) (hk : k ∈ ["IN", "LIKE", "BETWEEN"]) :
    infixed g left power d (negationTokens negated ++ key k :: ts) =
      negatableTest g left d (negationTokens negated ++ key k :: ts) := by
  cases negated with
  | false => exact infixed_word (by simp at hk ⊢; tauto)
  | true => exact infixed_word (by simp)

lemma negatableTest_in (negated : Bool) :
    negatableTest g left d (negationTokens negated ++ key "IN" :: ts) =
      membership g left negated d ts := by
  cases negated <;> rfl

lemma negatableTest_like (negated : Bool) {t : Token} (ht : Opens t)
    (hend : IsAhead symbols keys rest) (hescape : "ESCAPE" ∉ keys)
    (h : g.subexpr Power.like d (t :: ts) = .ok (e, rest)) :
    negatableTest g left d (negationTokens negated ++ key "LIKE" :: t :: ts) =
      .ok (.like negated false left e none, rest) := by
  have hstart : negatableTest g left d (negationTokens negated ++ key "LIKE" :: t :: ts) =
      (keyword "ANY" >>= fun any => g.subexpr Power.like >>= fun pattern =>
        escapeChar >>= fun escape => pure (.like negated any left pattern escape)) d (t :: ts) := by
    cases negated <;> rfl
  rw [hstart]
  have hclosing : escapeChar d rest = .ok (none, rest) := by
    simp [escapeChar, bind_run, hend.keyword hescape, pure_run]
  simp [bind_run, ht.keyword (k := "ANY") (by decide), h, hclosing, pure_run]

lemma negatableTest_between (negated : Bool) {low high : Expr}
    (hlow : g.subexpr Power.compare d ts = .ok (low, key "AND" :: us))
    (hhigh : g.subexpr Power.compare d us = .ok (high, rest)) :
    negatableTest g left d (negationTokens negated ++ key "BETWEEN" :: ts) =
      .ok (.between negated left low high, rest) := by
  have hstart : negatableTest g left d (negationTokens negated ++ key "BETWEEN" :: ts) =
      (g.subexpr Power.compare >>= fun low => expect "AND" >>= fun _ =>
        g.subexpr Power.compare >>= fun high =>
          pure (.between negated left low high)) d ts := by
    cases negated <;> rfl
  rw [hstart, bind_of_ok hlow, bind_of_ok (expect_key "AND"), bind_of_ok hhigh]
  rfl

/-- No query can begin where members do. -/
lemma members_head (hF : F.Begins) {items : List Expr}
    (h : Listed (fun e ts => F.expr 0 0 e ts ∧ isMember e = true) items ts) (rest : List Token) :
    ∃ t us, ts ++ .symbol ")" :: rest = t :: us ∧ Opens t ∧ t ≠ .symbol "(" := by
  have hclose : Separate (.symbol ")" :: rest) := separate_symbol (by decide)
  obtain ⟨e, us, vs, ⟨he, hmember⟩, heq, hvs⟩ := h.head hclose
  obtain ⟨t, us, rfl, hopen⟩ := hF.member he hmember
  obtain ⟨t', us', htokens, ht, -⟩ := (hF.expr he hvs).cons
  obtain ⟨rfl, -⟩ := List.cons.inj htokens
  exact ⟨t, _, heq, ht, hopen⟩

lemma membership_list (hg : F.ReadsBodies g d) (negated : Bool) {items : List Expr}
    (h : Listed (fun e ts => F.expr 0 0 e ts ∧ isMember e = true) items ts) :
    membership g left negated d (.symbol "(" :: ts ++ .symbol ")" :: rest) =
      .ok (.inList negated left items, rest) := by
  have hend : IsAhead [")"] [] (.symbol ")" :: rest) := .symbol_cons (by simp)
  have hread := h.commaSeparated_run (r := g.expr) (d := d) (by decide) hend
    fun a _ ts rest ha hrest =>
      hg.read_expr ha.1 (follows_of_ends hrest (by decide) (by decide)) le_rfl
  obtain ⟨t, us, heq, ht, hopen⟩ := members_head hg.toBegins h rest
  rw [List.cons_append]
  rw [heq] at hread ⊢
  have hnone := attempt_of_unexpected (hg.body_unexpected us ht hopen)
  simp [membership, bind_run, keyword_run, Token.isKeyword, expectSymbol_run, hnone, hread,
    pure_run]

lemma membership_query (hg : F.ReadsBodies g d) (negated : Bool) {body : Body}
    (h : IsBody F body ts) :
    membership g left negated d (.symbol "(" :: ts ++ .symbol ")" :: rest) =
      .ok (.phrase [.expr left, .text (" " ++ negation negated ++ "IN ("),
        .query ⟨[], body, []⟩, .text ")"], rest) := by
  have hend : IsAhead [")"] bodyEnds (.symbol ")" :: rest) := .symbol_cons (by simp)
  have hsome := attempt_of_ok (hg.read_body h hend)
  simp [membership, bind_run, keyword_run, Token.isKeyword, expectSymbol_run, hsome, pure_run]

/-- The operator behind an expression is read with its right side. -/
lemma IsTail.run (hg : F.ReadsBodies g d) (h : IsTail F q left power e ts)
    (hrest : Follows q rest) : infixed g left power d (ts ++ rest) = .ok (e, rest) := by
  cases h with
  | binary hop hq hright =>
    exact infixed_binary hop (hg.expr hright hrest.separate) (hg.read_expr hright hrest hq)
  | @inList negated items ts hitems =>
    simpa [infixed_negatable, negatableTest_in] using membership_list hg negated hitems
  | @inQuery negated body ts hbody =>
    simpa [infixed_negatable, negatableTest_in] using membership_query hg negated hbody
  | @like negated pattern ts hq hpattern =>
    obtain ⟨t, us, heq, ht, -⟩ := (hg.expr hpattern hrest.separate).cons
    have hread := hg.read_expr hpattern hrest hq
    rw [heq] at hread
    rw [List.append_assoc, List.cons_append, heq, infixed_negatable _ (by simp)]
    exact negatableTest_like negated ht hrest.ahead (by decide) hread
  | @between negated low ts high us hq hlow hhigh =>
    have hand : Follows Power.and (key "AND" :: us ++ rest) :=
      ⟨.word_cons (by decide), le_rfl⟩
    have hlowRead := hg.read_expr hlow hand (by decide)
    rw [List.append_assoc, List.cons_append, infixed_negatable _ (by simp), List.append_assoc]
    exact negatableTest_between negated hlowRead (hg.read_expr hhigh hrest hq)
  | is hform => exact infixed_is hform

/-! ### Expressions -/

/-- One round of reading operators. -/
def operatorRound (g : Grammar) (power : Nat) (e : Expr) : Parser (Expr ⊕ Expr) := do
  let ts ← ahead
  let next := powerOf ts
  if power ≥ next then return .inr e
  else if (ts.head?.map (·.isSymbol ".")).getD false then return .inr e
  else return .inl (← infixed g e next)

lemma expression_of_term (h : (term g >>= accessed g) d ts = .ok (e, rest)) :
    expression g p d ts = iterate (operatorRound g p) (rest.length + 1) e d rest := by
  have hbind : expression g p d ts =
      ((term g >>= accessed g) >>= loop (operatorRound g p)) d ts := by
    rw [bind_run (term g >>= accessed g), bind_run (term g)]
    unfold expression
    rw [bind_run (term g)]
    cases term g d ts <;> rfl
  rw [hbind, bind_of_ok h, loop_run]

lemma operatorRound_end (h : powerOf rest ≤ p) :
    operatorRound g p e d rest = .ok (.inr e, rest) := by
  simp [operatorRound, bind_run, ahead_run, h, pure_run]

lemma operatorRound_tail (hg : F.ReadsBodies g d) (h : IsTail F q left power e ts)
    (hpower : p < power) (hrest : Follows q rest) :
    operatorRound g p left d (ts ++ rest) = .ok (.inl e, rest) := by
  obtain ⟨hnext, hahead⟩ := h.head rest
  have hpoint : ((ts ++ rest).head?.map (·.isSymbol ".")).getD false = false := by
    cases hhead : (ts ++ rest).head? with
    | none => rfl
    | some t => exact hahead.isSymbol_eq_false (by decide) t hhead
  simp only [operatorRound, bind_run, ahead_run, hnext, hpoint, ge_iff_le, not_le.mpr hpower,
    if_false, Bool.false_eq_true, h.run hg hrest, pure_run]

lemma sign_run (hg : F.Reads g d) {op : UnaryOp} {s : String}
    (hop : (op, s) ∈ [(UnaryOp.plus, "+"), (UnaryOp.minus, "-")]) (he : F.term e ts)
    (hrest : Follows q rest) (hq : q ≤ Power.multiply) :
    (term g >>= accessed g) d (.symbol s :: ts ++ rest) = .ok (.unary op e, rest) := by
  have hread := hg.read_expr (F.expr_of_term he) hrest hq
  refine term_of_closed hrest ?_
  simp only [List.mem_cons, Prod.mk.injEq, List.not_mem_nil, or_false] at hop
  rcases hop with ⟨rfl, rfl⟩ | ⟨rfl, rfl⟩ <;>
    simp [term, plainTerm, bind_run, peek_run, ahead_run, next_run, hread, pure_run]

lemma not_run (hg : F.Reads g d) (he : F.expr Power.not q e ts) (hrest : Follows q rest)
    (hq : q ≤ Power.not) :
    (term g >>= accessed g) d (key "NOT" :: ts ++ rest) = .ok (.unary .not e, rest) := by
  have hread := hg.read_expr he hrest hq
  obtain ⟨t, us, rfl, ht⟩ := hg.notExists he le_rfl
  have hnone : keyword "EXISTS" d (t :: us ++ rest) = .ok (false, t :: us ++ rest) :=
    keyword_other ht
  have hform : notForm g d (t :: us ++ rest) = .ok (.unary .not e, rest) := by
    rw [notForm, bind_of_ok hnone]
    exact bind_of_ok hread
  exact term_of_closed hrest (term_keyword (by decide) (bind_of_ok hform))

lemma existsForm_run (hg : F.Reads g d) (negated : Bool) {x : Query} (hx : F.query x ts) :
    existsForm g negated d (.symbol "(" :: (ts ++ .symbol ")" :: rest)) =
      .ok (.phrase [.text (negation negated ++ "EXISTS ("), .query x, .text ")"], rest) := by
  have hread := hg.read_query hx (.symbol_cons (by simp) : IsAhead [")"] [] (.symbol ")" :: rest))
  rw [existsForm, bind_of_ok expectSymbol_run, bind_of_ok hread, bind_of_ok expectSymbol_run]
  rfl

lemma existence_run (hg : F.Reads g d) (negated : Bool) {x : Query} (hx : F.query x ts)
    (hrest : Follows q rest) :
    (term g >>= accessed g) d
        (negationTokens negated ++ key "EXISTS" :: .symbol "(" :: (ts ++ [.symbol ")"]) ++ rest) =
      .ok (.phrase [.text (negation negated ++ "EXISTS ("), .query x, .text ")"], rest) := by
  have hform : existsForm g negated d (.symbol "(" :: (ts ++ .symbol ")" :: rest)) =
      .ok (.phrase [.text (negation negated ++ "EXISTS ("), .query x, .text ")"], rest) :=
    existsForm_run hg negated hx
  have htokens :
      negationTokens negated ++ key "EXISTS" :: .symbol "(" :: (ts ++ [.symbol ")"]) ++ rest =
        negationTokens negated ++ key "EXISTS" :: .symbol "(" :: (ts ++ .symbol ")" :: rest) := by
    simp
  rw [htokens]
  cases negated with
  | false => exact term_of_closed hrest (term_keyword (by decide) (bind_of_ok hform))
  | true =>
    have hnot : notForm g d (key "EXISTS" :: .symbol "(" :: (ts ++ .symbol ")" :: rest)) =
        .ok (.phrase [.text (negation true ++ "EXISTS ("), .query x, .text ")"], rest) := by
      rw [notForm, bind_of_ok (keyword_key "EXISTS")]
      exact hform
    exact term_of_closed hrest (term_keyword (by decide) (bind_of_ok hnot))

/-- Reading an expression comes to the point where all of it is read and the operators behind it
are next. -/
lemma IsExpression.run (hg : F.ReadsBodies g d) (h : IsExpression F p q e ts)
    (hrest : Follows q rest) :
    ∃ n, rest.length < n ∧
      expression g p d (ts ++ rest) = iterate (operatorRound g p) n e d rest := by
  induction h generalizing rest with
  | term he => exact ⟨_, Nat.lt_succ_self _, expression_of_term (he.run hg.toReads hrest)⟩
  | sign hop hq he =>
    exact ⟨_, Nat.lt_succ_self _, expression_of_term (sign_run hg.toReads hop he hrest hq)⟩
  | not hq he =>
    exact ⟨_, Nat.lt_succ_self _, expression_of_term (not_run hg.toReads he hrest hq)⟩
  | existence _ hx =>
    exact ⟨_, Nat.lt_succ_self _, expression_of_term (existence_run hg.toReads _ hx hrest)⟩
  | @tail q power left ts e us _ htail hpower ih =>
    obtain ⟨n, hn, hleft⟩ := ih (htail.follows rest)
    obtain ⟨n, rfl⟩ := Nat.exists_eq_succ_of_ne_zero (Nat.ne_zero_of_lt hn)
    have hne : us ≠ [] := by
      rintro rfl
      have hzero : 0 = power := (htail.head []).1
      omega
    refine ⟨n, ?_, ?_⟩
    · have hlength := List.length_pos_iff.mpr hne
      simp at hn
      omega
    · rw [List.append_assoc, hleft, iterate_inl (operatorRound_tail hg htail hpower hrest)]

lemma expression_run (hg : F.ReadsBodies g d) (h : IsExpression F p q e ts)
    (hrest : Follows q rest) (hq : q ≤ p) : expression g p d (ts ++ rest) = .ok (e, rest) := by
  obtain ⟨n, hn, hall⟩ := h.run hg hrest
  obtain ⟨n, rfl⟩ := Nat.exists_eq_succ_of_ne_zero (Nat.ne_zero_of_lt hn)
  rw [hall, iterate_inr (operatorRound_end (hrest.power.trans hq))]

end SemanticQuery.Sql.Plain
