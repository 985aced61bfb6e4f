import SemanticQuery.Proofs.Sql.Plain.Ahead
import SemanticQuery.Proofs.Sql.Plain.Grammar

/-!
# Where expressions begin and end

What may follow an expression, and what its first two tokens can be. The reader looks at no more
than these when it passes over the forms that are not plain.
-/

namespace SemanticQuery.Sql.Plain

open Sql.Parser

variable {F : Forms} {p q power d : Nat} {left e : Expr} {t : Token} {ts us rest : List Token}

/-! ### What follows an expression -/

/-- The symbols that end an expression. -/
def endSymbols : List String := [")", ","]

/-- The keywords that end an expression. -/
def endKeys : List String :=
  ["AS", "FROM", "WHERE", "GROUP", "HAVING", "ORDER", "LIMIT", "OFFSET", "ASC", "DESC", "JOIN",
   "INNER", "LEFT", "RIGHT", "FULL", "CROSS", "WHEN", "THEN", "ELSE", "END", "UNION", "EXCEPT"] ++
    spanUnits

/-- The symbols of operators. -/
def operatorSymbols : List String :=
  ["=", "<>", ">", ">=", "<", "<=", "+", "-", "*", "/", "%", "||"]

/-- The keywords that open an operator. -/
def operatorKeys : List String := ["AND", "OR", "NOT", "IN", "LIKE", "BETWEEN", "IS"]

/-- An expression ends here, or an operator stands here that binds at most as tightly as `q`. -/
structure Follows (q : Nat) (rest : List Token) : Prop where
  ahead : IsAhead (endSymbols ++ operatorSymbols) (endKeys ++ operatorKeys) rest
  power : powerOf rest ≤ q

lemma powerOf_symbol_eq_zero {s : String} (h : s ∈ endSymbols) :
    powerOf (.symbol s :: rest) = 0 := by
  simp only [endSymbols, List.mem_cons, List.not_mem_nil, or_false] at h
  rcases h with rfl | rfl <;> rfl

lemma powerOf_keyword_eq_zero {k text : String} (h : k ∈ endKeys) :
    powerOf (.word text k :: rest) = 0 := by
  have hall : ∀ k ∈ endKeys, k ≠ "NOT" ∧ k ≠ "AT" ∧ keywordPower k = 0 := by decide
  obtain ⟨hnot, hat, hpower⟩ := hall k h
  unfold powerOf
  split <;> simp_all

lemma follows_of_ends {symbols keys : List String} (h : IsAhead symbols keys rest)
    (hsymbols : symbols ⊆ endSymbols) (hkeys : keys ⊆ endKeys) : Follows q rest where
  ahead := h.mono (fun _ hs => List.mem_append_left _ (hsymbols hs))
    fun _ hk => List.mem_append_left _ (hkeys hk)
  power := by
    cases rest with
    | nil => exact Nat.zero_le q
    | cons t rest =>
      rcases h t rfl with ⟨s, hs, rfl⟩ | ⟨text, k, hk, rfl⟩
      · exact (powerOf_symbol_eq_zero (hsymbols hs)).le.trans (Nat.zero_le q)
      · exact (powerOf_keyword_eq_zero (hkeys hk)).le.trans (Nat.zero_le q)

lemma Follows.mono (h : Follows p rest) (hle : p ≤ q) : Follows q rest :=
  ⟨h.ahead, h.power.trans hle⟩

/-! ### Operators ahead -/

lemma operator_powerOf {op : BinaryOp} (h : (op, power, t) ∈ operators) (rest : List Token) :
    powerOf (t :: rest) = power ∧ tokenOp t = some op ∧ t.isKeyword "DIV" = false ∧
      IsAhead operatorSymbols operatorKeys (t :: rest) := by
  simp only [operators, List.mem_cons, Prod.mk.injEq, List.not_mem_nil, or_false] at h
  rcases h with ⟨rfl, rfl, rfl⟩ | ⟨rfl, rfl, rfl⟩ | ⟨rfl, rfl, rfl⟩ | ⟨rfl, rfl, rfl⟩ |
    ⟨rfl, rfl, rfl⟩ | ⟨rfl, rfl, rfl⟩ | ⟨rfl, rfl, rfl⟩ | ⟨rfl, rfl, rfl⟩ | ⟨rfl, rfl, rfl⟩ |
    ⟨rfl, rfl, rfl⟩ | ⟨rfl, rfl, rfl⟩ | ⟨rfl, rfl, rfl⟩ | ⟨rfl, rfl, rfl⟩ | ⟨rfl, rfl, rfl⟩
  · exact ⟨rfl, rfl, rfl, .word_cons (by decide)⟩
  · exact ⟨rfl, rfl, rfl, .word_cons (by decide)⟩
  all_goals exact ⟨rfl, rfl, rfl, .symbol_cons (by decide)⟩

/-- The operator at the head of a tail is the one that it is read by. -/
lemma IsTail.head (h : IsTail F q left power e us) (rest : List Token) :
    powerOf (us ++ rest) = power ∧ IsAhead operatorSymbols operatorKeys (us ++ rest) := by
  cases h with
  | binary hop _ _ =>
    obtain ⟨hpower, -, -, hahead⟩ := operator_powerOf hop _
    exact ⟨hpower, hahead⟩
  | @inList negated => cases negated <;> exact ⟨rfl, .word_cons (by decide)⟩
  | @inQuery negated => cases negated <;> exact ⟨rfl, .word_cons (by decide)⟩
  | @like negated => cases negated <;> exact ⟨rfl, .word_cons (by decide)⟩
  | @between negated => cases negated <;> exact ⟨rfl, .word_cons (by decide)⟩
  | is => exact ⟨rfl, .word_cons (by decide)⟩

lemma IsTail.follows (h : IsTail F q left power e us) (rest : List Token) :
    Follows power (us ++ rest) where
  ahead := (h.head rest).2.mono (List.subset_append_right _ _) (List.subset_append_right _ _)
  power := (h.head rest).1.le

/-! ### The head of an expression -/

/-- A token that may open an expression. -/
def Opens (t : Token) : Prop :=
  (∀ text k, t = .word text k → k ∉ openers) ∧ ∀ s, t = .symbol s → s ∈ ["(", "+", "-"]

/-- Nothing ahead makes a parameter or the head of a clause of the token before it. -/
def Apart (ts : List Token) : Prop :=
  ∀ u ∈ ts.head?, u.isKeyword "VALUE" = false ∧ u.isKeyword "ON" = false ∧ u.isSymbol "=>" = false

/-- Nothing ahead makes another form of the token before it. -/
structure Separate (ts : List Token) : Prop where
  apart : Apart ts
  point : ∀ u ∈ ts.head?, u.isSymbol "." = false

/-- The tokens go on with an expression. -/
inductive Opening : List Token → Prop
  | path {i : Ident} {t : Token} {is : List Ident} {ts rest : List Token} : IsName i t →
    IsDotted is ts → (∀ u ∈ rest.head?, u.isSymbol "." = false) →
    Opening (t :: .symbol "." :: ts ++ rest)
  | other {t : Token} {rest : List Token} : Opens t → Separate rest → Opening (t :: rest)

lemma Opens.isKeyword_eq_false {k : String} (h : Opens t) (hk : k ∈ openers) :
    t.isKeyword k = false := by
  cases t with
  | word text k' => exact beq_eq_false_iff_ne.mpr fun heq => h.1 text k' rfl (heq ▸ hk)
  | _ => rfl

lemma Opens.isSymbol_eq_false {s : String} (h : Opens t) (hs : s ∉ ["(", "+", "-"]) :
    t.isSymbol s = false := by
  cases t with
  | symbol s' => exact beq_eq_false_iff_ne.mpr fun heq => hs (heq ▸ h.2 s' rfl)
  | _ => rfl

lemma Opens.separate (h : Opens t) : Separate (t :: ts) where
  apart := by
    rintro _ ⟨⟩
    exact ⟨h.isKeyword_eq_false (by decide), h.isKeyword_eq_false (by decide),
      h.isSymbol_eq_false (by decide)⟩
  point := by
    rintro _ ⟨⟩
    exact h.isSymbol_eq_false (by decide)

lemma separate_of_isAhead {symbols keys : List String} (h : IsAhead symbols keys ts)
    (hsymbols : "=>" ∉ symbols ∧ "." ∉ symbols) (hkeys : "VALUE" ∉ keys ∧ "ON" ∉ keys) :
    Separate ts where
  apart u hu :=
    ⟨h.isKeyword_eq_false hkeys.1 u hu, h.isKeyword_eq_false hkeys.2 u hu,
      h.isSymbol_eq_false hsymbols.1 u hu⟩
  point u hu := h.isSymbol_eq_false hsymbols.2 u hu

lemma Follows.separate (h : Follows q rest) : Separate rest :=
  separate_of_isAhead h.ahead (by decide) (by decide)

lemma IsIdent.opens {i : Ident} (h : IsIdent i t)
    (hfree : ∀ text k, t = .word text k → k ∉ openers) : Opens t := by
  cases h with
  | bare => exact ⟨hfree, nofun⟩
  | ticked => exact ⟨hfree, nofun⟩

lemma IsName.opens {i : Ident} (h : IsName i t) : Opens t :=
  h.isIdent.opens fun text k ht hk => h.free text k ht
    (by simp only [reserved, List.mem_append]; tauto)

lemma opens_word {text k : String} (hk : k ∉ openers) : Opens (.word text k) := by
  constructor
  · rintro _ _ ⟨⟩
    exact hk
  · rintro _ ⟨⟩

lemma IsLiteral.opens {v : Literal} (h : IsLiteral v t) : Opens t := by
  cases h with
  | boolTrue | boolFalse | null => exact opens_word (by decide)
  | _ => exact ⟨nofun, nofun⟩

lemma opens_symbol {s : String} (hs : s ∈ ["(", "+", "-"]) : Opens (.symbol s) :=
  ⟨nofun, fun _ ht => by cases ht; exact hs⟩

lemma separate_symbol {s : String} (hs : s ≠ "=>" ∧ s ≠ ".") : Separate (.symbol s :: ts) where
  apart := by
    rintro _ ⟨⟩
    exact ⟨rfl, rfl, beq_eq_false_iff_ne.mpr hs.1⟩
  point := by
    rintro _ ⟨⟩
    exact beq_eq_false_iff_ne.mpr hs.2

lemma Opening.cons (h : Opening ts) : ∃ t us, ts = t :: us ∧ Opens t ∧ Apart us := by
  cases h with
  | path hi =>
    refine ⟨_, _, rfl, hi.opens, ?_⟩
    rintro _ ⟨⟩
    exact ⟨rfl, rfl, rfl⟩
  | other ht hrest => exact ⟨_, _, rfl, ht, hrest.apart⟩

lemma Opening.separate (h : Opening ts) : Separate ts := by
  obtain ⟨t, us, rfl, ht, -⟩ := h.cons
  exact ht.separate

/-- What stands inside other forms begins as its kind does. -/
structure Forms.Begins (F : Forms) : Prop where
  expr : ∀ {p q e ts rest}, F.expr p q e ts → Separate rest → Opening (ts ++ rest)
  query : ∀ {x ts}, F.query x ts → ∃ k ∈ ["SELECT", "WITH"], ∃ us, ts = key k :: us
  notExists : ∀ {p q e ts}, F.expr p q e ts → Power.not ≤ p →
    ∃ t us, ts = t :: us ∧ t.isKeyword "EXISTS" = false
  member : ∀ {p q e ts}, F.expr p q e ts → isMember e = true →
    ∃ t us, ts = t :: us ∧ t ≠ .symbol "("
  notFrom : ∀ {p q i ts}, F.expr p q (.name i) ts → i.quote = none → Text.lower i.value ≠ "from"

/-- The tokens of branches begin with the keyword of a condition. -/
lemma IsBranches.head {ps : List Part} (h : IsBranches F ps ts) (rest : List Token) :
    IsAhead [] ["WHEN"] (ts ++ rest) := by
  cases h <;> exact .word_cons (by decide)

lemma IsTerm.opening (hF : F.Begins) (h : IsTerm F e ts) (hrest : Separate rest) :
    Opening (ts ++ rest) := by
  cases h with
  | name hi => exact .other hi.opens hrest
  | path hi his => exact .path hi his hrest.point
  | literal hv => exact .other hv.opens hrest
  | @nested _ ts he =>
    have hopen : Separate (.symbol ")" :: rest) := separate_symbol (by decide)
    have hinner : Opening (ts ++ .symbol ")" :: rest) := hF.expr he hopen
    refine .other (opens_symbol (by decide)) ?_
    simpa using hinner.separate
  | subquery hx =>
    obtain ⟨k, hk, us, rfl⟩ := hF.query hx
    have hahead : IsAhead [] ["SELECT", "WITH"] (key k :: us ++ [.symbol ")"] ++ rest) :=
      .word_cons hk
    exact .other (opens_symbol (by decide)) (separate_of_isAhead hahead (by decide) (by decide))
  | call hi _ _ => exact .other hi.opens (separate_symbol (by decide))
  | cast _ _ => exact .other (opens_word (by decide)) (separate_symbol (by decide))
  | @interval e ts unit he hunit =>
    have hahead : IsAhead [] endKeys (key unit :: rest) :=
      .word_cons (List.mem_append_right _ hunit)
    have hopening := hF.expr he (separate_of_isAhead hahead (by decide) (by decide))
    rw [List.append_assoc]
    exact .other (opens_word (by decide)) hopening.separate
  | @choice _ ts _ us _ vs hoperand hbranches _ =>
    have htokens : key "CASE" :: ts ++ us ++ vs ++ [key "END"] ++ rest =
        key "CASE" :: (ts ++ (us ++ (vs ++ key "END" :: rest))) := by
      simp
    have hwhen : Separate (us ++ (vs ++ key "END" :: rest)) :=
      separate_of_isAhead (hbranches.head _) (by decide) (by decide)
    rw [htokens]
    refine .other (opens_word (by decide)) ?_
    cases hoperand with
    | absent => exact hwhen
    | present he =>
      obtain ⟨he⟩ := he
      exact (hF.expr he hwhen).separate

lemma IsExpression.opening (hF : F.Begins) (h : IsExpression F p q e ts) (hrest : Separate rest) :
    Opening (ts ++ rest) := by
  induction h generalizing rest with
  | term he => exact he.opening hF hrest
  | sign hop _ he =>
    refine .other (opens_symbol ?_) (hF.expr (F.expr_of_term (p := 0) (q := 0) he) hrest).separate
    simp only [List.mem_cons, Prod.mk.injEq, List.not_mem_nil, or_false] at hop
    rcases hop with ⟨-, rfl⟩ | ⟨-, rfl⟩ <;> decide
  | not _ he =>
    exact .other (opens_word (by decide)) (hF.expr he hrest).separate
  | @existence _ negated =>
    cases negated with
    | false => exact .other (opens_word (by decide)) (separate_symbol (by decide))
    | true => exact .other (opens_word (by decide)) (opens_word (by decide)).separate
  | tail _ htail _ ih =>
    rw [List.append_assoc]
    exact ih (htail.follows rest).separate

lemma IsSelection.begins {s : Select} (h : IsSelection F s ts) : ∃ us, ts = key "SELECT" :: us := by
  obtain ⟨_, _, _, _, _, _⟩ := h
  exact ⟨_, rfl⟩

lemma IsBody.begins {body : Body} (h : IsBody F body ts) : ∃ us, ts = key "SELECT" :: us := by
  induction h with
  | select hs => exact hs.begins
  | combined _ _ _ ih =>
    obtain ⟨us, rfl⟩ := ih
    exact ⟨_, rfl⟩

lemma IsQuery.begins {x : Query} (h : IsQuery F x ts) :
    ∃ k ∈ ["SELECT", "WITH"], ∃ us, ts = key k :: us := by
  obtain ⟨hopening, hbody, _, _, _⟩ := h
  cases hopening with
  | none =>
    obtain ⟨us, rfl⟩ := hbody.begins
    exact ⟨"SELECT", by decide, _, rfl⟩
  | tables hform _ =>
    simp only [openingForms, List.mem_cons, List.not_mem_nil, or_false] at hform
    rcases hform with rfl | rfl <;> exact ⟨"WITH", by decide, _, rfl⟩

lemma IsIdent.ne_symbol {i : Ident} {s : String} (h : IsIdent i t) : t ≠ .symbol s := by
  cases h <;> rintro ⟨⟩

lemma IsLiteral.ne_symbol {v : Literal} {s : String} (h : IsLiteral v t) : t ≠ .symbol s := by
  cases h <;> rintro ⟨⟩

lemma IsExpression.member (h : IsExpression F p q e ts) (hmember : isMember e = true) :
    ∃ t us, ts = t :: us ∧ t ≠ .symbol "(" := by
  cases h with
  | term he =>
    cases he with
    | name hi => exact ⟨_, _, rfl, hi.isIdent.ne_symbol⟩
    | literal hv => exact ⟨_, _, rfl, hv.ne_symbol⟩
    | _ => exact Bool.noConfusion hmember
  | sign hop =>
    simp only [List.mem_cons, Prod.mk.injEq, List.not_mem_nil, or_false] at hop
    rcases hop with ⟨-, rfl⟩ | ⟨-, rfl⟩ <;> exact ⟨_, _, rfl, by decide⟩
  | not => exact ⟨_, _, rfl, by rintro ⟨⟩⟩
  | existence => exact Bool.noConfusion hmember
  | tail _ htail _ => cases htail <;> exact Bool.noConfusion hmember

lemma IsName.isKeyword_eq_false {i : Ident} {k : String} (h : IsName i t) (hk : k ∈ reserved) :
    t.isKeyword k = false := by
  cases t with
  | word text k' => exact beq_eq_false_iff_ne.mpr fun heq => h.free text k' rfl (heq ▸ hk)
  | _ => rfl

lemma IsTerm.notExists (h : IsTerm F e ts) :
    ∃ t us, ts = t :: us ∧ t.isKeyword "EXISTS" = false := by
  cases h with
  | name hi | path hi _ _ | call hi _ _ =>
    exact ⟨_, _, rfl, hi.isKeyword_eq_false (by decide)⟩
  | literal hv => cases hv <;> exact ⟨_, _, rfl, rfl⟩
  | nested | subquery | cast | interval | choice => exact ⟨_, _, rfl, rfl⟩

/-- Where `NOT` may stand before it, no expression begins with `EXISTS`. -/
lemma IsExpression.notExists (h : IsExpression F p q e ts) (hp : Power.not ≤ p) :
    ∃ t us, ts = t :: us ∧ t.isKeyword "EXISTS" = false := by
  induction h with
  | term he => exact he.notExists
  | sign | not => exact ⟨_, _, rfl, rfl⟩
  | existence hpower => exact absurd hpower hp.not_gt
  | tail _ _ _ ih =>
    obtain ⟨t, us, rfl, ht⟩ := ih
    exact ⟨t, _, rfl, ht⟩

lemma IsExpression.notFrom {i : Ident} (h : IsExpression F p q (.name i) ts) :
    i.quote = none → Text.lower i.value ≠ "from" := by
  cases h with
  | term he =>
    cases he with
    | name hi => exact hi.notFrom
  | tail _ htail _ => cases htail

/-- At every level, what stands inside other forms begins as its kind does. -/
lemma begins_level (d : Nat) : (level d).Begins := by
  induction d with
  | zero => exact ⟨False.elim, False.elim, False.elim, False.elim, False.elim⟩
  | succ d ih =>
    exact ⟨fun h hrest => h.opening ih hrest, fun h => h.begins, fun h => h.notExists,
      fun h => h.member, fun h => h.notFrom⟩

end SemanticQuery.Sql.Plain
