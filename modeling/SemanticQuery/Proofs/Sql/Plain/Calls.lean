import SemanticQuery.Proofs.Sql.Plain.Lists

/-!
# Reading plain calls

The arguments of a call, and the rows that it ranges over. The forms that are not plain are passed
over, since no word that they begin with opens an argument.
-/

namespace SemanticQuery.Sql.Plain

open Sql.Parser

variable {F : Forms} {g : Grammar} {d : Nat} {e : Expr} {t : Token} {ps : List Part}
  {ts us rest : List Token}

/-! ### Arguments -/

lemma Separate.ne_cons (h : Separate ts) : ts ≠ .symbol "." :: us := by
  rintro rfl
  exact Bool.noConfusion (h.point _ rfl)

lemma Opens.ne_symbol {s : String} (h : Opens t) (hs : s ∉ ["(", "+", "-"]) : t ≠ .symbol s :=
  fun ht => hs (h.2 s ht)

/-- An expression is read where a star may stand. -/
lemma starred_run (hts : Opening ts) (h : g.expr d ts = .ok (e, rest)) :
    starred g d ts = .ok (.expr e, rest) := by
  cases hts with
  | @path i t is ts behind hi his hpoint =>
    have hword : ∀ {text k : String} {ts : List Token},
        ident d (.word text k :: ts) = .ok (⟨text, none⟩, ts) := rfl
    have hquoted : ∀ {text : String} {ts : List Token},
        ident d (.quoted text :: ts) = .ok (⟨text, some '\x60'⟩, ts) := rfl
    cases hi.isIdent <;>
      simp only [starred, bind_run, ahead_run, Token.ofWord, List.cons_append, hword, hquoted]
    all_goals
      rw [← List.cons_append, his.loop_run fun _ => none]
      · exact bind_of_ok h
      · intro found i t rest hi
        cases hi <;>
          simp [bind_run, symbol_run, Token.isSymbol, next_run, Token.ofWord, identOf, pure_run]
      · intro found
        cases behind with
        | nil => rfl
        | cons u us => simp [bind_run, symbol_run, hpoint u rfl, pure_run]
  | @other t behind ht hbehind =>
    have hstar : t ≠ .symbol "*" := ht.ne_symbol (by decide)
    have hpoint : ∀ tail, behind ≠ .symbol "." :: tail := fun _ => hbehind.ne_cons
    simp [starred, bind_run, ahead_run, hstar, hpoint, h, pure_run]

lemma Apart.keyword {k : String} (h : Apart ts) (hk : k = "VALUE" ∨ k = "ON") :
    keyword k d ts = .ok (false, ts) := by
  cases ts with
  | nil => rfl
  | cons t ts =>
    obtain ⟨hvalue, hon, -⟩ := h t rfl
    rcases hk with rfl | rfl
    · exact keyword_other hvalue
    · exact keyword_other hon

lemma Apart.namedSign (h : Apart ts) : namedSign d ts = .error .unexpected := by
  cases ts with
  | nil => rfl
  | cons t ts =>
    simp [Parser.namedSign, expectSymbol, bind_run, h.keyword (.inl rfl), symbol_run,
      (h t rfl).2.2, require, fail]

/-- No parameter is named before an expression. -/
lemma named_unexpected {α : Type} {f : Ident → String → Parser α} (hts : Opening ts) :
    (ident >>= fun i => namedSign >>= f i) d ts = .error .unexpected := by
  obtain ⟨t, us, rfl, -, hus⟩ := hts.cons
  cases hname : identOf t with
  | none => simp [ident, bind_run, next_run, hname, fail]
  | some i => simp [ident, bind_run, next_run, hname, pure_run, hus.namedSign]

lemma argument_run (hts : Opening ts) (h : g.expr d ts = .ok (e, rest)) :
    argument g d ts = .ok (.positional e, rest) := by
  rw [argument, bind_of_ok (attempt_of_unexpected (named_unexpected hts))]
  exact bind_of_ok (starred_run hts h)

lemma argument_star : argument g d (.symbol "*" :: rest) = .ok (.wildcard "*", rest) := rfl

lemma IsArgument.run (hg : F.Reads g d) {a : Argument} (h : IsArgument F a ts)
    (hrest : IsAhead [",", ")"] [] rest) : argument g d (ts ++ rest) = .ok (a, rest) := by
  cases h with
  | positional he =>
    have hends : Follows 0 rest := follows_of_ends hrest (by decide) (by decide)
    exact argument_run (hg.expr he hends.separate) (hg.read_expr he hends le_rfl)
  | wildcard => exact argument_star

/-- Arguments begin with an expression or a star. -/
lemma arguments_head (hF : F.Begins) {as : List Argument} (h : Listed (IsArgument F) as ts)
    (rest : List Token) :
    ∃ t us, ts ++ .symbol ")" :: rest = t :: us ∧ (Opens t ∨ t = .symbol "*") ∧ Apart us := by
  have hclose : Separate (.symbol ")" :: rest) := separate_symbol (by decide)
  obtain ⟨a, us, vs, ha, heq, hvs⟩ := h.head hclose
  rw [heq]
  cases ha with
  | positional he =>
    obtain ⟨t, us, heq, ht, hus⟩ := (hF.expr he hvs).cons
    exact ⟨t, us, heq, .inl ht, hus⟩
  | wildcard => exact ⟨_, _, rfl, .inr rfl, hvs.apart⟩

lemma nullClause_run (ht : t.isKeyword "ABSENT" = false) (hts : Apart ts) :
    nullClause d (t :: ts) = .ok ([], t :: ts) := by
  have hon : afterKeywords ["ON", "NULL"] ts = none := by
    cases ts with
    | nil => rfl
    | cons u us => simp [afterKeywords, (hts u rfl).2.1]
  have hnull : Parser.keywords ["NULL", "ON", "NULL"] d (t :: ts) = .ok (false, t :: ts) := by
    rw [Parser.keywords, afterKeywords, hon]
    split_ifs <;> rfl
  have habsent : Parser.keywords ["ABSENT", "ON", "NULL"] d (t :: ts) = .ok (false, t :: ts) := by
    rw [Parser.keywords, afterKeywords, ht]
    rfl
  simp [nullClause, bind_run, habsent, hnull, pure_run]

/-- Arguments are read up to the closing parenthesis, with the quantifier before them. -/
lemma argumentList_run (hg : F.Reads g d) {as : List Argument} (h : Listed (IsArgument F) as ts)
    (distinct : Bool) :
    argumentList g d ((if distinct then [key "DISTINCT"] else []) ++ ts ++ .symbol ")" :: rest) =
      .ok ((if distinct then some "DISTINCT" else none, as, []), rest) := by
  obtain ⟨t, us, heq, ht, hus⟩ := arguments_head hg.toBegins h rest
  have hend : IsAhead [")"] [] (.symbol ")" :: rest) := .symbol_cons (by simp)
  have hread := h.commaSeparated_run (r := argument g) (by decide) hend
    fun a _ _ _ ha hrest => ha.run hg hrest
  have hkeyword : ∀ k ∈ openers, t.isKeyword k = false := by
    rintro k hk
    rcases ht with ht | rfl
    · exact ht.isKeyword_eq_false hk
    · rfl
  have hsymbol : ∀ s ∉ ["(", "+", "-", "*"], t.isSymbol s = false := by
    intro s hs
    rcases ht with ht | rfl
    · exact ht.isSymbol_eq_false fun hmem => hs (List.mem_append_left ["*"] hmem)
    · exact beq_eq_false_iff_ne.mpr fun heq => hs (by simp [← heq])
  have happart : Apart (t :: us) := by
    rintro _ ⟨⟩
    exact ⟨hkeyword _ (by decide), hkeyword _ (by decide), hsymbol _ (by decide)⟩
  have hclosing : nullClause d (.symbol ")" :: rest) = .ok ([], .symbol ")" :: rest) := by
    simp [nullClause, bind_run, hend.keywords, pure_run]
  rw [List.append_assoc, heq]
  rw [heq] at hread
  cases distinct with
  | false =>
    have hopening := nullClause_run (d := d) (hkeyword "ABSENT" (by decide)) hus
    simp [argumentList, bind_run, hopening, symbol_run, keyword_run, hsymbol ")" (by decide),
      hkeyword "ALL" (by decide), hkeyword "DISTINCT" (by decide), require, pure_run, hread,
      hend.keywords, hend.keyword, hclosing, expectSymbol_run, spaced]
  | true =>
    have hopening : nullClause d (key "DISTINCT" :: t :: us) =
        .ok ([], key "DISTINCT" :: t :: us) := nullClause_run rfl happart
    simp only [key] at hopening
    simp [argumentList, key, bind_run, hopening, symbol_run, Token.isSymbol, keyword_run,
      Token.isKeyword, require, pure_run, hread, hend.keywords, hend.keyword, hclosing,
      expectSymbol_run, spaced]

/-! ### Calls -/

lemma IsArguments.run (hg : F.Reads g d) {quantifier : Option String} {as : List Argument}
    (h : IsArguments F quantifier as ts) :
    argumentList g d (ts ++ .symbol ")" :: rest) = .ok ((quantifier, as, []), rest) := by
  cases h with
  | none => rfl
  | all has => exact argumentList_run hg has false
  | distinct has => exact argumentList_run hg has true

/-- The rows that a call ranges over are read up to the closing parenthesis. -/
lemma IsWindow.run (hg : F.Reads g d) (h : IsWindow F ps ts) (interval : Parser Expr) :
    window g interval d (ts ++ .symbol ")" :: rest) = .ok (ps, rest) := by
  have hclose : IsAhead [")"] [] (.symbol ")" :: rest) := .symbol_cons (by simp)
  have hend : IsAhead [")"] ["LIMIT", "OFFSET"] (.symbol ")" :: rest) := .symbol_cons (by simp)
  have hpartition : ∀ ts, Parser.keywords ["PARTITION", "BY"] d
      (key "PARTITION" :: key "BY" :: ts) = .ok (true, ts) := fun ts =>
    keywords_key ["PARTITION", "BY"]
  have horder : ∀ ts, Parser.keywords ["ORDER", "BY"] d (key "ORDER" :: key "BY" :: ts) =
      .ok (true, ts) := fun ts => keywords_key ["ORDER", "BY"]
  have hword : ∀ k ts, peek d (key k :: ts) = .ok (some (.word k k), key k :: ts) :=
    fun _ _ => rfl
  cases h with
  | all =>
    simp [window, bind_run, peek_run, hclose.keywords, symbol_run, Token.isSymbol, spaced, pure_run]
  | partition hps =>
    have hread := exprList_run hg hps hclose (by simp)
    simp [window, bind_run, hword, windowWords, hpartition, hread, hclose.keywords, symbol_run,
      Token.isSymbol, spaced, pure_run]
  | order hps =>
    have hread := orderItems_run hg hps hend
    have hnone : ∀ ts, Parser.keywords ["PARTITION", "BY"] d (key "ORDER" :: ts) =
        .ok (false, key "ORDER" :: ts) := fun _ => rfl
    simp [window, bind_run, hword, windowWords, hnone, horder, hread, symbol_run, Token.isSymbol,
      spaced, pure_run]
  | @ordered ps ts qs us hps hqs =>
    have hahead : IsAhead [")"] ["ORDER"]
        (key "ORDER" :: key "BY" :: (us ++ .symbol ")" :: rest)) :=
      .word_cons (by simp)
    have hread := exprList_run hg hps hahead (by decide)
    have hitems := orderItems_run hg hqs hend
    simp [window, bind_run, hword, windowWords, hpartition, hread, horder, hitems, symbol_run,
      Token.isSymbol, spaced, pure_run]

lemma callOf_run (hg : F.Reads g d) {symbols keys : List String}
    (hrest : IsAhead symbols keys rest)
    (hkeys : ∀ k ∈ ["WITHIN", "RESPECT", "IGNORE", "OVER"], k ∉ keys) (name : List Ident)
    {quantifier : Option String} {as : List Argument} {trailer : List Part}
    (has : IsArguments F quantifier as ts) (htrailer : IsTrailer F trailer us) :
    callOf g (interval g) name false d (.symbol "(" :: (ts ++ .symbol ")" :: (us ++ rest))) =
      .ok (⟨name, false, quantifier, as, [], trailer, []⟩, rest) := by
  have hread : argumentList g d (ts ++ .symbol ")" :: (us ++ rest)) =
      .ok ((quantifier, as, []), us ++ rest) :=
    has.run hg
  cases htrailer with
  | none =>
    have hwithin := hrest.keywords (d := d) ["GROUP"] (hkeys "WITHIN" (by decide))
    have hnulls := hrest.oneOf (d := d) ["RESPECT", "IGNORE"] fun k hk =>
      hkeys k (by simp at hk ⊢; tauto)
    have hover := hrest.keyword (d := d) (hkeys "OVER" (by decide))
    rw [List.nil_append] at hread ⊢
    simp [callOf, bind_run, expectSymbol_run, hread, hwithin, hnulls, hover, pure_run]
  | @windowed ps us hps =>
    have htokens : key "OVER" :: .symbol "(" :: us ++ [.symbol ")"] ++ rest =
        key "OVER" :: .symbol "(" :: (us ++ .symbol ")" :: rest) := by
      simp
    have hahead : IsAhead [] ["OVER"] (key "OVER" :: .symbol "(" :: (us ++ .symbol ")" :: rest)) :=
      .word_cons (by simp)
    have hwithin := hahead.keywords (d := d) (k := "WITHIN") ["GROUP"] (by decide)
    have hnulls := hahead.oneOf (d := d) ["RESPECT", "IGNORE"] (by decide)
    have hwindow : window g (interval g) d (us ++ .symbol ")" :: rest) = .ok (_, rest) :=
      hps.run hg (interval g)
    rw [htokens] at hread ⊢
    simp [callOf, bind_run, expectSymbol_run, hread, hwithin, hnulls, keyword_key, symbol_run,
      Token.isSymbol, hwindow, pure_run]

end SemanticQuery.Sql.Plain
