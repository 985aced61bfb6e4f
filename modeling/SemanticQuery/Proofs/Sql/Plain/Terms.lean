import SemanticQuery.Proofs.Sql.Plain.Calls

/-!
# Reading plain terms

The reader takes the tokens of a plain term, which may hold plain forms that it reads, to the term.
-/

namespace SemanticQuery.Sql.Plain

open Sql.Parser

variable {F : Forms} {g : Grammar} {p q power d : Nat} {e : Expr} {t : Token} {i : Ident}
  {ts us rest : List Token}

/-! ### Names -/

/-- What is no name is a sign or a value that no name stands for. -/
lemma literal_unexpected {symbols keys : List String} (h : IsAhead symbols keys ts)
    (hsymbols : ":" ∉ symbols ∧ "@" ∉ symbols)
    (hkeys : "TRUE" ∉ keys ∧ "FALSE" ∉ keys ∧ "NULL" ∉ keys) :
    literal d ts = .error .unexpected := by
  cases ts with
  | nil => rfl
  | cons t ts =>
    rcases h t rfl with ⟨s, hs, rfl⟩ | ⟨text, k, hk, rfl⟩
    · have hcolon : s ≠ ":" := fun heq => hsymbols.1 (heq ▸ hs)
      have hat : s ≠ "@" := fun heq => hsymbols.2 (heq ▸ hs)
      simp [literal, bind_run, next_run, require, hcolon, hat, fail]
    · have htrue : k ≠ "TRUE" := fun heq => hkeys.1 (heq ▸ hk)
      have hfalse : k ≠ "FALSE" := fun heq => hkeys.2.1 (heq ▸ hk)
      have hnull : k ≠ "NULL" := fun heq => hkeys.2.2 (heq ▸ hk)
      simp [literal, bind_run, next_run, htrue, hfalse, hnull, fail]

lemma keywordForm_name {text k : String} (h : k ∉ reserved) :
    keywordForm g text k = pure none := by
  unfold keywordForm
  split <;> first | rfl | exact absurd (by decide) h

lemma typeName_plain {text k : String} (h : plainTypes.contains k = true) :
    typeName d (.word text k :: ts) = .ok (.known k, ts) := by
  have hmem : k ∈ plainTypes := by simpa using h
  simp [typeName, bind_run, ahead_run, next_run, hmem, pure_run]

lemma mem_plainTypes_of_typeWords {k : String} (h : k ∉ reserved) (htype : k ∈ typeWords) :
    k ∈ plainTypes := by
  have hall : ∀ k ∈ typeWords, k ∈ reserved ∨ k ∈ plainTypes := by decide +kernel
  exact (hall k htype).resolve_left h

lemma not_mem_reservedNames {k : String} (h : k ∉ reserved) : k ∉ reservedNames := fun hmem =>
  h ((by decide : ∀ k ∈ reservedNames, k ∈ reserved) k hmem)

/-- A name is read as a name or a call, where no literal of a type follows. -/
lemma term_name (h : IsName i t) (hliteral : literal d ts = .error .unexpected) :
    term g d (t :: ts) = (wordTerm g i >>= collated) d ts := by
  obtain ⟨hident, hfree, -⟩ := h
  cases hident with
  | @bare text _ =>
    have hkey : Text.upper text ∉ reserved := hfree _ _ rfl
    have hreserved : reservedNames.contains (Text.upper text) = false := by
      simpa using not_mem_reservedNames hkey
    have hplain : plainTerm g d (.word text (Text.upper text) :: ts) =
        (wordTerm g ⟨text, none⟩ >>= collated) d ts := by
      simp only [plainTerm, bind_run, ahead_run, next_run, hreserved, ite_run, orElse,
        keywordForm_name hkey, pure_run, Ident.bare, Option.map_none, Bool.false_eq_true, if_false]
    simp only [term, bind_run, peek_run, List.head?_cons, Token.ofWord, ite_run]
    split
    next htype =>
      have htyped : typedLiteral g d (.word text (Text.upper text) :: ts) =
          .error .unexpected := by
        have hmem := mem_plainTypes_of_typeWords hkey (by simpa using htype)
        simp [typedLiteral, bind_run, typeName_plain (by simpa using hmem), hliteral]
      simpa only [attempt_of_unexpected htyped, bind_run] using hplain
    next => simpa only [pure_run, bind_run] using hplain
  | @ticked text _ =>
    simp [term, bind_run, peek, plainTerm, ahead_run, next_run, pure_run]

/-! ### What stands behind a term -/

variable {symbols keys : List String}

lemma collated_run (h : IsAhead symbols keys ts) (hkey : "COLLATE" ∉ keys) :
    collated e d ts = .ok (e, ts) := by
  simp [collated, bind_run, h.keyword hkey, pure_run]

lemma accessed_run (h : IsAhead symbols keys ts) (hsymbols : "." ∉ symbols ∧ "[" ∉ symbols) :
    accessed g e d ts = .ok (e, ts) := by
  rw [accessed, bind_run, loop_of_inr [] ts]
  · simp [withAccess, pure_run]
  · simp [bind_run, h.seesSymbol hsymbols.1, h.symbol hsymbols.2, pure_run]

lemma wordTerm_name (h : IsAhead symbols keys ts) (hsymbols : "(" ∉ symbols) :
    wordTerm g i d ts = .ok (.name i, ts) := by
  cases ts with
  | nil => rfl
  | cons t ts =>
    rcases h t rfl with ⟨s, hs, rfl⟩ | ⟨text, k, hk, rfl⟩
    · have hopen : s ≠ "(" := fun heq => hsymbols (heq ▸ hs)
      simp [wordTerm, bind_run, peek_run, hopen, pure_run]
    · rfl

/-! ### Terms -/

/-- What a term is once the steps behind it are read. -/
lemma term_of_closed (hrest : Follows q rest)
    (h : term g d ts = collated e d rest) :
    (term g >>= accessed g) d ts = .ok (e, rest) := by
  rw [collated_run hrest.ahead (by decide)] at h
  rw [bind_of_ok h, accessed_run hrest.ahead (by decide)]

lemma call_run (hg : F.Reads g d) (hi : IsName i t) (hrest : Follows q rest)
    {quantifier : Option String} {as : List Argument} {trailer : List Part}
    (has : IsArguments F quantifier as ts) (htrailer : IsTrailer F trailer us) :
    (term g >>= accessed g) d (t :: .symbol "(" :: (ts ++ .symbol ")" :: (us ++ rest))) =
      .ok (.call ⟨[i], false, quantifier, as, [], trailer, []⟩, rest) := by
  refine term_of_closed hrest ?_
  have hcall := callOf_run hg hrest.ahead (by decide) [i] has htrailer
  have hword : wordTerm g i d (.symbol "(" :: (ts ++ .symbol ")" :: (us ++ rest))) =
      .ok (.call ⟨[i], false, quantifier, as, [], trailer, []⟩, rest) := by
    simp [wordTerm, bind_run, peek_run, hcall, pure_run]
  rw [term_name hi rfl, bind_of_ok hword]

/-- The tokens of parentheses around what is read to the closing one. -/
lemma group_run (hrest : Follows q rest)
    (h : groupForm g d ts = .ok (e, rest)) :
    (term g >>= accessed g) d (.symbol "(" :: ts) = .ok (e, rest) := by
  refine term_of_closed hrest ?_
  simp [term, plainTerm, bind_run, peek_run, ahead_run, next_run, h, pure_run]

lemma literal_run {v : Literal} (h : IsLiteral v t) (hrest : Follows q rest) :
    (term g >>= accessed g) d (t :: rest) = .ok (.literal v, rest) := by
  refine term_of_closed hrest ?_
  cases h <;> rfl

lemma keywordPower_le (k : String) : keywordPower k ≤ Power.period := by
  unfold keywordPower
  split <;> decide

lemma powerOf_le (ts : List Token) : powerOf ts ≤ Power.period := by
  unfold powerOf
  split
  · split_ifs
    · exact keywordPower_le _
    · decide
  · decide
  · exact keywordPower_le _
  · unfold symbolPower
    split_ifs <;> decide
  · decide

lemma withAccess_names {is : List Ident} (h : is ≠ []) :
    withAccess (.name i) (is.map fun j => .member (.name j)) = .path (i :: is) := by
  obtain ⟨init, last, rfl⟩ := List.eq_nil_or_concat is |>.resolve_left h
  have hnames : accessIdents (init.map fun j => .member (.name j)) = some init := by
    rw [accessIdents, List.mapM_map]
    exact (List.mapM_pure (m := Option) (f := id)).trans (congrArg some (List.map_id init))
  simp [withAccess, hnames]

lemma path_run (hg : F.Reads g d) {is : List Ident} (hi : IsName i t) (his : IsDotted is ts)
    (hpath : F.term (column is) ts) (hrest : Follows q rest) :
    (term g >>= accessed g) d (t :: .symbol "." :: ts ++ rest) = .ok (.path (i :: is), rest) := by
  have hpoint : IsAhead ["."] [] (.symbol "." :: ts ++ rest) := .symbol_cons (by simp)
  have hname : term g d (t :: .symbol "." :: ts ++ rest) =
      .ok (.name i, .symbol "." :: ts ++ rest) := by
    rw [List.cons_append, term_name hi rfl, bind_of_ok (wordTerm_name hpoint (by decide)),
      collated_run hpoint (by decide)]
  have hcolumn := hg.read_expr (F.expr_of_term (p := Power.period) (q := powerOf rest) hpath)
    ⟨hrest.ahead, le_rfl⟩ (powerOf_le rest)
  have hhead : (∀ us, ts ++ rest ≠ .symbol "*" :: us) ∧
      ∀ text us, ts ++ rest ≠ .single text :: us := by
    rcases his with ⟨⟨_⟩ | ⟨_⟩⟩ | ⟨⟨_⟩ | ⟨_⟩, _⟩ <;> exact ⟨nofun, nofun⟩
  rw [bind_of_ok hname, accessed, List.cons_append,
    bind_of_ok (loop_of_inl (is.map fun j => .member (.name j)) rest ?_ ?_),
    withAccess_names his.ne_nil]
  · rfl
  · have hopen : Parser.seesSymbol "." d (.symbol "." :: (ts ++ rest)) =
        .ok (true, .symbol "." :: (ts ++ rest)) := rfl
    cases is with
    | nil => cases his
    | cons j is =>
      cases is <;>
        simp_all [bind_run, ahead_run, goTo_run, column, pure_run]
  · simp [bind_run, hrest.ahead.seesSymbol (s := ".") (by decide),
      hrest.ahead.symbol (s := "[") (by decide), pure_run]

lemma Opens.seesQuery (h : Opens t) : seesQuery d (t :: ts) = .ok (false, t :: ts) := by
  have hnot : t.isOneOf ["SELECT", "WITH"] = false := by
    cases t with
    | word text k =>
      have hk := h.1 text k rfl
      simp only [Token.isOneOf, List.contains_eq_mem, decide_eq_false_iff_not]
      exact fun hmem => hk ((by decide : ∀ k ∈ ["SELECT", "WITH"], k ∈ openers) k hmem)
    | _ => rfl
  simp [Parser.seesQuery, seesOneOf, hnot]

lemma groupForm_expr (hg : F.Reads g d) (he : F.expr 0 0 e ts) :
    groupForm g d (ts ++ .symbol ")" :: rest) = .ok (.nested e, rest) := by
  have hend : IsAhead [")"] [] (.symbol ")" :: rest) := .symbol_cons (by simp)
  have hends : Follows 0 (.symbol ")" :: rest) := follows_of_ends hend (by decide) (by decide)
  have hread := (Listed.single (R := F.expr 0 0) he).commaSeparated_run (r := g.expr) (d := d)
    (by decide) hend fun a _ ts rest ha hrest =>
      hg.read_expr ha (follows_of_ends hrest (by decide) (by decide)) le_rfl
  obtain ⟨t, us, heq, ht, -⟩ := (hg.expr he hends.separate).cons
  rw [heq] at hread ⊢
  simp [groupForm, bind_run, ht.seesQuery, hread, expectSymbol_run, pure_run]

lemma groupForm_query (hg : F.Reads g d) {x : Query} (hx : F.query x ts) :
    groupForm g d (ts ++ .symbol ")" :: rest) =
      .ok (.phrase [.text "(", .query x, .text ")"], rest) := by
  have hend : IsAhead [")"] [] (.symbol ")" :: rest) := .symbol_cons (by simp)
  have hread := hg.read_query hx hend
  obtain ⟨k, hk, us, rfl⟩ := hg.query hx
  have hsees : ∀ ts, seesQuery d (key k :: ts) = .ok (true, key k :: ts) := by
    intro ts
    simp only [List.mem_cons, List.not_mem_nil, or_false] at hk
    rcases hk with rfl | rfl <;> rfl
  rw [List.cons_append] at hread ⊢
  simp [groupForm, bind_run, hsees, hread, expectSymbol_run, pure_run]

/-! ### Forms with a keyword -/

/-- The form that a keyword opens is the term. -/
lemma term_keyword {k : String} (htype : k ∉ typeWords)
    (h : keywordForm g k k d ts = .ok (some e, rest)) :
    term g d (key k :: ts) = collated e d rest := by
  have hcontains : typeWords.contains k = false := by simpa using htype
  simp only [term, plainTerm, key, bind_run, peek_run, List.head?_cons, ite_run, hcontains,
    ahead_run, next_run, pure_run, orElse, h, Option.map_some, Bool.false_eq_true, if_false,
    ite_self]

lemma castForm_run (hg : F.Reads g d) {type : String} (he : F.expr 0 0 e ts)
    (htype : type ∈ castTypes) :
    castForm g "CAST" d (.symbol "(" :: ts ++ key "AS" :: key type :: .symbol ")" :: rest) =
      .ok (.cast (.call "CAST") e type, rest) := by
  have hends : Follows 0 (key "AS" :: key type :: .symbol ")" :: rest) :=
    follows_of_ends (.word_cons (by simp) : IsAhead [] ["AS"] _) (by simp) (by decide)
  have hread := hg.read_expr he hends le_rfl
  have htarget : typeName d (key type :: .symbol ")" :: rest) =
      .ok (.known type, .symbol ")" :: rest) := by
    simp only [castTypes, List.mem_cons, List.not_mem_nil, or_false] at htype
    rcases htype with rfl | rfl | rfl | rfl | rfl | rfl | rfl | rfl | rfl | rfl | rfl | rfl <;> rfl
  simp [castForm, bind_run, expectSymbol_run, Grammar.expr, hread, expect_key, htarget,
    keyword_run, Token.isKeyword, TypeName.text, pure_run]

/-- An interval is read as a literal of its type. -/
lemma term_interval (hg : F.Reads g d) {unit : String} (he : F.expr 0 0 e ts)
    (hunit : unit ∈ spanUnits) (hrest : Follows q rest) :
    term g d (key "INTERVAL" :: (ts ++ key unit :: rest)) =
      .ok (.phrase [.text "INTERVAL ", .expr e, .text (" " ++ unit), .text ""], rest) := by
  have hahead : IsAhead [] endKeys (key unit :: rest) :=
    .word_cons (List.mem_append_right _ hunit)
  have hread := hg.read_expr he (follows_of_ends hahead (by simp) (by simp)) le_rfl
  have hall : ∀ unit ∈ spanUnits, unit ∈ intervalUnits ∧ unit ≠ "SECOND" := by decide
  obtain ⟨hmem, hsecond⟩ := hall unit hunit
  have hunitRead : expectOneOf intervalUnits d (key unit :: rest) = .ok (unit, rest) := by
    simp [expectOneOf, bind_run, Parser.oneOf, key, hmem, pure_run]
  have hsize : optionalSize d rest = .ok ("", rest) := by
    simp [optionalSize, bind_run, hrest.ahead.symbol (s := "(") (by decide), pure_run]
  have hinterval : interval g d (ts ++ key unit :: rest) =
      .ok (.phrase [.text "INTERVAL ", .expr e, .text (" " ++ unit), .text ""], rest) := by
    simp [interval, bind_run, Grammar.expr, hread, hunitRead, hsecond, hsize,
      hrest.ahead.keyword (k := "TO") (by decide), pure_run]
  have htyped : typedLiteral g d (key "INTERVAL" :: (ts ++ key unit :: rest)) =
      .ok (.phrase [.text "INTERVAL ", .expr e, .text (" " ++ unit), .text ""], rest) := hinterval
  have htype : typeWords.contains "INTERVAL" = true := by decide
  have htry := attempt_of_ok htyped
  rw [key] at htry ⊢
  simp only [term, bind_run, peek_run, List.head?_cons, ite_run, htype, if_true, htry, pure_run]

/-- One round of reading the branches of a choice. -/
def branchRound (g : Grammar) (found : List Part) : Parser (List Part ⊕ List Part) := do
  let condition ← g.expr
  expect "THEN"
  let result ← g.expr
  let found := found ++ [.text " WHEN ", .expr condition, .text " THEN ", .expr result]
  if ← keyword "WHEN" then return .inl found else return .inr found

lemma branchRound_run (hg : F.Reads g d) {value : Expr} (he : F.expr 0 0 e ts)
    (hvalue : F.expr 0 0 value us) (hrest : IsAhead [] ["WHEN", "ELSE", "END"] rest)
    (found : List Part) :
    branchRound g found d (ts ++ key "THEN" :: (us ++ rest)) =
      (do
        let found := found ++ [.text " WHEN ", .expr e, .text " THEN ", .expr value]
        if ← keyword "WHEN" then return .inl found else return .inr found :
          Parser (List Part ⊕ List Part)) d rest := by
  have hthen : Follows 0 (key "THEN" :: (us ++ rest)) :=
    follows_of_ends (.word_cons (by simp) : IsAhead [] ["THEN"] _) (by simp) (by decide)
  have hcondition : g.expr d (ts ++ key "THEN" :: (us ++ rest)) =
      .ok (e, key "THEN" :: (us ++ rest)) := hg.read_expr he hthen le_rfl
  have hresult : g.expr d (us ++ rest) = .ok (value, rest) :=
    hg.read_expr hvalue (follows_of_ends hrest (by simp) (by decide)) le_rfl
  rw [branchRound, bind_of_ok hcondition, bind_of_ok (expect_key "THEN"), bind_of_ok hresult]

/-- Branches are read from behind their first keyword on. -/
lemma IsBranches.iterate_run (hg : F.Reads g d) {ps : List Part} (h : IsBranches F ps ts)
    (hrest : IsAhead [] ["ELSE", "END"] rest) :
    ∃ us, ts = key "WHEN" :: us ∧ ∀ n found, us.length < n →
      iterate (branchRound g) n found d (us ++ rest) = .ok (found ++ ps, rest) := by
  induction h with
  | @single e ts value us he hvalue =>
    refine ⟨ts ++ key "THEN" :: us, rfl, fun n found hn => ?_⟩
    obtain ⟨n, rfl⟩ := Nat.exists_eq_succ_of_ne_zero (Nat.ne_zero_of_lt hn)
    have hround := branchRound_run hg he hvalue (hrest.mono (by simp) (by simp)) found
    rw [List.append_assoc, List.cons_append, iterate_inr (hround.trans ?_)]
    simp [bind_run, hrest.keyword (k := "WHEN") (by decide), pure_run]
  | @cons e ts value us ps vs he hvalue _ ih =>
    obtain ⟨vs, rfl, ih⟩ := ih
    refine ⟨ts ++ key "THEN" :: us ++ key "WHEN" :: vs, by simp, fun n found hn => ?_⟩
    obtain ⟨n, rfl⟩ := Nat.exists_eq_succ_of_ne_zero (Nat.ne_zero_of_lt hn)
    have hwhen : IsAhead [] ["WHEN", "ELSE", "END"] (key "WHEN" :: (vs ++ rest)) :=
      .word_cons (by decide)
    have hround := branchRound_run hg he hvalue hwhen found
    have htokens : ts ++ key "THEN" :: us ++ key "WHEN" :: vs ++ rest =
        ts ++ key "THEN" :: (us ++ key "WHEN" :: (vs ++ rest)) := by
      simp
    rw [htokens, iterate_inl (hround.trans (bind_of_ok (keyword_key "WHEN"))),
      ih n _ (by simp at hn; omega)]
    simp

/-- The rest of a choice, from behind the first keyword of a condition on. -/
def choiceFrom (g : Grammar) (operand : List Part) : Parser Expr := do
  let branches ← loop (branchRound g) []
  let otherwise ←
    if ← keyword "ELSE" then pure [.text " ELSE ", .expr (← g.expr)] else pure []
  expect "END"
  return .phrase (.text "CASE" :: operand ++ branches ++ otherwise ++ [.text " END"])

lemma caseForm_when : caseForm g d (key "WHEN" :: ts) = choiceFrom g [] d ts := rfl

lemma caseForm_operand (ht : keyword "WHEN" d ts = .ok (false, ts))
    (h : g.expr d ts = .ok (e, key "WHEN" :: us)) :
    caseForm g d ts = choiceFrom g [.text " ", .expr e] d us := by
  rw [caseForm, bind_of_ok ht]
  exact (bind_of_ok h).trans (bind_of_ok (expect_key "WHEN"))

lemma choiceFrom_run (hg : F.Reads g d) {operand branches otherwise : List Part}
    (hloop : loop (branchRound g) [] d ts = .ok (branches, us ++ key "END" :: rest))
    (hotherwise : IsClause " ELSE " ["ELSE"] (IsExprPart F) otherwise us) :
    choiceFrom g operand d ts =
      .ok (.phrase (.text "CASE" :: operand ++ branches ++ otherwise ++ [.text " END"]), rest) := by
  have hend : IsAhead [] ["END"] (key "END" :: rest) := .word_cons (by decide)
  cases hotherwise with
  | absent =>
    have hnone := hend.keyword (d := d) (k := "ELSE") (by decide)
    simp [choiceFrom, bind_run, hloop, hnone, expect_key, pure_run]
  | present he =>
    obtain ⟨he⟩ := he
    have hread := hg.read_expr he (follows_of_ends hend (by simp) (by decide)) le_rfl
    simp [choiceFrom, bind_run, hloop, keyword_key, Grammar.expr, hread, expect_key, pure_run]

/-- A choice is read from behind its keyword on. -/
lemma caseForm_run (hg : F.Reads g d) {operand branches otherwise : List Part} {vs : List Token}
    (hoperand : IsClause " " [] (IsExprPart F) operand ts) (hbranches : IsBranches F branches us)
    (hotherwise : IsClause " ELSE " ["ELSE"] (IsExprPart F) otherwise vs) :
    caseForm g d (ts ++ (us ++ (vs ++ key "END" :: rest))) =
      .ok (.phrase (.text "CASE" :: operand ++ branches ++ otherwise ++ [.text " END"]), rest) := by
  have helse : IsAhead [] ["ELSE", "END"] (vs ++ key "END" :: rest) := by
    cases hotherwise <;> exact .word_cons (by decide)
  obtain ⟨us, rfl, hrounds⟩ := hbranches.iterate_run hg helse
  have hloop : loop (branchRound g) [] d (us ++ (vs ++ key "END" :: rest)) =
      .ok (branches, vs ++ key "END" :: rest) := by
    rw [loop_run, hrounds _ _ (by simp only [List.length_append]; omega), List.nil_append]
  have hchoice := fun operand : List Part =>
    (choiceFrom_run hg hloop hotherwise : choiceFrom g operand d _ = _)
  cases hoperand with
  | absent => exact caseForm_when.trans (hchoice [])
  | @present _ ts he =>
    obtain ⟨he⟩ := he
    have hwhen : Follows 0 (key "WHEN" :: us ++ (vs ++ key "END" :: rest)) :=
      follows_of_ends (.word_cons (by simp) : IsAhead [] ["WHEN"] _) (by simp) (by decide)
    have hread := hg.read_expr he hwhen le_rfl
    obtain ⟨t, us', htokens, ht, -⟩ := (hg.expr he hwhen.separate).cons
    have hnone : keyword "WHEN" d (ts ++ (key "WHEN" :: us ++ (vs ++ key "END" :: rest))) =
        .ok (false, ts ++ (key "WHEN" :: us ++ (vs ++ key "END" :: rest))) := by
      rw [htokens]
      exact keyword_other (ht.isKeyword_eq_false (by decide))
    exact (caseForm_operand hnone hread).trans (hchoice _)

/-- A plain term is read, whatever follows it that may follow an expression. -/
lemma IsTerm.run (hg : F.Reads g d) (h : IsTerm F e ts) (hrest : Follows q rest) :
    (term g >>= accessed g) d (ts ++ rest) = .ok (e, rest) := by
  cases h with
  | @name i t hi =>
    have hliteral : Parser.literal d rest = .error .unexpected :=
      literal_unexpected hrest.ahead (by decide) (by decide)
    refine term_of_closed hrest ?_
    rw [List.singleton_append, term_name hi hliteral,
      bind_of_ok (wordTerm_name hrest.ahead (by decide))]
  | path hi his hpath => exact path_run hg hi his hpath hrest
  | literal hv => exact literal_run hv hrest
  | nested he =>
    rw [List.append_assoc, List.singleton_append]
    exact group_run hrest (groupForm_expr hg he)
  | subquery hx =>
    rw [List.append_assoc, List.singleton_append]
    exact group_run hrest (groupForm_query hg hx)
  | call hi has htrailer =>
    rw [List.append_assoc]
    exact call_run hg hi hrest has htrailer
  | @cast e ts type he htype =>
    have htokens : key "CAST" :: .symbol "(" :: ts ++ [key "AS", key type, .symbol ")"] ++ rest =
        key "CAST" :: (.symbol "(" :: ts ++ key "AS" :: key type :: .symbol ")" :: rest) := by
      simp
    rw [htokens]
    exact term_of_closed hrest
      (term_keyword (by decide) (bind_of_ok (castForm_run hg he htype)))
  | @interval e ts unit he hunit =>
    have htokens : key "INTERVAL" :: ts ++ [key unit] ++ rest =
        key "INTERVAL" :: (ts ++ key unit :: rest) := by
      simp
    rw [htokens]
    exact term_of_closed hrest
      ((term_interval hg he hunit hrest).trans (collated_run hrest.ahead (by decide)).symm)
  | @choice _ ts _ us _ vs hoperand hbranches hotherwise =>
    have htokens : key "CASE" :: ts ++ us ++ vs ++ [key "END"] ++ rest =
        key "CASE" :: (ts ++ (us ++ (vs ++ key "END" :: rest))) := by
      simp
    rw [htokens]
    exact term_of_closed hrest (term_keyword (by decide)
      (bind_of_ok (caseForm_run hg hoperand hbranches hotherwise)))

end SemanticQuery.Sql.Plain
