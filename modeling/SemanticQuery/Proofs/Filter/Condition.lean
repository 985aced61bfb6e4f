import SemanticQuery.Proofs.Correction.Injection
import SemanticQuery.Proofs.Filter.Tokens
import SemanticQuery.Proofs.Sql.Equality
import SemanticQuery.Proofs.Sql.Parser.Value

/-!
# What a filter compares its column with

The condition of an accepted filter compares the column with the texts of the filter exactly where
every backslash of theirs stands before a percent sign or an underscore. Any other backslash is read
as an escape. Where it is read before a quote, the quote ends the text and what follows in it is read
as SQL.
-/

namespace SemanticQuery

open Sql

/-- What a condition compares its subject with. -/
def Sql.Expr.comparands : Expr → List Expr
  | .binary (.compare _) _ right => [right]
  | .inList _ _ items => items
  | .like _ _ _ pattern _ => [pattern]
  | _ => []

/-- The texts that a filter holds its column against: one, or for membership the items of a list. -/
inductive Filter.HasTexts (f : Filter) : List String → Prop where
  | one (text : String) (hoperator : f.operator ≠ .isIn ∧ f.operator ≠ .notIn)
    (hvalue : f.value = .string text) : f.HasTexts [text]
  | items (texts : List String) (hoperator : f.operator = .isIn ∨ f.operator = .notIn)
    (hvalue : f.value = .array (texts.map .string)) : f.HasTexts texts

/-! ### Values -/

namespace Sql.Parser

variable {n power : Nat} {text : String} {ts : List Token}

/-- What is read from the tokens of a text is the text exactly where the text keeps its
backslashes. -/
lemma yields_text {Behind : List Token → Prop} (h : ReadsText text Behind ts)
    (hbehind : ∀ rest, Behind rest → EndsValue rest) :
    Yields ((grammar n).subexpr power) ts fun e rest =>
      (e = .text text ↔ keepsBackslashes text.toList = true) ∧
        (keepsBackslashes text.toList = true → Behind rest) := by
  cases n with
  | zero => exact ⟨fun hread => by simp [grammar, Grammar.empty] at hread⟩
  | succ n =>
    obtain ⟨s, behind, rfl, hs, hrest⟩ := h
    refine yields_nest ?_
    by_cases hkeeps : keepsBackslashes text.toList = true
    · obtain rfl := hs.mpr hkeeps
      have hexact := expression_single (g := grammar n) (hbehind behind (hrest rfl)) s power
      refine ⟨fun {d e rest} hread => ?_⟩
      obtain ⟨rfl, rfl⟩ := Prod.mk.inj (Except.ok.inj ((hexact d).symm.trans hread))
      exact ⟨iff_of_true rfl hkeeps, fun _ => hrest rfl⟩
    · have hne : s ≠ text := fun heq => hkeeps (hs.mp heq)
      refine (yields_expression_single s power (.single text)).mono fun e rest he => ?_
      refine ⟨iff_of_false ?_ hkeeps, fun h => absurd h hkeeps⟩
      rcases he with rfl | he
      · exact fun heq => hne (Expr.text_inj heq)
      · exact he

/-! ### Lists of values -/

lemma endsValue_of_readsRest {texts : List String} (h : ReadsRest texts ts) : EndsValue ts := by
  cases texts with
  | nil =>
    obtain rfl : ts = [.symbol ")"] := h
    exact .parenthesis []
  | cons text texts =>
    obtain ⟨ts', rfl, -⟩ := h
    exact .comma ts'

/-- While a list of texts is read, the values found are the texts so far and the other texts follow,
or a text that does not keep its backslashes was read as something else. -/
def ReadsSoFar (texts : List String) (found : List Expr) (ts : List Token) : Prop :=
  (∃ done todo, texts = done ++ todo ∧ found.reverse = done.map Expr.text ∧
      (∀ text ∈ done, keepsBackslashes text.toList = true) ∧ ReadsRest todo ts) ∨
    (¬ found.reverse <+: texts.map Expr.text ∧
      ∃ text ∈ texts, keepsBackslashes text.toList ≠ true)

/-- The next text keeps what was read so far. -/
lemma ReadsSoFar.next {done todo : List String} {found : List Expr} {e : Expr} {rest : List Token}
    (hfound : found.reverse = done.map Expr.text)
    (hdone : ∀ text ∈ done, keepsBackslashes text.toList = true)
    (he : e = .text text ↔ keepsBackslashes text.toList = true)
    (hrest : keepsBackslashes text.toList = true → ReadsRest todo rest) :
    ReadsSoFar (done ++ text :: todo) (e :: found) rest := by
  by_cases hkeeps : keepsBackslashes text.toList = true
  · refine .inl ⟨done ++ [text], todo, by simp, ?_, ?_, hrest hkeeps⟩
    · rw [List.reverse_cons, hfound, he.mpr hkeeps, List.map_append]
      rfl
    · intro t ht
      rcases List.mem_append.mp ht with ht | ht
      · exact hdone t ht
      · rwa [List.mem_singleton.mp ht]
  · refine .inr ⟨fun hbegins => hkeeps (he.mp ?_), text, by simp, hkeeps⟩
    rw [List.reverse_cons, hfound, List.map_append, List.prefix_append_right_inj] at hbegins
    simpa using hbegins

lemma ReadsSoFar.done {texts : List String} {found : List Expr}
    (h : ReadsSoFar texts found ts) (hts : ∀ ts', ts ≠ .symbol "," :: ts') :
    found.reverse = texts.map Expr.text ↔
      ∀ text ∈ texts, keepsBackslashes text.toList = true := by
  rcases h with ⟨done, todo, rfl, hfound, hdone, hrest⟩ | ⟨hbegins, text, htext, hkeeps⟩
  · cases todo with
    | nil => simpa [hfound] using hdone
    | cons text todo =>
      obtain ⟨ts', rfl, -⟩ := hrest
      exact absurd rfl (hts ts')
  · exact iff_of_false (fun heq => hbegins (heq ▸ List.prefix_rfl)) fun h => hkeeps (h text htext)

/-- What is read from the tokens of texts is the texts exactly where all keep their backslashes. -/
lemma yields_texts {texts : List String} (h : ReadsText text (ReadsRest texts) ts) :
    Yields (commaSeparated (grammar n).expr) ts fun items _ =>
      items = (text :: texts).map Expr.text ↔
        ∀ t ∈ text :: texts, keepsBackslashes t.toList = true := by
  refine yields_bind_of (yields_text h fun _ => endsValue_of_readsRest) fun first rest hfirst => ?_
  have hstart : ReadsSoFar ([] ++ text :: texts) [first] rest :=
    ReadsSoFar.next rfl (by simp) hfirst.1 hfirst.2
  refine yields_loop (I := ReadsSoFar (text :: texts)) ?_ hstart
  intro found ts hfound
  by_cases hcomma : ∃ ts', ts = .symbol "," :: ts'
  · obtain ⟨ts', rfl⟩ := hcomma
    have hnext : ∀ d, (do
        if ← symbol "," then
          return .inl ((← (grammar n).expr) :: found)
        else
          return .inr found.reverse : Parser (List Expr ⊕ List Expr)) d (.symbol "," :: ts') =
        (do return .inl ((← (grammar n).expr) :: found) : Parser (List Expr ⊕ List Expr)) d ts' :=
      fun _ => rfl
    refine yields_of_eq hnext ?_
    rcases hfound with ⟨done, todo, htexts, hdone, hkeeps, hrest⟩ | ⟨hbegins, hlost⟩
    · cases todo with
      | nil => exact absurd hrest (by simp [ReadsRest])
      | cons t todo =>
        obtain ⟨ts'', heq, hread⟩ := hrest
        obtain rfl := (List.cons.inj heq).2
        refine yields_bind_of (yields_text hread fun _ => endsValue_of_readsRest) ?_
        intro e rest he
        refine yields_pure ?_
        rw [htexts]
        exact ReadsSoFar.next hdone hkeeps he.1 he.2
    · refine yields_bind fun e rest => yields_pure (.inr ⟨fun h => hbegins ?_, hlost⟩)
      rw [List.reverse_cons] at h
      exact (List.prefix_append _ _).trans h
  · refine yields_bind_of (yields_symbol ",") fun comma middle hmiddle => ?_
    rcases hmiddle with ⟨-, t, rfl, ht⟩ | ⟨rfl, rfl⟩
    · refine absurd ?_ hcomma
      cases t <;> simp [Token.isSymbol] at ht
      exact ⟨middle, by rw [ht]⟩
    · exact yields_pure (hfound.done fun ts' h => hcomma ⟨ts', h⟩)

/-! ### Operators -/

lemma yields_comparison_text (c : Comparison) (left : Expr) (h : ReadsText text (· = []) ts) :
    Yields (infixed (grammar n) left power) (.symbol c.symbol :: ts) fun e _ =>
      e.isForm = true ∨ ∃ right, e = .binary (.compare c) left right ∧
        (right = .text text ↔ keepsBackslashes text.toList = true) := by
  refine yields_comparisonFrom c left ((yields_text h ?_).mono fun _ _ he => he.1)
  rintro _ rfl
  exact .nil

lemma yields_like_text (left : Expr) (h : ReadsText text (· = []) ts) :
    Yields (infixed (grammar n) left power) (.word "LIKE" "LIKE" :: ts) fun e _ =>
      ∃ pattern escape, e = .like false false left pattern escape ∧
        (pattern = .text text ↔ keepsBackslashes text.toList = true) := by
  obtain ⟨s, rest, rfl, -⟩ := id h
  refine yields_of_eq (fun d => infixed_like left power d s) ?_
  refine yields_bind_of (yields_text h ?_) fun pattern _ hpattern => ?_
  · rintro _ rfl
    exact .nil
  · exact yields_bind fun escape _ => yields_pure ⟨pattern, escape, rfl, hpattern.1⟩

lemma yields_membership_texts {texts : List String} (left : Expr) (negated : Bool)
    (h : ReadsText text (ReadsRest texts) ts) :
    Yields (membership (grammar n) left negated) (.symbol "(" :: ts) fun e _ =>
      ∃ items, e = .inList negated left items ∧
        (items = (text :: texts).map Expr.text ↔
          ∀ t ∈ text :: texts, keepsBackslashes t.toList = true) := by
  obtain ⟨s, rest, rfl, -⟩ := id h
  cases n with
  | zero => exact ⟨fun {d e rest} hread => by cases hread⟩
  | succ n =>
    refine yields_of_eq (membership_single n left negated s) ?_
    refine yields_bind_of (yields_texts h) fun items _ hitems => ?_
    exact yields_bind fun _ _ => yields_pure ⟨items, rfl, hitems⟩

end Sql.Parser

/-! ### Filters -/

namespace Filter

variable {f : Filter} {e : Expr}

/-- What the operator builds on the name, if it compares the name, is the condition. -/
@[elab_as_elim]
lemma condition_of_yields {P : Expr → Prop} (h : f.condition = .ok e)
    (hread : ∀ m power n afterWord ts,
      Lexer.tokensWithin n afterWord (sqlValue f.value).toList = .ok ts →
        Parser.Yields (Parser.infixed (Parser.grammar m) (.name (.bare f.name)) power)
          (f.operator.tokens ++ ts)
          fun x _ => ∀ name, x.comparedName? = some name → P x) : P e := by
  obtain ⟨hcondition, hname⟩ := condition_eq_ok h
  have hsql : f.sql = f.name ++ (" " ++ f.operator.sql ++ " " ++ sqlValue f.value) := by
    simp [Filter.sql, String.append_assoc]
  rw [hsql] at hcondition
  obtain ⟨-, n, afterWord, ts, m, d, key, rest, htokens, hexpr⟩ :=
    exists_rest_of_readCondition hcondition hname
  have hsplit : (" " ++ f.operator.sql ++ " " ++ sqlValue f.value).toList =
      ' ' :: (f.operator.sql.toList ++ ' ' :: (sqlValue f.value).toList) := by
    simp [String.toList_append]
  rw [hsplit] at htokens
  obtain ⟨n', afterWord', ts', hts', rfl⟩ := tokens_of_operator f.operator htokens
  cases m with
  | zero => cases hexpr
  | succ m =>
    have hyields : Parser.Yields (Parser.grammar (m + 1)).expr
        (.word f.name key :: (f.operator.tokens ++ ts'))
        fun x _ => ∀ name, x.comparedName? = some name → P x :=
      Parser.yields_nest (Parser.yields_firstOperator (Parser.yields_subexpr m)
        (hread m _ n' afterWord' ts' hts') 0)
    exact hyields.of_eq_ok hexpr f.name hname

lemma readsText_of_string {n : Nat} {afterWord : Bool} {text : String} {ts : List Token}
    (h : Lexer.tokensWithin n afterWord (sqlValue (.string text)).toList = .ok ts) :
    ReadsText text (· = []) ts := by
  have hnil : sqlValue (.string text) = singleQuoted text := by simp [sqlValue]
  rw [hnil, ← List.append_nil (singleQuoted text).toList] at h
  refine readsText_of_tokens h (by simp) fun m afterWord' ts' hts' => ?_
  simpa [Lexer.tokensWithin.eq_def, eq_comm] using hts'

lemma exists_parenthesis_of_array {n : Nat} {afterWord : Bool} {items : List Json.Value}
    {ts : List Token}
    (h : Lexer.tokensWithin n afterWord (sqlValue (.array items)).toList = .ok ts) :
    ∃ m afterWord' ts', ts = .symbol "(" :: ts' ∧
      Lexer.tokensWithin m afterWord' ((sqlValues items).toList ++ [')']) = .ok ts' := by
  have hsplit : (sqlValue (.array items)).toList =
      '(' :: ((sqlValues items).toList ++ [')']) := by
    simp [sqlValue, String.toList_append]
  have hstep : ∀ (cs : List Char) afterWord, Lexer.step afterWord '(' cs =
      .ok (some (.symbol "("), cs) := fun _ _ => rfl
  rw [hsplit] at h
  obtain ⟨m, afterWord', ts', hts', rfl⟩ := tokens_of_step (hstep _) h
  exact ⟨m, afterWord', ts', rfl, hts'⟩

/-- The sign of an operator between two values. -/
def sign? : FilterOperator → Option Comparison
  | .equals => some .eq
  | .notEquals => some .notEq
  | .greaterThan => some .gt
  | .greaterThanEquals => some .gtEq
  | .minorThan => some .lt
  | .minorThanEquals => some .ltEq
  | .isIn | .notIn | .like => none

lemma tokens_of_sign? {op : FilterOperator} {c : Comparison} (h : sign? op = some c) :
    op.tokens = [.symbol c.symbol] := by
  cases op <;> simp only [sign?, Option.some.injEq, reduceCtorEq] at h <;> subst h <;> rfl

/-- What a comparison with a text is read as. -/
lemma exists_right_of_condition {c : Comparison} {text : String} (h : f.condition = .ok e)
    (hoperator : sign? f.operator = some c) (hvalue : f.value = .string text) :
    ∃ right, e = .binary (.compare c) (.name (.bare f.name)) right ∧
      (right = .text text ↔ keepsBackslashes text.toList = true) := by
  refine condition_of_yields h fun m power n afterWord ts hts => ?_
  rw [hvalue] at hts
  rw [tokens_of_sign? hoperator]
  refine (Parser.yields_comparison_text c _ (readsText_of_string hts)).mono ?_
  rintro x _ (hform | hright) name hname
  · simp [Parser.comparedName?_of_isForm hform] at hname
  · exact hright

/-- What a comparison with a pattern is read as. -/
lemma exists_pattern_of_condition {text : String} (h : f.condition = .ok e)
    (hoperator : f.operator = .like) (hvalue : f.value = .string text) :
    ∃ pattern escape, e = .like false false (.name (.bare f.name)) pattern escape ∧
      (pattern = .text text ↔ keepsBackslashes text.toList = true) := by
  refine condition_of_yields h fun m power n afterWord ts hts => ?_
  rw [hvalue] at hts
  rw [hoperator]
  exact (Parser.yields_like_text _ (readsText_of_string hts)).mono fun _ _ he _ _ => he

/-- What membership in a list of texts is read as. -/
lemma exists_items_of_condition {texts : List String} (h : f.condition = .ok e)
    (hoperator : f.operator = .isIn ∨ f.operator = .notIn)
    (hvalue : f.value = .array (texts.map .string)) :
    ∃ items, e = .inList (f.operator == .notIn) (.name (.bare f.name)) items ∧
      (items = texts.map Expr.text ↔ ∀ text ∈ texts, keepsBackslashes text.toList = true) := by
  refine condition_of_yields h fun m power n afterWord ts hts => ?_
  rw [hvalue] at hts
  obtain ⟨n', afterWord', ts', rfl, hts'⟩ := exists_parenthesis_of_array hts
  have hmembership : ∀ d, Parser.infixed (Parser.grammar m) (.name (.bare f.name)) power d
      (f.operator.tokens ++ .symbol "(" :: ts') =
        Parser.membership (Parser.grammar m) (.name (.bare f.name)) (f.operator == .notIn) d
          (.symbol "(" :: ts') := by
    intro d
    rcases hoperator with hop | hop <;> rw [hop]
    · exact Parser.infixed_isIn _ power d
    · exact Parser.infixed_notIn _ power d
  refine Parser.yields_of_eq hmembership ?_
  cases texts with
  | nil =>
    obtain rfl := tokens_of_parenthesis hts'
    exact (Parser.yields_membership_empty m _ _).mono fun _ _ hfalse => hfalse.elim
  | cons text texts =>
    exact (Parser.yields_membership_texts _ _ (readsRest_of_tokens hts')).mono fun _ _ he _ _ => he

/-- The condition of an accepted filter compares the column with the texts of the filter exactly
where all of them keep their backslashes. -/
theorem comparands_condition_iff {texts : List String} (htexts : f.HasTexts texts)
    (h : f.condition = .ok e) :
    e.comparedName? = some f.name ∧
      (e.comparands = texts.map Expr.text ↔
        ∀ text ∈ texts, keepsBackslashes text.toList = true) := by
  refine ⟨(condition_eq_ok h).2, ?_⟩
  cases htexts with
  | one text hoperator hvalue =>
    cases hsign : sign? f.operator with
    | some c =>
      obtain ⟨right, rfl, hright⟩ := exists_right_of_condition h hsign hvalue
      simpa [Expr.comparands] using hright
    | none =>
      have hlike : f.operator = .like := by
        cases hop : f.operator <;> simp_all [sign?]
      obtain ⟨pattern, escape, rfl, hpattern⟩ := exists_pattern_of_condition h hlike hvalue
      simpa [Expr.comparands] using hpattern
  | items texts hoperator hvalue =>
    obtain ⟨items, rfl, hitems⟩ := exists_items_of_condition h hoperator hvalue
    exact hitems

set_option maxRecDepth 100000 in
/-- A quote, a wildcard behind a backslash and a comma stay inside their texts. -/
theorem comparands_condition_quotes :
    let f : Filter := ⟨"", "p", .notIn, .array [.string "it's 5\\%", .string "a', 'b"], none⟩
    let e : Expr := .inList true (.name (.bare "p")) [.text "it's 5\\%", .text "a', 'b"]
    f.HasTexts ["it's 5\\%", "a', 'b"] ∧ f.condition = .ok e ∧
      e.comparands = [.text "it's 5\\%", .text "a', 'b"] := by
  intro f e
  have htexts : f.HasTexts ["it's 5\\%", "a', 'b"] := .items _ (.inr rfl) rfl
  have h : f.condition = .ok e := by decide +kernel
  exact ⟨htexts, h, (comparands_condition_iff htexts h).2.mpr (by decide)⟩

set_option maxRecDepth 100000 in
/-- A backslash before a quote lets the rest of a text out of its quotes: the column `p` is compared
with a sum of a text and the column `price`. -/
theorem comparands_escape_quotes :
    ¬ ∀ (f : Filter) (texts : List String) (e : Expr), f.HasTexts texts → f.condition = .ok e →
      e.comparands = texts.map Expr.text := by
  intro h
  let f : Filter := ⟨"", "p", .equals, .string "\\' + price -- ", none⟩
  let e : Expr := .binary (.compare .eq) (.name (.bare "p"))
    (.binary (.other "+") (.text "'") (.name (.bare "price")))
  have hcondition : f.condition = .ok e := by decide +kernel
  have hcomparands := h f _ e (.one _ (by decide) rfl) hcondition
  revert hcomparands
  decide +kernel

end Filter

end SemanticQuery
