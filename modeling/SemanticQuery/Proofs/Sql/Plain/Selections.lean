import SemanticQuery.Proofs.Sql.Plain.Relations

/-!
# Reading plain selections

The clauses of a selection are read one after the other: each ends where the keyword of a later one
comes next.
-/

namespace SemanticQuery.Sql.Plain

open Sql.Parser

variable {F : Forms} {g : Grammar} {d : Nat} {e : Expr} {t : Token} {ts us rest : List Token}
  {symbols keys : List String} {text : String} {ps : List Part}
  {R : List Part → List Token → Prop}

/-- The reader reads what stands inside other forms, and joined relations. -/
structure Forms.ReadsRelations (F : Forms) (g : Grammar) (d : Nat) : Prop extends F.Reads g d where
  read_joined : ∀ {ps ts}, IsJoined F ps ts → ∃ j : Joined, j.parts = ps ∧
    ∀ {rest}, IsAhead [",", ")"] joinedEnds rest → g.joined d (ts ++ rest) = .ok (j, rest)

/-! ### Clauses -/

/-- Behind a clause, or in its place, one of the later keywords comes next. -/
lemma IsClause.head {k : String} {ks : List String} (h : IsClause text (k :: ks) R ps ts)
    (hrest : IsAhead symbols keys rest) : IsAhead symbols (k :: keys) (ts ++ rest) := by
  cases h with
  | absent => exact hrest.mono (by simp) (by simp)
  | present => exact .word_cons (by simp)

/-! ### Lists of things -/

lemma relations_run (hg : F.ReadsRelations g d) (h : IsList (IsJoined F) ps ts)
    (hrest : IsAhead [")"] joinedEnds rest) : relations g d (ts ++ rest) = .ok (ps, rest) := by
  obtain ⟨h⟩ := h
  obtain ⟨js, rfl, hjs⟩ := h.exists_map hg.read_joined
  have hread := hjs.commaSeparated_run (r := g.joined) (d := d) (by decide) hrest
    fun j _ ts rest hj hrest => hj hrest
  rw [relations, bind_of_ok hread]
  rfl

/-! ### Items -/

lemma selectItem_expr (hg : F.Reads g d) (he : F.expr 0 0 e ts) (hrest : Follows 0 rest)
    {i : Option Ident} {us : List Token}
    (halias : optionalAlias columnAliasStops d rest = .ok (i, us)) :
    selectItem g d (ts ++ rest) = .ok (.expr e i, us) := by
  have hread := starred_run (hg.expr he hrest.separate) (hg.read_expr he hrest le_rfl)
  rw [selectItem, bind_of_ok hread]
  dsimp only
  split
  next value => simp [bind_run, require, hg.notFrom he rfl, halias, pure_run]
  next => simp [bind_run, halias, pure_run]

/-- The keywords that end a projected item. -/
def itemEnds : List String :=
  ["FROM", "WHERE", "GROUP", "HAVING", "UNION", "EXCEPT", "ORDER", "LIMIT", "OFFSET"]

lemma IsItem.run (hg : F.Reads g d) {item : SelectItem} (h : IsItem F item ts)
    (hrest : IsAhead [",", ")"] itemEnds rest) :
    selectItem g d (ts ++ rest) = .ok (item, rest) := by
  cases h with
  | wildcard => rfl
  | expr he =>
    have hends : Follows 0 rest := follows_of_ends hrest (by decide) (by decide)
    exact selectItem_expr hg he hends (optionalAlias_none _ hrest (by decide) (by decide))
  | @labelled e ts i t he hi =>
    have hends : Follows 0 (key "AS" :: t :: rest) := ⟨.word_cons (by decide), Nat.zero_le 0⟩
    rw [List.append_assoc]
    exact selectItem_expr hg he hends (optionalAlias_some hi)

/-- Items begin with an expression or a star. -/
lemma items_head (hF : F.Begins) {items : List SelectItem} (h : Listed (IsItem F) items ts)
    (hrest : Separate rest) :
    ∃ t us, ts ++ rest = t :: us ∧ ∀ k ∈ openers, keyword k d (t :: us) = .ok (false, t :: us) := by
  obtain ⟨item, us, vs, hitem, heq, hvs⟩ := h.head hrest
  have hopens : ∀ {t : Token} {us : List Token}, Opens t → ∀ k ∈ openers,
      keyword k d (t :: us) = .ok (false, t :: us) := fun ht k hk => ht.keyword hk
  rw [heq]
  cases hitem with
  | wildcard => exact ⟨_, _, rfl, fun _ _ => rfl⟩
  | expr he =>
    obtain ⟨t, us, htokens, ht, -⟩ := (hF.expr he hvs).cons
    exact ⟨t, us, htokens, hopens ht⟩
  | @labelled e ts i t he hi =>
    have hahead : IsAhead [] ["AS"] (key "AS" :: t :: vs) := .word_cons (by simp)
    have has : Separate (key "AS" :: t :: vs) :=
      separate_of_isAhead hahead (by decide) (by decide)
    obtain ⟨t', us, htokens, ht, -⟩ := (hF.expr he has).cons
    rw [List.append_assoc]
    exact ⟨t', us, htokens, hopens ht⟩

lemma IsQuantifier.run (h : IsQuantifier ps ts)
    (hrest : ∀ k ∈ openers, keyword k d rest = .ok (false, rest)) :
    selectQuantifier g d (ts ++ rest) = .ok (ps, rest) := by
  cases h with
  | none =>
    simp [selectQuantifier, bind_run, hrest "ALL" (by decide), hrest "DISTINCT" (by decide),
      hrest "TOP" (by decide), require, pure_run]
  | distinct =>
    simp [selectQuantifier, key, bind_run, keyword_run, Token.isKeyword, hrest "ON" (by decide),
      hrest "TOP" (by decide), require, pure_run]

/-! ### Selections -/

/-- The keywords that end a selection. -/
def selectionEnds : List String := ["UNION", "EXCEPT", "ORDER", "LIMIT", "OFFSET"]

lemma exprClause_none {k : String} (hrest : IsAhead symbols keys rest) (hk : k ∉ keys) :
    exprClause g k d rest = .ok ([], rest) := by
  simp [exprClause, bind_run, hrest.keyword hk, pure_run]

lemma listClause_none {k : String} (ks : List String) (hrest : IsAhead symbols keys rest)
    (hk : k ∉ keys) : listClause g (k :: ks) d rest = .ok ([], rest) := by
  simp [listClause, bind_run, hrest.keywords ks hk, pure_run]

lemma having_run (hg : F.Reads g d)
    (h : IsClause " HAVING " ["HAVING"] (IsExprPart F) ps ts)
    (hrest : IsAhead [")"] selectionEnds rest) :
    exprClause g "HAVING" d (ts ++ rest) = .ok (ps, rest) := by
  cases h with
  | absent => exact exprClause_none hrest (by decide)
  | present he =>
    obtain ⟨he⟩ := he
    have hread := hg.read_expr he (follows_of_ends hrest (by decide) (by decide)) le_rfl
    simp [exprClause, bind_run, keyword_key, Grammar.expr, hread, pure_run]

/-- The clauses between the condition and the end of a selection. -/
lemma selectTrailer_run (hg : F.Reads g d) {group having : List Part}
    (hgroup : IsClause " GROUP BY " ["GROUP", "BY"] (IsList (IsExprPart F)) group ts)
    (hhaving : IsClause " HAVING " ["HAVING"] (IsExprPart F) having us)
    (hrest : IsAhead [")"] selectionEnds rest) :
    selectTrailer g d (ts ++ (us ++ rest)) = .ok (group ++ having, rest) := by
  have hbehind : IsAhead [")"] ("HAVING" :: selectionEnds) (us ++ rest) := hhaving.head hrest
  have hnone : ∀ k ∈ ["CLUSTER", "DISTRIBUTE", "SORT"],
      listClause g [k, "BY"] d (us ++ rest) = .ok ([], us ++ rest) := fun k hk =>
    listClause_none ["BY"] hbehind fun hmem =>
      (by decide : ∀ k ∈ ["CLUSTER", "DISTRIBUTE", "SORT"], k ∉ "HAVING" :: selectionEnds) k hk hmem
  have hread := having_run hg hhaving hrest
  have hwindow : windowClause g d rest = .ok ([], rest) := by
    simp [windowClause, bind_run, hrest.keyword (k := "WINDOW") (by decide), pure_run]
  have hqualify := exprClause_none (g := g) (d := d) hrest (k := "QUALIFY") (by decide)
  cases hgroup with
  | absent =>
    simp [selectTrailer, bind_run, hbehind.keywords (k := "GROUP") _ (by decide), hnone, hread,
      hwindow, hqualify, pure_run]
  | @present ps ts hps =>
    have hlist := exprList_run hg hps hbehind (by decide)
    have hall : keyword "ALL" d (ts ++ (us ++ rest)) = .ok (false, ts ++ (us ++ rest)) := by
      obtain ⟨h⟩ := hps
      obtain ⟨_, vs, ws, ⟨he⟩, heq, hws⟩ :=
        h.head (separate_of_isAhead hbehind (by decide) (by decide))
      obtain ⟨t, us', htokens, ht, -⟩ := (hg.expr he hws).cons
      rw [heq, htokens]
      exact ht.keyword (by decide)
    have hgroup : Parser.keywords ["GROUP", "BY"] d
        (key "GROUP" :: key "BY" :: (ts ++ (us ++ rest))) = .ok (true, ts ++ (us ++ rest)) :=
      keywords_key ["GROUP", "BY"]
    simp [selectTrailer, bind_run, hgroup, hall, hlist, hnone, hread, hwindow, hqualify, pure_run]

/-- Before its condition, a selection is read up to one of the later clauses. -/
lemma select_of_source (hg : F.ReadsRelations g d) {quantifier source : List Part}
    {items : List SelectItem} {vs behind : List Token} (hquantifier : IsQuantifier quantifier ts)
    (hitems : Listed (IsItem F) items us)
    (hsource : IsClause " FROM " ["FROM"] (IsList (IsJoined F)) source vs)
    (hbehind : IsAhead [")"] joinedEnds behind) :
    select g d (key "SELECT" :: (ts ++ (us ++ (vs ++ behind)))) =
      (do
        let condition ← if ← keyword "WHERE" then pure (some (← g.expr)) else pure none
        return ⟨quantifier, items, source, condition, ← selectTrailer g⟩ : Parser Select) d
          behind := by
  have hfrom : IsAhead [")"] ("FROM" :: joinedEnds) (vs ++ behind) := hsource.head hbehind
  obtain ⟨t, us', htokens, hhead⟩ :=
    items_head (d := d) hg.toBegins hitems (separate_of_isAhead hfrom (by decide) (by decide))
  have hquantifierRead : selectQuantifier g d (ts ++ (us ++ (vs ++ behind))) =
      .ok (quantifier, us ++ (vs ++ behind)) := hquantifier.run (htokens ▸ hhead)
  have hitemsRead := hitems.commaSeparated_run (r := selectItem g) (d := d) (by decide) hfrom
    fun item _ ts rest hitem hrest => hitem.run hg.toReads hrest
  have hinto := hfrom.keyword (d := d) (k := "INTO") (by decide)
  rw [select, bind_of_ok (expect_key "SELECT"), bind_of_ok hquantifierRead, bind_of_ok hitemsRead,
    bind_of_ok hinto]
  cases hsource with
  | absent =>
    have hnone := hbehind.keyword (d := d) (k := "FROM") (by decide)
    exact bind_of_ok hnone
  | present hps =>
    have hread := relations_run hg hps hbehind
    simp [bind_run, keyword_key, hread, pure_run]

/-- A selection is read up to the clauses that close a query. -/
lemma IsSelection.run (hg : F.ReadsRelations g d) {s : Select} (h : IsSelection F s ts)
    (hrest : IsAhead [")"] selectionEnds rest) : select g d (ts ++ rest) = .ok (s, rest) := by
  obtain @⟨quantifier, ts, items, us, source, vs, condition, ws, group, xs, having, ys, hquantifier,
    hitems, hsource, hcondition, hgroup, hhaving⟩ := h
  have hbehind : IsAhead [")"] joinedEnds.tail (xs ++ (ys ++ rest)) :=
    hgroup.head (hhaving.head hrest)
  have htrailer := selectTrailer_run hg.toReads hgroup hhaving hrest
  have hbehindSource : IsAhead [")"] joinedEnds (ws ++ (xs ++ (ys ++ rest))) := by
    cases hcondition with
    | none => exact hbehind.mono (by simp) (by decide)
    | some => exact .word_cons (by decide)
  have hstart := select_of_source hg hquantifier hitems hsource hbehindSource
  have htokens : key "SELECT" :: ts ++ us ++ vs ++ ws ++ xs ++ ys ++ rest =
      key "SELECT" :: (ts ++ (us ++ (vs ++ (ws ++ (xs ++ (ys ++ rest)))))) := by
    simp
  rw [htokens, hstart]
  cases hcondition with
  | none => simp [bind_run, hbehind.keyword (k := "WHERE") (by decide), htrailer, pure_run]
  | some he =>
    have hread := hg.read_expr he (follows_of_ends hbehind (by decide) (by decide)) le_rfl
    simp [bind_run, keyword_key, Grammar.expr, hread, htrailer, pure_run]

end SemanticQuery.Sql.Plain
