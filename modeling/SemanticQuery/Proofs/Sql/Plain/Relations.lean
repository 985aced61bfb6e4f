import SemanticQuery.Proofs.Sql.Plain.Expressions

/-!
# Reading plain relations

Tables and queries in parentheses with their new names, and the relations joined to them.
-/

namespace SemanticQuery.Sql.Plain

open Sql.Parser

variable {F : Forms} {g : Grammar} {d : Nat} {t : Token} {i : Ident} {ts us rest : List Token}
  {symbols keys : List String} {label : String} {ps : List Part}

/-! ### New names -/

/-- No new name is read where none can begin. -/
lemma optionalAlias_none (stops : List String) (h : IsAhead symbols keys rest) (has : "AS" ∉ keys)
    (hstops : keys ⊆ stops) : optionalAlias stops d rest = .ok (none, rest) := by
  cases rest with
  | nil => rfl
  | cons t rest =>
    have hkey := h.keyword (d := d) has
    rcases h t rfl with ⟨s, -, rfl⟩ | ⟨text, k, hk, rfl⟩
    · simp [optionalAlias, bind_run, hkey, ahead_run, identOf, require, pure_run]
    · simp [optionalAlias, bind_run, hkey, ahead_run, hstops hk, require, pure_run]

lemma optionalAlias_some {stops : List String} (hi : IsIdent i t) :
    optionalAlias stops d (key "AS" :: t :: rest) = .ok (some i, rest) := by
  cases hi <;> rfl

/-- The keywords that end a relation. -/
def relationEnds : List String :=
  ["WHERE", "GROUP", "HAVING", "UNION", "EXCEPT", "ORDER", "LIMIT", "OFFSET", "ON", "JOIN", "INNER",
   "LEFT", "RIGHT", "FULL", "CROSS"]

lemma tableAlias_run (h : IsAlias label us) (hrest : IsAhead [",", ")"] relationEnds rest) :
    tableAlias d (us ++ rest) = .ok (label, rest) := by
  cases h with
  | none =>
    have hnone := optionalAlias_none (d := d) tableAliasStops hrest (by decide) (by decide)
    rw [List.nil_append, tableAlias, bind_of_ok hnone]
    rfl
  | @some i t hi =>
    have hcolumns : tableAlias.columns d rest = .ok ("", rest) := by
      simp [tableAlias.columns, bind_run, hrest.symbol (s := "(") (by decide), pure_run]
    rw [List.cons_append, List.singleton_append, tableAlias, bind_of_ok (optionalAlias_some hi)]
    simp [bind_run, hcolumns, pure_run]

/-! ### Tables -/

lemma pathText_run (hi : IsIdent i t) (hrest : IsAhead symbols keys rest) (hpoint : "." ∉ symbols) :
    pathText d (t :: rest) = .ok (printPath [i], rest) := by
  rw [pathText, bind_run, path, bind_of_ok (ident_run hi), loop_of_inr [i] rest]
  · rfl
  · simp [bind_run, hrest.symbol hpoint, pure_run]

lemma pathText_dotted {is : List Ident} (hi : IsIdent i t) (his : IsDotted is ts)
    (hrest : IsAhead symbols keys rest) (hpoint : "." ∉ symbols) :
    pathText d (t :: .symbol "." :: ts ++ rest) = .ok (printPath (i :: is), rest) := by
  rw [pathText, bind_run, path, List.cons_append, bind_of_ok (ident_run hi),
    his.loop_run List.reverse]
  · simp [pure_run]
  · intro found i t rest hi
    simp [bind_run, symbol_run, Token.isSymbol, ident_run hi, pure_run]
  · intro found
    simp [bind_run, hrest.symbol hpoint, pure_run]

/-- Behind the name of a table only its new name is read. -/
lemma table_of_name {name : String} (hname : pathText d ts = .ok (name, us ++ rest))
    (h : IsAlias label us) (hrest : IsAhead [",", ")"] relationEnds rest) :
    table g d ts = .ok ([.text name, .text label], rest) := by
  have hlabel : IsAhead [",", ")"] ("AS" :: relationEnds) (us ++ rest) := by
    cases h with
    | none => exact hrest.mono (by simp) (by simp)
    | some => exact .word_cons (by simp)
  have hhints : indexHints d rest = .ok ("", rest) := by
    have hnone : indexHint d rest = .ok (none, rest) := by
      simp [indexHint, bind_run, hrest.oneOf ["USE", "IGNORE", "FORCE"] (by decide), pure_run]
    rw [indexHints, bind_of_ok (attempt_of_ok (loop_of_inr "" rest ?_))]
    · rfl
    · simp [bind_run, hnone, pure_run]
  have hpartition := hlabel.keyword (d := d) (k := "PARTITION") (by decide)
  have harguments := hlabel.symbol (d := d) (s := "(") (by decide)
  have hordinality := hlabel.keywords (d := d) (k := "WITH") ["ORDINALITY"] (by decide)
  simp only [table, bind_run, hname, hpartition, harguments, hordinality, pure_run, ite_run,
    Bool.false_eq_true, if_false, tableAlias_run h hrest, hhints, ahead_run]
  cases rest with
  | nil => simp [pure_run, bind_run]
  | cons t rest =>
    rcases hrest t rfl with ⟨s, -, rfl⟩ | ⟨text, k, hk, rfl⟩
    · simp [pure_run, bind_run]
    · have hwith : k ≠ "WITH" := by
        rintro rfl
        exact absurd hk (by decide)
      simp [hwith, pure_run, bind_run]

/-! ### Relations -/

lemma derived_run (hg : F.Reads g d) {x : Query} (hx : F.query x ts) (h : IsAlias label us)
    (hrest : IsAhead [",", ")"] relationEnds rest) :
    derived g "" d (ts ++ .symbol ")" :: us ++ rest) =
      .ok ([.text "(", .query x, .text (")" ++ label)], rest) := by
  have hend : IsAhead [")"] [] (.symbol ")" :: us ++ rest) := .symbol_cons (by simp)
  have hread := hg.read_query hx hend
  rw [List.append_assoc, derived, bind_of_ok hread, List.cons_append, bind_of_ok expectSymbol_run,
    bind_of_ok (tableAlias_run h hrest)]
  rfl

/-- A plain relation is read, and it is no join in parentheses. -/
lemma IsRelation.run (hg : F.Reads g d) (h : IsRelation F ps ts)
    (hrest : IsAhead [",", ")"] relationEnds rest) :
    relation g d (ts ++ rest) = .ok ((ps, false), rest) := by
  have htable : ∀ {t : Token} {us : List Token}, Opens t → t ≠ .symbol "(" →
      Parser.table g d (t :: us) = .ok (ps, rest) →
      relation g d (t :: us) = .ok ((ps, false), rest) := by
    intro t us ht hopen h
    have hsymbol : t.isSymbol "(" = false := by
      cases t with
      | symbol s => exact beq_eq_false_iff_ne.mpr fun heq => hopen (heq ▸ rfl)
      | _ => rfl
    simp [relation, bind_run, ht.keyword (k := "LATERAL") (by decide),
      ht.keyword (k := "TABLE") (by decide), symbol_run, hsymbol, h, pure_run]
  have hname : ∀ {i : Ident} {t : Token}, IsName i t → t ≠ .symbol "(" := by
    rintro i t ⟨⟨_⟩ | ⟨_⟩, -, -⟩ <;> exact nofun
  have hbehind : ∀ {label : String} {us : List Token}, IsAlias label us →
      IsAhead [",", ")"] ("AS" :: relationEnds) (us ++ rest) := by
    intro label us h
    cases h with
    | none => exact hrest.mono (by simp) (by simp)
    | some => exact .word_cons (by simp)
  cases h with
  | table hi hlabel =>
    refine htable hi.opens (hname hi) (table_of_name ?_ hlabel hrest)
    exact pathText_run hi.isIdent (hbehind hlabel) (by decide)
  | qualified hi his hlabel =>
    have htext := pathText_dotted (d := d) hi.isIdent his (hbehind hlabel) (by decide)
    rw [← List.append_assoc] at htext
    exact htable hi.opens (hname hi) (table_of_name htext hlabel hrest)
  | @derived x ts label us hx hlabel =>
    have hread := attempt_of_ok (derived_run hg hx hlabel hrest)
    rw [List.append_assoc, List.cons_append] at hread ⊢
    simp [relation, bind_run, keyword_run, Token.isKeyword, symbol_run, Token.isSymbol, hread,
      pure_run]

/-! ### Joins -/

/-- The keywords that end joined relations. -/
def joinedEnds : List String :=
  ["WHERE", "GROUP", "HAVING", "UNION", "EXCEPT", "ORDER", "LIMIT", "OFFSET"]

lemma join_none (hrest : IsAhead [",", ")"] joinedEnds rest) :
    join g d rest = .ok (none, rest) := by
  have hside := hrest.oneOf (d := d) ["LEFT", "RIGHT"] (by decide)
  have hkind := hrest.oneOf (d := d) ["ANTI", "SEMI"] (by decide)
  have hwords : joinWords d rest = .ok (none, rest) := by
    simp [joinWords, bind_run, hrest.keyword (k := "INNER") (by decide),
      hrest.keyword (k := "JOIN") (by decide), hrest.keyword (k := "FULL") (by decide), hkind,
      hside, pure_run]
  simp [join, bind_run, hrest.keyword (k := "GLOBAL") (by decide),
    hrest.keyword (k := "CROSS") (by decide), hrest.keyword (k := "OUTER") (by decide),
    hrest.keyword (k := "NATURAL") (by decide), hwords, require, pure_run]

lemma joinWords_run {form : String × List String} (h : form ∈ joinForms) (ts : List Token) :
    ∃ words, form.1 = "" ++ " " ++ words ++ " " ∧
      joinWords d (form.2.map key ++ ts) = .ok (some words, ts) ∧
      ∃ k us, form.2.map key ++ ts = key k :: us ∧ k ∉ ["GLOBAL", "CROSS", "OUTER", "NATURAL"] := by
  simp only [joinForms, List.mem_cons, List.not_mem_nil, or_false] at h
  rcases h with rfl | rfl | rfl | rfl | rfl | rfl | rfl
  · exact ⟨"JOIN", rfl, rfl, _, _, rfl, by decide⟩
  · exact ⟨"INNER JOIN", rfl, rfl, _, _, rfl, by decide⟩
  · exact ⟨"LEFT JOIN", rfl, rfl, _, _, rfl, by decide⟩
  · exact ⟨"RIGHT JOIN", rfl, rfl, _, _, rfl, by decide⟩
  · exact ⟨"LEFT OUTER JOIN", rfl, rfl, _, _, rfl, by decide⟩
  · exact ⟨"RIGHT OUTER JOIN", rfl, rfl, _, _, rfl, by decide⟩
  · exact ⟨"FULL JOIN", rfl, rfl, _, _, rfl, by decide⟩

lemma join_on {form : String × List String} (hform : form ∈ joinForms) {right : List Part}
    {e : Expr} (hright : relation g d ts = .ok ((right, false), key "ON" :: us))
    (hcondition : g.expr d us = .ok (e, rest)) :
    join g d (form.2.map key ++ ts) =
      .ok (some (.text form.1 :: right ++ [.text " ON ", .expr e]), rest) := by
  obtain ⟨words, htext, hwords, k, vs, htokens, hk⟩ := joinWords_run (d := d) hform ts
  have hkeyword : ∀ k' ∈ ["GLOBAL", "CROSS", "OUTER", "NATURAL"],
      keyword k' d (key k :: vs) = .ok (false, key k :: vs) := by
    intro k' hk'
    have hne : k ≠ k' := fun heq => hk (heq ▸ hk')
    exact keyword_other (beq_eq_false_iff_ne.mpr hne)
  have hon : joinConstraint g d (key "ON" :: us) = .ok ([.text " ON ", .expr e], rest) := by
    simp [joinConstraint, bind_run, keyword_key, hcondition, pure_run]
  rw [htokens] at hwords ⊢
  simp [join, bind_run, hkeyword, hwords, hright, hon, htext, pure_run]

lemma join_cross {right : List Part} (hright : relation g d ts = .ok ((right, false), rest)) :
    join g d (key "CROSS" :: key "JOIN" :: ts) =
      .ok (some (.text " CROSS JOIN " :: right), rest) := by
  have hstart : join g d (key "CROSS" :: key "JOIN" :: ts) =
      (relation g >>= fun found => pure (some (.text " CROSS JOIN " :: found.1))) d ts := rfl
  rw [hstart, bind_of_ok hright]
  rfl

/-- The keywords that open a join. -/
def joinStarts : List String := ["JOIN", "INNER", "LEFT", "RIGHT", "FULL", "CROSS"]

lemma IsJoins.head (h : IsJoins F ps ts) (hrest : IsAhead [",", ")"] joinedEnds rest) :
    IsAhead [",", ")"] (joinStarts ++ joinedEnds) (ts ++ rest) := by
  cases h with
  | nil => exact hrest.mono (by simp) (List.subset_append_right _ _)
  | on hform =>
    simp only [joinForms, List.mem_cons, List.not_mem_nil, or_false] at hform
    rcases hform with rfl | rfl | rfl | rfl | rfl | rfl | rfl <;> exact .word_cons (by decide)
  | cross => exact .word_cons (by decide)

/-- Rounds that each read a join, up to the end of the joined relations. -/
lemma IsJoins.iterate_run (hg : F.Reads g d)
    {step : List Part → Parser (List Part ⊕ List Part)}
    (hjoin : ∀ {found parts ts rest}, join g d ts = .ok (some parts, rest) →
      step found d ts = .ok (.inl (found ++ parts), rest))
    (hend : ∀ found, step found d rest = .ok (.inr found, rest))
    (h : IsJoins F ps ts) (hrest : IsAhead [",", ")"] joinedEnds rest) (n : Nat)
    (found : List Part) (hn : ts.length < n) :
    iterate step n found d (ts ++ rest) = .ok (found ++ ps, rest) := by
  have hrelation : ∀ {ps : List Part} {ts : List Token}, IsJoins F ps ts →
      IsAhead [",", ")"] relationEnds (ts ++ rest) := fun h =>
    (h.head hrest).mono (by simp) (by decide)
  induction h generalizing n found with
  | nil =>
    obtain ⟨n, rfl⟩ := Nat.exists_eq_succ_of_ne_zero (Nat.ne_zero_of_lt hn)
    rw [List.nil_append, iterate_inr (hend _), List.append_nil]
  | @on form right ts e us ps vs hform hright he hjoins ih =>
    obtain ⟨n, rfl⟩ := Nat.exists_eq_succ_of_ne_zero (Nat.ne_zero_of_lt hn)
    have hends : Follows 0 (vs ++ rest) :=
      follows_of_ends (hjoins.head hrest) (by decide) (by decide)
    have hcondition := hg.read_expr he hends le_rfl
    have hon : IsAhead [",", ")"] relationEnds (key "ON" :: (us ++ (vs ++ rest))) :=
      .word_cons (by decide)
    have hread := join_on hform (hright.run hg hon) hcondition
    have htokens : form.2.map key ++ ts ++ key "ON" :: us ++ vs ++ rest =
        form.2.map key ++ (ts ++ (key "ON" :: (us ++ (vs ++ rest)))) := by
      simp
    rw [htokens, iterate_inl (hjoin hread), ih n _ (by simp at hn; omega)]
    simp
  | @cross right ts ps vs hright hjoins ih =>
    obtain ⟨n, rfl⟩ := Nat.exists_eq_succ_of_ne_zero (Nat.ne_zero_of_lt hn)
    have hread := join_cross (hright.run hg (hrelation hjoins))
    rw [List.append_assoc, List.cons_append, List.cons_append, iterate_inl (hjoin hread),
      ih n _ (by simp at hn; omega)]
    simp

/-- Joined relations are read as what they are, beside what tells of their joins. -/
lemma IsJoined.run (hg : F.Reads g d) (h : IsJoined F ps ts) :
    ∃ j : Joined, j.parts = ps ∧ ∀ {rest}, IsAhead [",", ")"] joinedEnds rest →
      joined g d (ts ++ rest) = .ok (j, rest) := by
  obtain @⟨first, ts, joins, us, hfirst, hjoins⟩ := h
  refine ⟨⟨first ++ joins, !joins.isEmpty, false⟩, rfl, fun {rest} hrest => ?_⟩
  have hread := hfirst.run hg ((hjoins.head hrest).mono (by simp) (by decide))
  rw [List.append_assoc, joined, bind_of_ok hread]
  dsimp only
  have hlength : us.length < (us ++ rest).length + 1 := by
    rw [List.length_append]
    omega
  rw [bind_run, loop_run, hjoins.iterate_run hg ?_ ?_ hrest _ _ hlength]
  · rfl
  · intro found parts ts rest h
    simp [bind_run, h, pure_run]
  · intro found
    simp [bind_run, join_none hrest, pure_run]

end SemanticQuery.Sql.Plain
