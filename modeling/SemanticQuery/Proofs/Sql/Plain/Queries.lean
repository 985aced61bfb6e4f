import SemanticQuery.Proofs.Sql.Plain.Printing.Queries
import SemanticQuery.Proofs.Sql.Plain.Selections
import SemanticQuery.Sql.Reading

/-!
# Reading plain queries

The grammar with enough levels reads every plain query of a level, so the text of a plain query
whose strings are legible is read back as the query.
-/

namespace SemanticQuery.Sql.Plain

open Sql.Parser

variable {F : Forms} {g : Grammar} {power d : Nat} {t : Token} {ts us rest : List Token}
  {ps : List Part}

/-! ### Cores -/

/-- One round of reading set operations that bind tighter than `power`. -/
def setRound (g : Grammar) (power : Nat) (left : Body) : Parser (Body ⊕ Body) := do
  let next := setPower (← ahead)
  if power ≥ next then return .inr left
  else
    let op ← expectOneOf ["UNION", "EXCEPT", "MINUS", "INTERSECT"]
    let quantifier ← setQuantifier
    let right ← g.body next
    return .inl (.phrase [.query ⟨[], left, []⟩, .text (" " ++ op ++ quantifier ++ " "),
      .query ⟨[], right, []⟩])

/-- How tightly the set operations of plain queries bind. -/
def setOperationPower : Nat := 10

lemma setPower_le (hrest : IsAhead [")"] selectionEnds rest) :
    setPower rest ≤ setOperationPower := by
  cases rest with
  | nil => decide
  | cons t rest =>
    rcases hrest t rfl with ⟨s, -, rfl⟩ | ⟨text, k, hk, rfl⟩
    · exact Nat.zero_le _
    · simp only [selectionEnds, List.mem_cons, List.not_mem_nil, or_false] at hk
      rcases hk with rfl | rfl | rfl | rfl | rfl
      · exact le_rfl
      · exact le_rfl
      all_goals exact Nat.zero_le _

lemma setPower_eq_zero (hrest : IsAhead [")"] bodyEnds rest) : setPower rest = 0 := by
  cases rest with
  | nil => rfl
  | cons t rest =>
    rcases hrest t rfl with ⟨s, -, rfl⟩ | ⟨text, k, hk, rfl⟩
    · rfl
    · simp only [bodyEnds, List.mem_cons, List.not_mem_nil, or_false] at hk
      rcases hk with rfl | rfl | rfl <;> rfl

lemma setRound_end {body : Body} (h : setPower rest ≤ power) :
    setRound g power body d rest = .ok (.inr body, rest) := by
  simp [setRound, bind_run, ahead_run, h, pure_run]

/-- The words of a set operation are read before a selection. -/
lemma setForm_run {form : String × List String} (h : form ∈ setForms) (ts : List Token) :
    setPower (form.2.map key ++ key "SELECT" :: ts) = setOperationPower ∧
      ∃ op quantifier us, form.1 = " " ++ op ++ quantifier ++ " " ∧
        expectOneOf ["UNION", "EXCEPT", "MINUS", "INTERSECT"] d
          (form.2.map key ++ key "SELECT" :: ts) = .ok (op, us) ∧
        setQuantifier d us = .ok (quantifier, key "SELECT" :: ts) := by
  simp only [setForms, List.mem_cons, List.not_mem_nil, or_false] at h
  rcases h with rfl | rfl | rfl | rfl
  · exact ⟨rfl, "UNION", "", _, rfl, rfl, rfl⟩
  · exact ⟨rfl, "UNION", " ALL", _, rfl, rfl, rfl⟩
  · exact ⟨rfl, "UNION", " DISTINCT", _, rfl, rfl, rfl⟩
  · exact ⟨rfl, "EXCEPT", "", _, rfl, rfl, rfl⟩

/-- The reader reads selections behind a set operation. -/
structure Forms.ReadsSelections (F : Forms) (g : Grammar) (d : Nat) : Prop
    extends F.ReadsRelations g d where
  read_selection : ∀ {s ts rest}, IsSelection F s ts → IsAhead [")"] selectionEnds rest →
    g.body setOperationPower d (ts ++ rest) = .ok (.select s, rest)

lemma setRound_run (hg : F.ReadsSelections g d) {form : String × List String}
    (hform : form ∈ setForms) {s : Select} (hs : IsSelection F s ts)
    (hrest : IsAhead [")"] selectionEnds rest) (left : Body) :
    setRound g 0 left d (form.2.map key ++ (ts ++ rest)) =
      .ok (.inl (.phrase [.query ⟨[], left, []⟩, .text form.1, .query ⟨[], .select s, []⟩]),
        rest) := by
  have hread := hg.read_selection hs hrest
  obtain ⟨ts, rfl⟩ := hs.begins
  obtain ⟨hpower, op, quantifier, us, htext, hop, hquantifier⟩ :=
    setForm_run (d := d) hform (ts ++ rest)
  rw [List.cons_append] at hread ⊢
  have hpositive : setOperationPower ≠ 0 := by decide
  simp [setRound, bind_run, ahead_run, hpower, hpositive, hop, hquantifier, hread, htext, pure_run]

/-- A selection is read, and then the set operations behind it. -/
lemma body_of_select (hg : F.ReadsRelations g d) {s : Select} (h : IsSelection F s ts)
    (hrest : IsAhead [")"] selectionEnds rest) :
    body g power d (ts ++ rest) =
      iterate (setRound g power) (rest.length + 1) (.select s) d rest := by
  have hread := h.run hg hrest
  obtain ⟨us, rfl⟩ := h.begins
  have hsees : ∀ ts, Parser.sees "SELECT" d (key "SELECT" :: ts) =
      .ok (true, key "SELECT" :: ts) := fun _ => rfl
  rw [List.cons_append] at hread ⊢
  simp only [body, bind_run, hsees, ite_true, hread, pure_run]
  rfl

/-- Reading a core comes to the point where all of it is read and the set operations behind it are
next. -/
lemma IsBody.run (hg : F.ReadsSelections g d) {body : Body} (h : IsBody F body ts)
    (hrest : IsAhead [")"] selectionEnds rest) :
    ∃ n, rest.length < n ∧
      Parser.body g 0 d (ts ++ rest) = iterate (setRound g 0) n body d rest := by
  induction h generalizing rest with
  | select hs => exact ⟨_, Nat.lt_succ_self _, body_of_select hg.toReadsRelations hs hrest⟩
  | @combined form left ts s us hform _ hs ih =>
    have hset : IsAhead [")"] selectionEnds (form.2.map key ++ (us ++ rest)) := by
      simp only [setForms, List.mem_cons, List.not_mem_nil, or_false] at hform
      rcases hform with rfl | rfl | rfl | rfl <;> exact .word_cons (by decide)
    obtain ⟨n, hn, hleft⟩ := ih hset
    obtain ⟨n, rfl⟩ := Nat.exists_eq_succ_of_ne_zero (Nat.ne_zero_of_lt hn)
    refine ⟨n, ?_, ?_⟩
    · obtain ⟨us, rfl⟩ := hs.begins
      simp at hn
      omega
    · rw [List.append_assoc, List.append_assoc, hleft,
        iterate_inl (setRound_run hg hform hs hrest _)]

lemma body_run (hg : F.ReadsSelections g d) {body : Body} (h : IsBody F body ts)
    (hrest : IsAhead [")"] bodyEnds rest) : Parser.body g 0 d (ts ++ rest) = .ok (body, rest) := by
  obtain ⟨n, hn, hall⟩ := h.run hg (hrest.mono (by simp) (by decide))
  obtain ⟨n, rfl⟩ := Nat.exists_eq_succ_of_ne_zero (Nat.ne_zero_of_lt hn)
  rw [hall, iterate_inr (setRound_end (setPower_eq_zero hrest).le)]

lemma body_unexpected (ht : Opens t) (hopen : t ≠ .symbol "(") :
    body g 0 d (t :: ts) = .error .unexpected := by
  have hsees : Parser.sees "SELECT" d (t :: ts) = .ok (false, t :: ts) := by
    simp [Parser.sees, ht.isKeyword_eq_false (k := "SELECT") (by decide)]
  have hsymbol : t.isSymbol "(" = false := by
    cases t with
    | symbol s => exact beq_eq_false_iff_ne.mpr fun heq => hopen (heq ▸ rfl)
    | _ => rfl
  simp [body, bind_run, hsees, symbol_run, hsymbol, ht.keyword (k := "VALUES") (by decide), expect,
    ht.keyword (k := "TABLE") (by decide), require, fail]

/-! ### Bounds -/

lemma keywordWhen_none {symbols keys : List String} {k : String} (hrest : IsAhead symbols keys rest)
    (hk : k ∉ keys) (b : Bool) : keywordWhen b k d rest = .ok (false, rest) := by
  cases b with
  | false => rfl
  | true => exact hrest.keyword (d := d) hk

/-- Where no clause of a query comes next, no bound is read. -/
lemma boundsRound_end (hrest : IsAhead [")"] [] rest) (b : Bounds) :
    boundsRound g b d rest = .ok (b, rest) := by
  have hlimit := keywordWhen_none (d := d) (k := "LIMIT") hrest (by decide)
  have hoffset := keywordWhen_none (d := d) (k := "OFFSET") hrest (by decide)
  obtain ⟨_ | limit, _ | offset⟩ := b <;>
    simp [boundsRound, bind_run, hlimit, hoffset, hrest.symbol (s := ",") (by decide), pure_run]

/-- The bounds of a query are read in one round. -/
lemma boundsRound_run (hg : F.Reads g d) {limit offset : List Part}
    (hlimit : IsClause " LIMIT " ["LIMIT"] (IsExprPart F) limit ts)
    (hoffset : IsClause " OFFSET " ["OFFSET"] (IsOffset F) offset us)
    (hrest : IsAhead [")"] [] rest) :
    ∃ b : Bounds, b.parts = limit ++ offset ∧
      boundsRound g {} d (ts ++ (us ++ rest)) = .ok (b, rest) := by
  have hbehind : IsAhead [")"] ["OFFSET"] (us ++ rest) := hoffset.head hrest
  have hrows := hrest.oneOf (d := d) ["ROW", "ROWS"] (by decide)
  have hcomma := hrest.symbol (d := d) (s := ",") (by decide)
  have hnoLimit := hbehind.keyword (d := d) (k := "LIMIT") (by decide)
  have hnoOffset := hrest.keyword (d := d) (k := "OFFSET") (by decide)
  cases hlimit with
  | absent =>
    cases hoffset with
    | absent => exact ⟨{}, rfl, boundsRound_end hrest {}⟩
    | present hps =>
      obtain ⟨he⟩ := hps
      have hread := hg.read_expr he (follows_of_ends hrest (by decide) (by decide)) le_rfl
      refine ⟨⟨none, some (_, "")⟩, rfl, ?_⟩
      simp at hnoLimit
      simp [boundsRound, bind_run, keywordWhen, hnoLimit, keyword_key, Grammar.expr, hread, hrows,
        pure_run]
  | @present _ ts hps =>
    obtain @⟨e, _, he⟩ := hps
    have hends : Follows 0 (us ++ rest) := follows_of_ends hbehind (by decide) (by decide)
    have hread := hg.read_expr he hends le_rfl
    obtain ⟨t, vs, htokens, ht, -⟩ := (hg.expr he hends.separate).cons
    have hall : keyword "ALL" d (ts ++ (us ++ rest)) = .ok (false, ts ++ (us ++ rest)) := by
      rw [htokens]
      exact ht.keyword (by decide)
    cases hoffset with
    | absent =>
      refine ⟨⟨some e, none⟩, rfl, ?_⟩
      simp only [List.nil_append] at hread hall
      simp [boundsRound, bind_run, keywordWhen, keyword_key, hall, Grammar.expr, hread, hnoOffset,
        hcomma, pure_run]
    | present hps =>
      obtain ⟨hpassed⟩ := hps
      have hpassedRead :=
        hg.read_expr hpassed (follows_of_ends hrest (by decide) (by decide)) le_rfl
      refine ⟨⟨some e, some (_, "")⟩, rfl, ?_⟩
      simp only [List.map_cons, List.map_nil, List.cons_append, List.nil_append] at hread hall
      simp [boundsRound, bind_run, keywordWhen, keyword_key, hall, Grammar.expr, hread, hpassedRead,
        hrows, pure_run]

/-! ### Queries with a name -/

lemma IsCommonTable.run (hg : F.Reads g d) (h : IsCommonTable F ps ts)
    (hrest : IsAhead [","] ["SELECT"] rest) : commonTable g d (ts ++ rest) = .ok (ps, rest) := by
  obtain @⟨i, t, x, ts, hi, hx⟩ := h
  have hread := hg.read_query hx (.symbol_cons (by simp) : IsAhead [")"] [] (.symbol ")" :: rest))
  have hcolumns : Parser.sees "AS" d (key "AS" :: .symbol "(" :: (ts ++ .symbol ")" :: rest)) =
      .ok (true, key "AS" :: .symbol "(" :: (ts ++ .symbol ")" :: rest)) := rfl
  have htokens : t :: key "AS" :: .symbol "(" :: ts ++ [.symbol ")"] ++ rest =
      t :: key "AS" :: .symbol "(" :: (ts ++ .symbol ")" :: rest) := by
    simp
  rw [htokens]
  simp [commonTable, bind_run, ident_run hi.isIdent, hcolumns, expect_key, expectSymbol_run, hread,
    hrest.keyword (k := "FROM") (by decide), pure_run]

/-- What stands before a selection is read up to it. -/
lemma IsOpening.run (hg : F.Reads g d) (h : IsOpening F ps ts) :
    withClause g d (ts ++ key "SELECT" :: rest) = .ok (ps, key "SELECT" :: rest) := by
  cases h with
  | none => rfl
  | @tables form ps ts hform hps =>
    obtain ⟨hlisted⟩ := hps
    have hselect : IsAhead [] ["SELECT"] (key "SELECT" :: rest) := .word_cons (by simp)
    have hread := hlisted.commaSeparated_run (r := commonTable g) (d := d) (by decide) hselect
      fun _ _ _ _ h hrest => h.run hg hrest
    obtain ⟨t, us, rfl, ht⟩ : ∃ t us, ts = t :: us ∧ t.isKeyword "RECURSIVE" = false := by
      cases hlisted with
      | single h | cons h _ =>
        obtain ⟨hi, _⟩ := h
        exact ⟨_, _, rfl, hi.isKeyword_eq_false (by decide)⟩
    have hnone : keyword "RECURSIVE" d (t :: (us ++ key "SELECT" :: rest)) =
        .ok (false, t :: (us ++ key "SELECT" :: rest)) := keyword_other ht
    rw [List.cons_append] at hread
    simp only [openingForms, List.mem_cons, List.not_mem_nil, or_false] at hform
    rcases hform with rfl | rfl
    · simp [withClause, bind_run, keyword_key, hnone, hread, pure_run]
    · simp [withClause, bind_run, keyword_key, hread, pure_run]

/-! ### Queries -/

lemma fetchClause_none (hrest : IsAhead [")"] [] rest) : fetchClause d rest = .ok ([], rest) := by
  simp [fetchClause, bind_run, hrest.keyword (k := "FETCH") (by decide), pure_run]

lemma lockClauses_none (hrest : IsAhead [")"] [] rest) : lockClauses d rest = .ok ([], rest) := by
  rw [lockClauses, bind_of_ok (loop_of_inr "" rest ?_)]
  · rfl
  · simp [bind_run, hrest.keyword (k := "FOR") (by decide), pure_run]

/-- A query is read up to its end. -/
lemma IsQuery.run (hg : F.ReadsBodies g d) {x : Query} (h : IsQuery F x ts)
    (hrest : IsAhead [")"] [] rest) : query g d (ts ++ rest) = .ok (x, rest) := by
  obtain @⟨opening, ts, body, us, order, vs, limit, ws, offset, xs, hopening, hbody, horder, hlimit,
    hoffset⟩ := h
  have hbehindOrder : IsAhead [")"] ["LIMIT", "OFFSET"] (ws ++ (xs ++ rest)) :=
    hlimit.head (hoffset.head hrest)
  have hcore := hg.read_body hbody (horder.head hbehindOrder)
  obtain ⟨b, hparts, hbounds⟩ := boundsRound_run hg.toReads hlimit hoffset hrest
  have hagain := boundsRound_end (g := g) (d := d) hrest b
  have hfetch := fetchClause_none (d := d) hrest
  have hlocks := lockClauses_none (d := d) hrest
  have htokens : ts ++ us ++ vs ++ ws ++ xs ++ rest =
      ts ++ (us ++ (vs ++ (ws ++ (xs ++ rest)))) := by
    simp
  have hstart : query g d (ts ++ (us ++ (vs ++ (ws ++ (xs ++ rest))))) =
      openedQuery g opening d (us ++ (vs ++ (ws ++ (xs ++ rest)))) := by
    obtain ⟨us, rfl⟩ := hbody.begins
    have hchange : change g d (key "SELECT" :: us ++ (vs ++ (ws ++ (xs ++ rest)))) =
        .ok (none, key "SELECT" :: us ++ (vs ++ (ws ++ (xs ++ rest)))) := rfl
    rw [query, List.cons_append, bind_of_ok (hopening.run hg.toReads)]
    exact bind_of_ok hchange
  rw [htokens, hstart, openedQuery, bind_of_ok hcore]
  cases horder with
  | absent =>
    simp [bind_run, hbehindOrder.keywords (k := "ORDER") _ (by decide), hbounds, hagain, hfetch,
      hlocks, hparts, pure_run]
  | @present ps us hps =>
    obtain ⟨hlisted⟩ := hps
    have hitems := hlisted.commaSeparated_run (r := orderItem g) (d := d) (by decide) hbehindOrder
      fun item _ ts rest hitem hrest => orderItem_run hg.toReads hitem hrest
    have hkeys : Parser.keywords ["ORDER", "BY"] d
        (key "ORDER" :: key "BY" :: (us ++ (ws ++ (xs ++ rest)))) =
          .ok (true, us ++ (ws ++ (xs ++ rest))) :=
      keywords_key ["ORDER", "BY"]
    simp [bind_run, hkeys, orderItems, hitems, hbounds, hagain, hfetch, hlocks, hparts, pure_run]

/-! ### Levels -/

/-- The core of a query is read with the grammar below, a selection behind a set operation with the
one below that, and the relations joined in it with the one below once more. -/
lemma readsBodies_of_reads {n : Nat} (h : ∀ k ≤ 3, F.Reads (grammar (n + k)) d) :
    F.ReadsBodies (grammar (n + 3)) d where
  toReads := h 3 le_rfl
  read_body := by
    have hjoined : ∀ k ≤ 1, F.ReadsRelations (grammar (n + k + 1)) d := fun k hk =>
      ⟨h (k + 1) (by omega), fun hps => hps.run (h k (by omega))⟩
    have hselections : F.ReadsSelections (grammar (n + 2)) d := by
      refine ⟨hjoined 1 le_rfl, fun hs hrest => ?_⟩
      exact (body_of_select (hjoined 0 (by omega)) hs hrest).trans
        (iterate_inr (setRound_end (setPower_le hrest)))
    exact fun {_ _ _} hbody hrest => body_run hselections hbody hrest
  body_unexpected _ ht hopen := body_unexpected (g := grammar (n + 2)) ht hopen

/-- A grammar of enough levels reads what stands in a level. -/
lemma reads_level (d : Nat) : ∀ n k, 4 * d ≤ n → d ≤ k → (level d).Reads (grammar n) k := by
  induction d with
  | zero => exact fun n k _ _ => ⟨begins_level 0, False.elim, False.elim⟩
  | succ d ih =>
    intro n k hn hk
    obtain ⟨n, rfl⟩ : ∃ m, n = m + 4 := ⟨n - 4, by omega⟩
    obtain ⟨k, rfl⟩ : ∃ j, k = j + 1 := ⟨k - 1, by omega⟩
    have hbodies : (level d).ReadsBodies (grammar (n + 3)) k :=
      readsBodies_of_reads fun i _ => ih _ _ (by omega) (by omega)
    exact ⟨begins_level (d + 1), fun h hrest hq => expression_run hbodies h hrest hq,
      fun h hrest => h.run hbodies hrest⟩

/-! ### Statements -/

/-- How many plain forms the reader enters at least, one inside the other. -/
def depth : Nat := 25

lemma statement_run {n : Nat} {k : String} {x : Query} (hk : k ∈ ["SELECT", "WITH"])
    (h : (grammar n).query d (key k :: ts) = .ok (x, rest)) :
    statement n (d + 1) (key k :: ts) = .ok (.query x, rest) := by
  have hkey : (["SELECT", "WITH", "VALUES", "FROM"].contains k) = true := by
    simp only [List.mem_cons, List.not_mem_nil, or_false] at hk
    rcases hk with rfl | rfl <;> rfl
  simp only [statement, nest_run, statementOf, key, bind_run, ahead_run, hkey, ite_true]
  simp only [key] at h
  rw [h]
  rfl

lemma statements_run {n : Nat} {k : String} {x : Query} (hk : k ∈ ["SELECT", "WITH"])
    (h : (grammar n).query d (key k :: ts) = .ok (x, [])) :
    statements n (d + 1) (key k :: ts) = .ok ([.query x], []) := by
  have hstatement := statement_run hk h
  rw [statements, loop_of_inl ([.query x], true) []]
  · have hkey : (key k).isSymbol ";" = false := rfl
    simp [bind_run, symbol_run, hkey, ahead_run, hstatement, pure_run]
  · rfl

/-- The text of a plain statement with legible strings is read back as the statement. -/
theorem readSelection_print {s : Statement} (h : IsStatement depth s)
    (hlegible : Legible s.children) : Statement.readSelection s.print = .ok s := by
  obtain ⟨hselection, x, ts, rfl, h⟩ := h
  have htokens : tokenize x.print = .ok ts :=
    Lexer.tokenize_of_spells ((prints_level depth).query h hlegible)
  have hdepth : 4 * depth ≤ levels ts := by
    simp only [levels, maxDepth, depth]
    omega
  have hquery := (reads_level depth _ 49 hdepth (by decide)).read_query h .nil
  obtain ⟨k, hk, us, rfl⟩ := (begins_level depth).query h
  rw [List.append_nil] at hquery
  have hall : Statement.readAll x.print = .ok [.query x] := by
    have hstatements : statements (levels (key k :: us)) maxDepth (key k :: us) =
        .ok ([.query x], []) := statements_run hk hquery
    simp [Statement.readAll, htokens, hstatements, bind, Except.bind, pure, Except.pure]
  simp [Statement.readSelection, Statement.read, Statement.print, hall, hselection]

end SemanticQuery.Sql.Plain
