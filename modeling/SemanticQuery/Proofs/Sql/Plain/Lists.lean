import SemanticQuery.Proofs.Sql.Plain.Heads

/-!
# Reading lists of plain forms

Keywords, names, and things with commas between them, such as expressions and the items of an
ordering. Where a reader takes the tokens of one thing to it, it reads them all.
-/

namespace SemanticQuery.Sql.Plain

open Sql.Parser

variable {F : Forms} {g : Grammar} {d : Nat} {e : Expr} {t : Token} {i : Ident} {ps : List Part}
  {ts us rest : List Token} {symbols keys : List String}

/-- The reader reads what stands inside other forms. -/
structure Forms.Reads (F : Forms) (g : Grammar) (d : Nat) : Prop extends F.Begins where
  read_expr : ∀ {p q e ts rest}, F.expr p q e ts → Follows q rest → q ≤ p →
    g.subexpr p d (ts ++ rest) = .ok (e, rest)
  read_query : ∀ {x ts rest}, F.query x ts → IsAhead [")"] [] rest →
    g.query d (ts ++ rest) = .ok (x, rest)

lemma keyword_key (k : String) : keyword k d (key k :: ts) = .ok (true, ts) := by
  rw [key, keyword_run, Token.isKeyword, if_pos (beq_self_eq_true k)]

lemma keywords_key (ks : List String) :
    Parser.keywords ks d (ks.map key ++ ts) = .ok (true, ts) := by
  have hafter : afterKeywords ks (ks.map key ++ ts) = some ts := by
    induction ks with
    | nil => rfl
    | cons k ks ih => simp [afterKeywords, key, Token.isKeyword, ih]
  rw [Parser.keywords, hafter]

lemma expect_key (k : String) : expect k d (key k :: ts) = .ok ((), ts) := expect_run k

/-! ### Names -/

lemma IsIdent.identOf_eq (h : IsIdent i t) : identOf t = some i := by
  cases h <;> rfl

lemma ident_run (h : IsIdent i t) : ident d (t :: ts) = .ok (i, ts) := by
  simp [ident, bind_run, next_run, h.identOf_eq, pure_run]

/-- Rounds that each read a point and a name. -/
lemma IsDotted.loop_run {α : Type} {step : List Ident → Parser (List Ident ⊕ α)}
    (result : List Ident → α) {is : List Ident} (h : IsDotted is ts)
    (hname : ∀ {found i t rest}, IsIdent i t →
      step found d (.symbol "." :: t :: rest) = .ok (.inl (i :: found), rest))
    (hend : ∀ found, step found d rest = .ok (.inr (result found), rest)) (found : List Ident) :
    loop step found d (.symbol "." :: ts ++ rest) = .ok (result (is.reverse ++ found), rest) := by
  have hrounds : ∀ n found, ts.length < n →
      iterate step n found d (.symbol "." :: ts ++ rest) =
        .ok (result (is.reverse ++ found), rest) := by
    induction h with
    | single hi =>
      rintro (_ | _ | n) found hn
      · simp at hn
      · simp at hn
      · rw [List.cons_append, List.singleton_append, iterate_inl (hname hi), iterate_inr (hend _)]
        rfl
    | @cons i t is ts hi _ ih =>
      rintro (_ | n) found hn
      · simp at hn
      · rw [List.cons_append, List.cons_append, iterate_inl (hname hi),
          ih n _ (by simp at hn; omega)]
        simp
  exact hrounds _ found (by simp; omega)

/-! ### Lists -/

lemma Listed.length_le {α : Type} {R : α → List Token → Prop} {as : List α} (h : Listed R as ts) :
    as.length ≤ ts.length + 1 := by
  induction h with
  | single => simp
  | cons _ _ ih => simp; omega

/-- The first of several things begins them. -/
lemma Listed.head {α : Type} {R : α → List Token → Prop} {as : List α} (h : Listed R as ts)
    (hrest : Separate rest) : ∃ a us vs, R a us ∧ ts ++ rest = us ++ vs ∧ Separate vs := by
  cases h with
  | single ha => exact ⟨_, _, _, ha, rfl, hrest⟩
  | cons ha _ => exact ⟨_, _, _, ha, List.append_assoc .., separate_symbol (by decide)⟩

section

variable {α : Type} {R : α → List Token → Prop} {r : Parser α} {as : List α}
  (hcomma : "," ∉ symbols) (hrest : IsAhead symbols keys rest)
include hrest

/-- Rounds that each read a comma and a thing behind it. -/
lemma Listed.iterate_run {step : List α → Parser (List α ⊕ List α)}
    (hnext : ∀ {found a ts rest}, r d ts = .ok (a, rest) →
      step found d (.symbol "," :: ts) = .ok (.inl (a :: found), rest))
    (hend : ∀ found, step found d rest = .ok (.inr found.reverse, rest)) (h : Listed R as ts)
    (hread : ∀ a ∈ as, ∀ {ts rest}, R a ts → IsAhead ("," :: symbols) keys rest →
      r d (ts ++ rest) = .ok (a, rest)) (n : Nat) (found : List α) (hn : as.length ≤ n) :
    (r >>= fun a => iterate step n (a :: found)) d (ts ++ rest) =
      .ok (found.reverse ++ as, rest) := by
  have hall : IsAhead ("," :: symbols) keys rest := hrest.mono (by simp) (by simp)
  induction h generalizing n found with
  | @single a ts ha =>
    obtain ⟨n, rfl⟩ := Nat.exists_eq_succ_of_ne_zero (n := n) (by rintro rfl; simp at hn)
    rw [bind_of_ok (hread a (by simp) ha hall), iterate_inr (hend _)]
    simp
  | @cons a ts as us ha _ ih =>
    obtain ⟨n, rfl⟩ := Nat.exists_eq_succ_of_ne_zero (n := n) (by rintro rfl; simp at hn)
    have hbehind : IsAhead ("," :: symbols) keys (.symbol "," :: us ++ rest) :=
      .symbol_cons (by simp)
    have hothers := ih (fun b hb => hread b (by simp [hb])) n (a :: found) (by simpa using hn)
    rw [List.append_assoc, bind_of_ok (hread a (by simp) ha hbehind)]
    cases hr : r d (us ++ rest) with
    | error fault => simp [bind_run, hr] at hothers
    | ok result =>
      rw [bind_of_ok hr] at hothers
      rw [List.cons_append, iterate_inl (hnext hr), hothers]
      simp

include hcomma

/-- Things with commas between them, each of which is read before a comma and before the end. -/
lemma Listed.commaSeparated_run (h : Listed R as ts)
    (hread : ∀ a ∈ as, ∀ {ts rest}, R a ts → IsAhead ("," :: symbols) keys rest →
      r d (ts ++ rest) = .ok (a, rest)) :
    commaSeparated r d (ts ++ rest) = .ok (as, rest) := by
  obtain ⟨a, behind, hr, hlength⟩ : ∃ a behind, r d (ts ++ rest) = .ok (a, behind) ∧
      as.length ≤ behind.length + 1 := by
    cases h with
    | @single a ts ha =>
      exact ⟨a, rest, hread a (by simp) ha (hrest.mono (by simp) (by simp)), by simp⟩
    | @cons a ts as us ha hothers =>
      have hbehind : IsAhead ("," :: symbols) keys (.symbol "," :: us ++ rest) :=
        .symbol_cons (by simp)
      refine ⟨a, .symbol "," :: us ++ rest, ?_, ?_⟩
      · rw [List.append_assoc]
        exact hread a (by simp) ha hbehind
      · have hle := hothers.length_le
        simp
        omega
  rw [commaSeparated, bind_of_ok hr, loop_run]
  refine (bind_of_ok hr).symm.trans (h.iterate_run hrest ?_ ?_ hread _ [] hlength)
  · intro found a ts rest hr
    simp [bind_run, symbol_run, Token.isSymbol, hr, pure_run]
  · intro found
    simp [bind_run, hrest.symbol hcomma, pure_run]

end

/-! ### Lists of expressions -/

/-- Things that stand for others are read in their place. -/
lemma Listed.exists_map {α β : Type} {R : α → List Token → Prop} {S : β → List Token → Prop}
    {f : β → α} {as : List α} (h : Listed R as ts)
    (hR : ∀ {a ts}, R a ts → ∃ b, f b = a ∧ S b ts) :
    ∃ bs, bs.map f = as ∧ Listed S bs ts := by
  induction h with
  | single ha =>
    obtain ⟨b, rfl, hb⟩ := hR ha
    exact ⟨[b], rfl, .single hb⟩
  | cons ha _ ih =>
    obtain ⟨b, rfl, hb⟩ := hR ha
    obtain ⟨bs, rfl, hbs⟩ := ih
    exact ⟨b :: bs, rfl, .cons hb hbs⟩

lemma exprList_run (hg : F.Reads g d) (h : IsList (IsExprPart F) ps ts)
    (hrest : IsAhead [")"] keys rest) (hkeys : keys ⊆ endKeys) :
    exprList g d (ts ++ rest) = .ok (ps, rest) := by
  obtain ⟨h⟩ := h
  obtain ⟨es, rfl, hes⟩ := h.exists_map (f := fun e => [Part.expr e]) (S := F.expr 0 0)
    fun h => by obtain ⟨he⟩ := h; exact ⟨_, rfl, he⟩
  have hread := hes.commaSeparated_run (r := g.expr) (d := d) (by decide) hrest
    fun e _ ts rest he hrest => hg.read_expr he (follows_of_ends hrest (by decide) hkeys) le_rfl
  rw [exprList, bind_of_ok hread]
  rfl

lemma orderItem_run (hg : F.Reads g d) (h : IsOrderItem F ps ts)
    (hrest : IsAhead [",", ")"] ["LIMIT", "OFFSET"] rest) :
    orderItem g d (ts ++ rest) = .ok (ps, rest) := by
  have hnulls := fun ks => hrest.keywords (d := d) (k := "NULLS") ks (by decide)
  have hdirection : ∀ {k : String} {e : Expr} {ts : List Token}, F.expr 0 0 e ts →
      k ∈ ["ASC", "DESC"] →
      orderItem g d (ts ++ [key k] ++ rest) = .ok ([.expr e, .text (" " ++ k)], rest) := by
    intro k e ts he hk
    have hends : Follows 0 (key k :: rest) :=
      follows_of_ends (.word_cons hk : IsAhead [] ["ASC", "DESC"] _) (by decide) (by decide)
    have hread := hg.read_expr he hends le_rfl
    have hone : Parser.oneOf ["ASC", "DESC"] d (key k :: rest) = .ok (some k, rest) := by
      simp only [Parser.oneOf, key, List.contains_eq_mem, hk, decide_true, if_true]
    rw [List.append_assoc]
    simp [orderItem, bind_run, Grammar.expr, hread, hone, hnulls, pure_run]
  cases h with
  | plain he =>
    have hread := hg.read_expr he (follows_of_ends hrest (by decide) (by decide)) le_rfl
    have hnone := hrest.oneOf (d := d) ["ASC", "DESC"] (by decide)
    simp [orderItem, bind_run, Grammar.expr, hread, hnone, hnulls, pure_run]
  | asc he => exact hdirection he (by simp)
  | desc he => exact hdirection he (by simp)

lemma orderItems_run (hg : F.Reads g d) (h : IsList (IsOrderItem F) ps ts)
    (hrest : IsAhead [")"] ["LIMIT", "OFFSET"] rest) :
    orderItems g d (ts ++ rest) = .ok (ps, rest) := by
  obtain ⟨h⟩ := h
  have hread := h.commaSeparated_run (r := orderItem g) (d := d) (by decide) hrest
    fun _ _ _ _ hitem hrest => orderItem_run hg hitem hrest
  rw [orderItems, bind_of_ok hread]
  rfl

end SemanticQuery.Sql.Plain
