import SemanticQuery.Correction.DefaultDate
import SemanticQuery.Proofs.Number.Decimal
import SemanticQuery.Proofs.Sql.Parser.Comparison
import SemanticQuery.Proofs.Sql.Plain.Mapping

/-!
# Joined plain conditions

A plain condition may stand before an `AND` unless an `OR` is open in it, and parentheses close any
`OR`. So conditions that are joined behind parentheses, where these are needed, are plain again.
-/

namespace SemanticQuery.Sql.Plain

open Correction

variable {F : Forms} {p q d : Nat} {left e : Expr} {ts : List Token}

/-! ### Operators behind an expression -/

/-- An expression may stand before any operator that binds no tighter than its own operators do. -/
def Forms.Precedes (F : Forms) : Prop :=
  ∀ {p q k e ts}, F.expr p q e ts → k ≤ p → k ≤ Power.not → F.expr p k e ts

/-- Every operator but `OR` binds as tightly as `AND`. -/
lemma IsTail.and_le (h : IsTail F q left power e ts) (hopen : e.hasOpenOr = false) :
    Power.and ≤ power := by
  cases h with
  | @binary op power t right _ hop _ _ =>
    have hall : ∀ o ∈ operators, o.1 = .or ∨ Power.and ≤ o.2.1 := by decide
    rcases hall _ hop with hor | hand
    · obtain rfl : op = .or := hor
      cases hopen
    · exact hand
  | inList _ | inQuery _ | like _ _ | between _ _ _ | is _ => decide

/-- What compares a column binds tighter than `AND`. -/
lemma IsTail.exists_name (h : IsTail F q left power e ts) {name : String}
    (hname : e.comparedName? = some name) : (∃ i, left = .name i) ∧ Power.and < power := by
  unfold Expr.comparedName? at hname
  split at hname
  next op column right =>
    cases h with
    | binary hop _ _ =>
      have hall : ∀ o ∈ operators, o.1 = .or ∨ o.1 = .and ∨ Power.and < o.2.1 := by decide
      rcases hall _ hop with hor | hand | hpower
      · cases hor
      · cases hand
      · exact ⟨⟨_, rfl⟩, hpower⟩
  next =>
    cases h with
    | inList _ => exact ⟨⟨_, rfl⟩, by decide⟩
  next =>
    cases h with
    | like _ _ => exact ⟨⟨_, rfl⟩, by decide⟩
  next => cases hname

lemma IsExpression.term_of_name {i : Ident} (h : IsExpression F p q (.name i) ts) :
    IsTerm F (.name i) ts := by
  cases h with
  | term hi => exact hi
  | tail _ htail _ => cases htail

section

variable (hF : F.Precedes) {k power : Nat}
include hF

lemma IsTail.precedes (h : IsTail F q left power e ts) (hpower : k ≤ power) (hk : k ≤ Power.not) :
    IsTail F k left power e ts := by
  cases h with
  | binary hop _ hright => exact .binary hop hpower (hF hright hpower hk)
  | inList hitems => exact .inList hitems
  | inQuery hs => exact .inQuery hs
  | like _ hpattern => exact .like hpower (hF hpattern hpower hk)
  | between _ hlow hhigh => exact .between hpower hlow (hF hhigh hpower hk)
  | is hform => exact .is hform

lemma IsExpression.precedes (h : IsExpression F p q e ts) (hp : k ≤ p) (hk : k ≤ Power.not) :
    IsExpression F p k e ts := by
  cases h with
  | term he => exact .term he
  | sign hop _ he => exact .sign hop (hk.trans (by decide)) he
  | not _ he => exact .not hk (hF he hk hk)
  | existence hpower hx => exact .existence hpower hx
  | tail hleft htail hpower =>
    exact .tail hleft (htail.precedes hF (hp.trans hpower.le) hk) hpower

/-- Unless an `OR` is open in it, an expression may stand before an `AND`. -/
lemma IsExpression.precedes_and (h : IsExpression F 0 q e ts) (hopen : e.hasOpenOr = false) :
    IsExpression F 0 Power.and e ts := by
  cases h with
  | term he => exact .term he
  | sign hop _ he => exact .sign hop (by decide) he
  | not _ he => exact .not (by decide) (hF he (by decide) (by decide))
  | existence hpower hx => exact .existence hpower hx
  | tail hleft htail hpower =>
    exact .tail hleft (htail.precedes hF (htail.and_le hopen) (by decide)) hpower

/-- A condition on a column may stand behind an `AND` and before one. -/
lemma IsExpression.precedes_of_comparedName? {name : String} (h : IsExpression F 0 q e ts)
    (hname : e.comparedName? = some name) (hp : p ≤ Power.and) :
    IsExpression F p Power.and e ts := by
  cases h with
  | term he => cases he <;> cases hname
  | sign _ _ _ => cases hname
  | not _ _ => cases hname
  | existence _ _ => cases hname
  | tail hleft htail _ =>
    obtain ⟨⟨i, rfl⟩, hand⟩ := htail.exists_name hname
    exact .tail (.term hleft.term_of_name) (htail.precedes hF hand.le (by decide))
      (hp.trans_lt hand)

end

lemma precedes_level (d : Nat) : (level d).Precedes := by
  induction d with
  | zero => exact fun h => h.elim
  | succ d ih => exact fun h => h.precedes ih

/-! ### Conditions -/

lemma expr_and_of_not_open (h : (level d).expr 0 0 e ts) (hopen : e.hasOpenOr = false) :
    (level d).expr 0 Power.and e ts := by
  match d with
  | d + 1 => exact h.precedes_and (precedes_level d) hopen

lemma expr_of_comparedName? {name : String} (h : (level d).expr 0 0 e ts)
    (hname : e.comparedName? = some name) (hp : p ≤ Power.and) :
    (level d).expr p Power.and e ts := by
  match d with
  | d + 1 => exact h.precedes_of_comparedName? (precedes_level d) hname hp

/-- In parentheses, or closed without them, a condition may stand before an `AND`. -/
lemma exists_expr_closed (h : (level d).expr 0 0 e ts) :
    ∃ us, (level (d + 1)).expr 0 Power.and e.closed us := by
  unfold Expr.closed
  split_ifs with hopen
  · exact ⟨_, .term (.nested h)⟩
  · exact expr_level_add (expr_and_of_not_open h (Bool.eq_false_iff.mpr hopen)) 1

lemma exists_expr_parenthesized (h : (level d).expr 0 0 e ts) :
    ∃ us, (level (d + 1)).expr 0 Power.and (parenthesized e) us := by
  unfold parenthesized
  split
  · exact expr_level_add (expr_and_of_not_open h rfl) 1
  · exact ⟨_, .term (.nested h)⟩

/-- A condition that may stand before an `AND`, and one that may stand behind it. -/
lemma expr_conj {us : List Token} (hleft : (level (d + 1)).expr 0 Power.and left ts)
    (he : (level d).expr Power.and Power.and e us) :
    (level (d + 1)).expr 0 Power.and (left.conj e) (ts ++ key "AND" :: us) :=
  .tail hleft (.binary (by simp [operators]) le_rfl he) (by decide)

/-- The condition that a column is tested keeps to plain forms. -/
structure IsPlainTest (d : Nat) (e : Expr) : Prop where
  compares : ∃ name, e.comparedName? = some name
  plain : ∃ ts, (level d).expr 0 0 e ts

lemma IsPlainTest.expr (h : IsPlainTest d e) (hp : p ≤ Power.and) :
    ∃ ts, (level d).expr p Power.and e ts := by
  obtain ⟨⟨name, hname⟩, ts, h⟩ := h
  exact ⟨ts, expr_of_comparedName? h hname hp⟩

lemma exists_expr_compare {op : Comparison} {i : Ident} {t : Token} {right : Expr} (hi : IsName i t)
    (hp : p < Power.compare) (hq : q ≤ Power.compare)
    (hright : (level d).expr Power.compare q right ts) :
    ∃ us, (level (d + 1)).expr p q (.binary (.compare op) (.name i) right) us := by
  obtain ⟨u, hop⟩ : ∃ u, (BinaryOp.compare op, Power.compare, u) ∈ operators := by
    cases op <;> exact ⟨_, by simp [operators]; rfl⟩
  exact ⟨_, .tail (.term (.name hi)) (.binary hop hq hright) hp⟩

lemma exists_expr_numeral (i : Int) (hq : q ≤ Power.multiply) :
    ∃ us, (level (d + 2)).expr p q (.numeral i) us := by
  have hnumber : ∀ n : Nat, ∃ t, IsLiteral (.number (toString n) false) t := by
    intro n
    obtain ⟨hne, hdigits⟩ := Number.digits_toString n
    exact ⟨_, .number ⟨_, [], (List.append_nil _).symm, hne, hdigits, .inl rfl⟩⟩
  cases i with
  | ofNat n =>
    obtain ⟨t, hv⟩ := hnumber n
    exact ⟨_, .term (.literal hv)⟩
  | negSucc n =>
    obtain ⟨t, hv⟩ := hnumber (n + 1)
    exact ⟨_, .sign (by simp; rfl) hq (.literal hv)⟩

lemma exists_expr_numberIs {name : String} {t : Token} (hname : IsName ⟨name, none⟩ t)
    (hp : p < Power.compare) (hq : q ≤ Power.compare) (i : Int) :
    ∃ us, (level (d + 3)).expr p q (.numberIs name i) us := by
  obtain ⟨us, hi⟩ := exists_expr_numeral (p := Power.compare) (d := d) i (hq.trans (by decide))
  exact exists_expr_compare hname hp hq hi

lemma exists_expr_columnIs {name : String} {t : Token} (hname : IsName ⟨name, none⟩ t)
    (hp : p < Power.compare) (hq : q ≤ Power.compare) (text : String) :
    ∃ us, (level (d + 2)).expr p q (.columnIs name text) us := by
  have htext : (level (d + 1)).expr Power.compare q (.literal (.single text)) [.single text] :=
    .term (.literal (.single text))
  exact exists_expr_compare hname hp hq htext

lemma exists_expr_joined {condition : Option Expr} {es : List Expr}
    (hcondition : ∀ k ∈ condition, ∃ ts, (level (d + 1)).expr 0 Power.and k ts)
    (hes : ∀ k ∈ es, IsPlainTest d k) :
    ∀ k ∈ joined condition es, ∃ ts, (level (d + 1)).expr 0 Power.and k ts := by
  induction es generalizing condition with
  | nil => simpa [joined] using hcondition
  | cons e es ih =>
    obtain ⟨he, hes⟩ := List.forall_mem_cons.mp hes
    cases condition with
    | none =>
      obtain ⟨ts, he⟩ := he.expr (Nat.zero_le Power.and)
      refine ih (fun k hk => ?_) hes
      obtain rfl : e = k := Option.some.inj hk
      exact expr_level_add he 1
    | some left =>
      obtain ⟨ts, hleft⟩ := hcondition left rfl
      obtain ⟨us, he⟩ := he.expr le_rfl
      refine ih (fun k hk => ?_) hes
      obtain rfl : left.conj e = k := Option.some.inj hk
      exact ⟨_, expr_conj hleft he⟩

lemma exists_expr_alsoHolds {condition : Option Expr}
    (hcondition : ∀ k ∈ condition, ∃ ts, (level d).expr 0 0 k ts) (he : IsPlainTest d e) :
    ∃ ts, (level (d + 1)).expr 0 0 (alsoHolds condition e) ts := by
  cases condition with
  | none =>
    obtain ⟨ts, he⟩ := he.plain
    exact expr_level_add he 1
  | some k =>
    obtain ⟨ts, hk⟩ := hcondition k rfl
    obtain ⟨us, hk⟩ := exists_expr_parenthesized hk
    obtain ⟨vs, he⟩ := he.expr le_rfl
    have hconj : IsExpression (level d) 0 Power.and _ _ := expr_conj hk he
    exact ⟨_, hconj.precedes (precedes_level d) le_rfl (by decide)⟩

/-! ### Statements -/

lemma IsStatement.add {s : Statement} (h : IsStatement d s) (n : Nat) : IsStatement (d + n) s := by
  obtain ⟨hs, x, ts, rfl, h⟩ := h
  obtain ⟨us, h⟩ := query_level_add h n
  exact ⟨hs, x, us, rfl, h⟩

lemma IsStatement.mapExprs {f : Expr → Expr} {s : Statement} (hf : KeepsForms f)
    (h : IsStatement d s) : IsStatement d (s.mapExprs f) := by
  obtain ⟨hs, x, ts, rfl, h⟩ := h
  obtain ⟨us, h⟩ := (maps_level hf d 0).query h
  refine ⟨?_, _, us, rfl, h⟩
  obtain ⟨opening, _ | _, closing⟩ := x
  · rfl
  · cases hs

lemma IsStatement.expr_of_mem_condition? {s : Statement} (h : IsStatement (d + 1) s) :
    ∀ k ∈ s.condition?, ∃ ts, (level d).expr 0 0 k ts := by
  obtain ⟨_, x, ts, rfl, ⟨_, ⟨_, _, _, hcondition, _, _⟩ | _, _, _, _⟩⟩ := h
  swap
  · exact nofun
  intro k hk
  cases hcondition with
  | none => cases hk
  | some he =>
    obtain rfl := Option.some.inj hk
    exact ⟨_, he⟩

/-- A plain statement keeps to plain forms with another plain condition. -/
lemma IsStatement.withCondition {s : Statement} {condition : Option Expr} {n : Nat}
    (h : IsStatement (d + 1) s)
    (hcondition : ∀ k ∈ condition, ∃ ts, (level (d + n)).expr 0 0 k ts) :
    IsStatement (d + n + 1) (s.withCondition condition) := by
  obtain ⟨hs, x, ts, rfl, h⟩ := h
  obtain ⟨us, ⟨hopening, ⟨hquantifier, hitems, hsource, -, hgroup, hhaving⟩ | _, horder, hlimit,
      hoffset⟩⟩ : ∃ us, IsQuery (level (d + n)) x us := by
    have hadd := query_level_add h n
    rwa [Nat.add_right_comm] at hadd
  swap
  · cases hs
  obtain ⟨vs, hcondition⟩ : ∃ vs, IsCondition (level (d + n)) condition vs := by
    cases condition with
    | none => exact ⟨_, .none⟩
    | some k =>
      obtain ⟨vs, hk⟩ := hcondition k rfl
      exact ⟨_, .some hk⟩
  have hselection := IsSelection.mk hquantifier hitems hsource hcondition hgroup hhaving
  exact ⟨rfl, _, _, rfl, .mk hopening (.select hselection) horder hlimit hoffset⟩

end SemanticQuery.Sql.Plain
