import SemanticQuery.Proofs.Sql.Conjunct

/-!
# Tidy trees

An expression is tidy if no `AND` anywhere in it joins an open `OR`. Of a well-joined condition only
what `AND` and parentheses reach is looked at; here every query and every call inside is looked at
too.
-/

namespace SemanticQuery.Sql

/-! ### Expressions -/

/-- The expression is an `OR`. -/
def Expr.isOr : Expr → Bool
  | .binary .or _ _ => true
  | _ => false

/-- The expression is no `AND` with an `OR` beside it. -/
def Expr.JoinsClosed : Expr → Prop
  | .binary .and left right => left.isOr = false ∧ right.isOr = false
  | _ => True

/-- No `AND` in the expression, at any depth, has an `OR` without parentheses beside it. -/
def Expr.IsTidy (e : Expr) : Prop := ∀ x ∈ e.subexprs, x.JoinsClosed

namespace Expr

lemma joinsClosed_of_ne_and {e : Expr} (h : ∀ left right, e ≠ .binary .and left right) :
    e.JoinsClosed := by
  unfold JoinsClosed
  split
  · exact absurd rfl (h _ _)
  · trivial

lemma isTidy_iff {e : Expr} : e.IsTidy ↔ e.JoinsClosed ∧ ∀ x ∈ e.children, x.IsTidy :=
  forall_subexprs_iff

lemma isTidy_iff_children {e : Expr} (h : ∀ left right, e ≠ .binary .and left right) :
    e.IsTidy ↔ ∀ x ∈ e.children, x.IsTidy := by
  rw [isTidy_iff, and_iff_right (joinsClosed_of_ne_and h)]

lemma isOr_eq_false_of_hasOpenOr {e : Expr} (h : e.hasOpenOr = false) : e.isOr = false := by
  unfold isOr
  split
  · simp [hasOpenOr] at h
  · rfl

/-- In a tidy expression no `OR` is open but the expression itself. -/
lemma IsTidy.hasOpenOr_eq {e : Expr} (h : e.IsTidy) : e.hasOpenOr = e.isOr := by
  fun_induction Expr.hasOpenOr e with
  | case1 => rfl
  | case2 left right ihl ihr =>
    obtain ⟨⟨hleft, hright⟩, hchildren⟩ := isTidy_iff.mp h
    have hboth : left.IsTidy ∧ right.IsTidy := by simpa [children] using hchildren
    rw [ihl hboth.1, ihr hboth.2, hleft, hright]
    rfl
  | case3 e hor _ =>
    symm
    unfold isOr
    split
    · exact absurd rfl (hor _ _)
    · rfl

lemma IsTidy.isWellJoined {e : Expr} (h : e.IsTidy) : e.isWellJoined = true := by
  fun_induction Expr.isWellJoined e with
  | case1 left right ihl ihr =>
    obtain ⟨⟨hleft, hright⟩, hchildren⟩ := isTidy_iff.mp h
    have hboth : left.IsTidy ∧ right.IsTidy := by simpa [children] using hchildren
    simp [hboth.1.hasOpenOr_eq, hboth.2.hasOpenOr_eq, hleft, hright, ihl hboth.1, ihr hboth.2]
  | case2 inner ih =>
    have hinner : inner.IsTidy := by
      simpa [children] using (isTidy_iff.mp h).2
    exact ih hinner
  | case3 => rfl

lemma IsTidy.of_mem_subexprs {e x : Expr} (h : e.IsTidy) (hx : x ∈ e.subexprs) : x.IsTidy :=
  fun y hy => h y (mem_subexprs_trans hy hx)

/-- Parentheses around an open `OR` change nothing inside. -/
@[simp] lemma isTidy_closed {e : Expr} : e.closed.IsTidy ↔ e.IsTidy := by
  unfold closed
  split <;> simp [isTidy_iff_children, children]

end Expr

lemma KeepsJoints.isOr_mapExprs {f : Expr → Expr} (hf : KeepsJoints f) (e : Expr) :
    (e.mapExprs f).isOr = e.isOr := by
  cases hjoint : e.isJoint with
  | false =>
    have hmapped := hf.isJoint_mapExprs hjoint
    rw [Expr.isOr_eq_false_of_hasOpenOr (Expr.hasOpenOr_of_not_isJoint hmapped),
      Expr.isOr_eq_false_of_hasOpenOr (Expr.hasOpenOr_of_not_isJoint hjoint)]
  | true =>
    cases e with
    | binary op left right =>
      rw [hf.mapExprs_binary]
      cases op <;> rfl
    | nested inner =>
      rw [hf.mapExprs_nested]
      rfl
    | _ => exact absurd hjoint Bool.false_ne_true

/-- A map that keeps the joints and what is inside of expressions keeps a tree tidy. -/
lemma KeepsJoints.isTidy_mapExprs {f : Expr → Expr} (hf : KeepsJoints f)
    (hinner : ∀ e, (f e).inner = e.inner) {e : Expr} (h : e.IsTidy) : (e.mapExprs f).IsTidy := by
  refine Expr.forall_subexprs_mapExprs ?_ e h
  intro e he hinside x hx
  rw [Expr.subexprs, hinner, List.mem_cons, ← Expr.mapExprs_eq f] at hx
  rcases hx with rfl | hx
  · cases hjoint : e.isJoint with
    | false =>
      refine Expr.joinsClosed_of_ne_and fun left right heq => ?_
      have := hf.isJoint_mapExprs hjoint
      simp [heq, Expr.isJoint] at this
    | true =>
      cases e with
      | nested inner =>
        rw [hf.mapExprs_nested]
        trivial
      | binary op left right =>
        rw [hf.mapExprs_binary]
        cases op <;> simp_all [Expr.JoinsClosed, hf.isOr_mapExprs]
      | _ => exact absurd hjoint Bool.false_ne_true
  · exact hinside x hx

end SemanticQuery.Sql
