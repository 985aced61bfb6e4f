import Mathlib.Tactic.Common
import SemanticQuery.Correction.DefaultDate
import SemanticQuery.Proofs.Sql.Walk

/-!
# Laws of joined conditions

A condition is what its conjuncts say together. The laws here tell what becomes of the conjuncts
when a condition is put in parentheses, joined with others, or mapped, and which conditions
`missing` leaves out.

An `AND` that joins an open `OR` reads differently from how it is built: `a OR b AND c` prints both
`(a OR b) AND c` and `a OR (b AND c)` without their parentheses. Well-joined conditions have no such
`AND` where conjuncts are looked for.
-/

namespace SemanticQuery.Sql

/-! ### Conjuncts -/

/-- The conjuncts of a condition that may be missing. -/
def conjunctsOf : Option Expr → List Expr
  | none => []
  | some e => e.deepConjuncts

@[simp] lemma conjunctsOf_none : conjunctsOf none = [] := rfl

@[simp] lemma conjunctsOf_some (e : Expr) : conjunctsOf (some e) = e.deepConjuncts := rfl

/-- Whether an expression is built by an operator or by parentheses. -/
def Expr.isJoint : Expr → Bool
  | .binary _ _ _ => true
  | .nested _ => true
  | _ => false

/-- Whether no `AND` joins an open `OR`, as far as conjuncts are looked for. -/
def Expr.isWellJoined : Expr → Bool
  | .binary .and left right =>
    !left.hasOpenOr && !right.hasOpenOr && left.isWellJoined && right.isWellJoined
  | .nested inner => inner.isWellJoined
  | _ => true

/-- The condition of a statement is well joined, if it has one. -/
def Statement.IsWellJoined (s : Statement) : Prop := ∀ e ∈ s.condition?, e.isWellJoined

namespace Expr

lemma deepConjuncts_of_not_isJoint {e : Expr} (h : e.isJoint = false) : e.deepConjuncts = [e] := by
  cases e <;> simp_all [isJoint, deepConjuncts]

lemma hasOpenOr_of_not_isJoint {e : Expr} (h : e.isJoint = false) : e.hasOpenOr = false := by
  cases e <;> simp_all [isJoint, hasOpenOr]

lemma isWellJoined_of_not_isJoint {e : Expr} (h : e.isJoint = false) : e.isWellJoined = true := by
  cases e <;> simp_all [isJoint, isWellJoined]

@[simp] lemma deepConjuncts_and (left right : Expr) :
    (Expr.binary .and left right).deepConjuncts = left.deepConjuncts ++ right.deepConjuncts := rfl

@[simp] lemma deepConjuncts_conj (left right : Expr) :
    (left.conj right).deepConjuncts = left.deepConjuncts ++ right.deepConjuncts := rfl

@[simp] lemma hasOpenOr_and (left right : Expr) :
    (Expr.binary .and left right).hasOpenOr = (left.hasOpenOr || right.hasOpenOr) := rfl

@[simp] lemma hasOpenOr_conj (left right : Expr) :
    (left.conj right).hasOpenOr = (left.hasOpenOr || right.hasOpenOr) := rfl

@[simp] lemma hasOpenOr_nested (inner : Expr) : (Expr.nested inner).hasOpenOr = false := rfl

lemma isWellJoined_and (left right : Expr) :
    (Expr.binary .and left right).isWellJoined = true ↔
      left.hasOpenOr = false ∧ right.hasOpenOr = false ∧ left.isWellJoined = true ∧
        right.isWellJoined = true := by
  simp [isWellJoined, and_assoc]

@[simp] lemma isWellJoined_nested (inner : Expr) :
    (Expr.nested inner).isWellJoined = inner.isWellJoined := rfl

/-- The open `OR` of a well-joined condition stands at its top. -/
lemma eq_or_of_hasOpenOr {e : Expr} (hwell : e.isWellJoined = true) (hopen : e.hasOpenOr = true) :
    ∃ left right, e = .binary .or left right := by
  match e with
  | .binary .or left right => exact ⟨left, right, rfl⟩
  | .binary .and left right =>
    rw [isWellJoined_and] at hwell
    simp [hwell.1, hwell.2.1] at hopen
  | .binary (.compare _) _ _ | .binary (.other _) _ _ => simp [hasOpenOr] at hopen
  | .nested _ | .name _ | .path _ | .literal _ | .unary _ _ | .inList _ _ _ | .like _ _ _ _ _
  | .between _ _ _ _ | .cast _ _ _ | .trim _ _ _ | .call _ | .phrase _ =>
    simp [hasOpenOr] at hopen

lemma deepConjuncts_of_hasOpenOr {e : Expr} (hwell : e.isWellJoined = true)
    (hopen : e.hasOpenOr = true) : e.deepConjuncts = [e] := by
  obtain ⟨left, right, rfl⟩ := eq_or_of_hasOpenOr hwell hopen
  rfl

/-! ### Closing -/

@[simp] lemma hasOpenOr_closed (e : Expr) : e.closed.hasOpenOr = false := by
  unfold closed
  split <;> simp_all

@[simp] lemma isWellJoined_closed (e : Expr) : e.closed.isWellJoined = e.isWellJoined := by
  unfold closed
  split <;> rfl

lemma closed_of_not_hasOpenOr {e : Expr} (h : e.hasOpenOr = false) : e.closed = e := by
  simp [closed, h]

end Expr

open Correction

@[simp] lemma hasOpenOr_parenthesized (e : Expr) : (parenthesized e).hasOpenOr = false := by
  cases e <;> rfl

@[simp] lemma isWellJoined_parenthesized (e : Expr) :
    (parenthesized e).isWellJoined = e.isWellJoined := by
  cases e <;> rfl

lemma isWellJoined_alsoHolds {condition : Option Expr} {e : Expr}
    (hcondition : ∀ k ∈ condition, k.isWellJoined = true) (hopen : e.hasOpenOr = false)
    (hwell : e.isWellJoined = true) : (alsoHolds condition e).isWellJoined = true := by
  cases condition with
  | none => exact hwell
  | some k =>
    refine (Expr.isWellJoined_and _ _).mpr ⟨by simp, hopen, ?_, hwell⟩
    simpa using hcondition k rfl

/-! ### Joining -/

@[simp] lemma joined_nil (condition : Option Expr) : joined condition [] = condition := by
  cases condition <;> rfl

/-- More conditions behind a condition leave its conjuncts and add their own. -/
lemma conjunctsOf_joined (condition : Option Expr) (es : List Expr) :
    conjunctsOf (joined condition es) =
      conjunctsOf condition ++ es.flatMap Expr.deepConjuncts := by
  induction es generalizing condition with
  | nil => simp
  | cons e es ih => cases condition <;> simp [joined, ih]

lemma isWellJoined_joined {condition : Option Expr} {es : List Expr}
    (hcondition : ∀ k ∈ condition, k.hasOpenOr = false ∧ k.isWellJoined = true)
    (hes : ∀ e ∈ es, e.hasOpenOr = false ∧ e.isWellJoined = true) :
    ∀ k ∈ joined condition es, k.hasOpenOr = false ∧ k.isWellJoined = true := by
  induction es generalizing condition with
  | nil => simpa using hcondition
  | cons e es ih =>
    have he := hes e List.mem_cons_self
    have hrest : ∀ x ∈ es, x.hasOpenOr = false ∧ x.isWellJoined = true := fun x hx =>
      hes x (List.mem_cons_of_mem e hx)
    cases condition with
    | none =>
      have hfirst : ∀ k ∈ some e, k.hasOpenOr = false ∧ k.isWellJoined = true := by simpa using he
      exact ih hfirst hrest
    | some k =>
      have hk := hcondition k rfl
      have hfirst : ∀ x ∈ some (k.conj e), x.hasOpenOr = false ∧ x.isWellJoined = true := by
        simp only [Option.mem_some_iff, forall_eq']
        exact ⟨by simp [hk.1, he.1], (Expr.isWellJoined_and k e).mpr ⟨hk.1, he.1, hk.2, he.2⟩⟩
      exact ih hfirst hrest

/-! ### Missing conditions -/

lemma mem_of_mem_missing {present : List String} {es : List Expr} {e : Expr}
    (h : e ∈ missing present es) : e ∈ es ∧ e.print ∉ present := by
  induction es generalizing present with
  | nil => simp [missing] at h
  | cons x es ih =>
    rw [missing] at h
    split at h
    next _ =>
      have := ih h
      exact ⟨List.mem_cons_of_mem x this.1, this.2⟩
    next hx =>
      rcases List.mem_cons.mp h with rfl | h
      · exact ⟨List.mem_cons_self, by simpa using hx⟩
      · have := ih h
        exact ⟨List.mem_cons_of_mem x this.1, fun hp => this.2 (List.mem_cons_of_mem _ hp)⟩

/-- A condition is left out only for one that is present or added and that prints like it. -/
lemma print_mem_of_missing (present : List String) {es : List Expr} {e : Expr} (h : e ∈ es) :
    e.print ∈ present ∨ ∃ a ∈ missing present es, a.print = e.print := by
  induction es generalizing present with
  | nil => simp at h
  | cons x es ih =>
    rw [missing]
    split
    next hx =>
      rcases List.mem_cons.mp h with rfl | h
      · exact .inl (by simpa using hx)
      · exact ih present h
    next hx =>
      rcases List.mem_cons.mp h with rfl | h
      · exact .inr ⟨e, List.mem_cons_self, rfl⟩
      · rcases ih (x.print :: present) h with hp | ⟨a, ha, hprint⟩
        · rcases List.mem_cons.mp hp with hp | hp
          · exact .inr ⟨x, List.mem_cons_self, hp.symm⟩
          · exact .inl hp
        · exact .inr ⟨a, List.mem_cons_of_mem x ha, hprint⟩

lemma missing_eq_nil_iff {present : List String} {es : List Expr} :
    missing present es = [] ↔ ∀ e ∈ es, e.print ∈ present := by
  constructor
  · intro h e he
    rcases print_mem_of_missing present he with hp | ⟨a, ha, _⟩
    · exact hp
    · simp [h] at ha
  · intro h
    apply List.eq_nil_iff_forall_not_mem.mpr
    intro e he
    obtain ⟨hmem, hnot⟩ := mem_of_mem_missing he
    exact hnot (h e hmem)

/-! ### Maps that keep the joints -/

/-- A map that moves neither operators nor parentheses, and makes none of other forms. -/
structure KeepsJoints (f : Expr → Expr) : Prop where
  joint : ∀ e, e.isJoint = true → f e = e
  leaf : ∀ e, e.isJoint = false → (f e).isJoint = false

namespace KeepsJoints

variable {f : Expr → Expr} (hf : KeepsJoints f)
include hf

lemma mapExprs_binary (op : BinaryOp) (left right : Expr) :
    (Expr.binary op left right).mapExprs f = .binary op (left.mapExprs f) (right.mapExprs f) := by
  rw [Expr.mapExprs]
  exact hf.joint _ rfl

lemma mapExprs_nested (inner : Expr) :
    (Expr.nested inner).mapExprs f = .nested (inner.mapExprs f) := by
  rw [Expr.mapExprs]
  exact hf.joint _ rfl

lemma isJoint_mapExprs {e : Expr} (h : e.isJoint = false) : (e.mapExprs f).isJoint = false := by
  rw [Expr.mapExprs_eq]
  apply hf.leaf
  cases e <;> simp_all [Expr.isJoint, Expr.mapInner]

lemma hasOpenOr_mapExprs (e : Expr) : (e.mapExprs f).hasOpenOr = e.hasOpenOr := by
  fun_induction Expr.hasOpenOr e with
  | case1 => rw [hf.mapExprs_binary]; rfl
  | case2 left right ihl ihr => simp [hf.mapExprs_binary, ihl, ihr]
  | case3 e hor hand =>
    match e with
    | .binary (.compare _) _ _ | .binary (.other _) _ _ => rw [hf.mapExprs_binary]; rfl
    | .binary .or left right => exact absurd rfl (hor left right)
    | .binary .and left right => exact absurd rfl (hand left right)
    | .nested _ => simp [hf.mapExprs_nested]
    | .name _ | .path _ | .literal _ | .unary _ _ | .inList _ _ _ | .like _ _ _ _ _
    | .between _ _ _ _ | .cast _ _ _ | .trim _ _ _ | .call _ | .phrase _ =>
      exact Expr.hasOpenOr_of_not_isJoint (hf.isJoint_mapExprs rfl)

lemma deepConjuncts_mapExprs (e : Expr) :
    (e.mapExprs f).deepConjuncts = e.deepConjuncts.map (Expr.mapExprs f) := by
  fun_induction Expr.deepConjuncts e with
  | case1 left right ihl ihr => simp [hf.mapExprs_binary, ihl, ihr]
  | case2 inner hopen =>
    simp [hf.mapExprs_nested, Expr.deepConjuncts, hf.hasOpenOr_mapExprs, hopen]
  | case3 inner hopen ih =>
    simp [hf.mapExprs_nested, Expr.deepConjuncts, hf.hasOpenOr_mapExprs, hopen, ih]
  | case4 e hand hnested =>
    match e with
    | .binary (.compare _) _ _ | .binary (.other _) _ _ | .binary .or _ _ =>
      rw [hf.mapExprs_binary]
      simp [Expr.deepConjuncts, hf.mapExprs_binary]
    | .binary .and left right => exact absurd rfl (hand left right)
    | .nested inner => exact absurd rfl (hnested inner)
    | .name _ | .path _ | .literal _ | .unary _ _ | .inList _ _ _ | .like _ _ _ _ _
    | .between _ _ _ _ | .cast _ _ _ | .trim _ _ _ | .call _ | .phrase _ =>
      exact Expr.deepConjuncts_of_not_isJoint (hf.isJoint_mapExprs rfl)

lemma isWellJoined_mapExprs (e : Expr) : (e.mapExprs f).isWellJoined = e.isWellJoined := by
  fun_induction Expr.isWellJoined e with
  | case1 left right ihl ihr =>
    simp [hf.mapExprs_binary, Expr.isWellJoined, hf.hasOpenOr_mapExprs, ihl, ihr]
  | case2 inner ih => simp [hf.mapExprs_nested, ih]
  | case3 e hand hnested =>
    match e with
    | .binary (.compare _) _ _ | .binary (.other _) _ _ | .binary .or _ _ =>
      rw [hf.mapExprs_binary]
      rfl
    | .binary .and left right => exact absurd rfl (hand left right)
    | .nested inner => exact absurd rfl (hnested inner)
    | .name _ | .path _ | .literal _ | .unary _ _ | .inList _ _ _ | .like _ _ _ _ _
    | .between _ _ _ _ | .cast _ _ _ | .trim _ _ _ | .call _ | .phrase _ =>
      exact Expr.isWellJoined_of_not_isJoint (hf.isJoint_mapExprs rfl)

lemma conjunctsOf_map (condition : Option Expr) :
    conjunctsOf (condition.map (Expr.mapExprs f)) =
      (conjunctsOf condition).map (Expr.mapExprs f) := by
  cases condition <;> simp [hf.deepConjuncts_mapExprs]

end KeepsJoints

end SemanticQuery.Sql
