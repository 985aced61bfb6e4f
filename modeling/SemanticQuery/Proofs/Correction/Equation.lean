import SemanticQuery.Proofs.Correction.DateDifference
import SemanticQuery.Proofs.Correction.Renaming
import SemanticQuery.Proofs.Sql.Parser.Comparison

/-!
# Equations under maps

Renaming changes strings, and making differences of dates executable changes calls. Neither leaves a
name, a number or an operator that was not there, so the equation of a column and a number comes
from itself alone.
-/

namespace SemanticQuery.Sql

/-- Whether an expression is a name, a number or an operator with its operands. -/
def Expr.isPlain : Expr → Bool
  | .name _ | .literal (.number _ _) | .unary _ _ | .binary _ _ _ => true
  | _ => false

/-- A map that leaves names, numbers and operators alone and makes none of anything else. -/
structure KeepsPlain (f : Expr → Expr) : Prop where
  plain : ∀ e, e.isPlain = true → f e = e
  other : ∀ e, e.isPlain = false → (f e).isPlain = false

namespace KeepsPlain

variable {f : Expr → Expr} (hf : KeepsPlain f)
include hf

lemma mapExprs_eq_iff {e k : Expr} (he : e.isPlain = true) :
    k.mapExprs f = e ↔ k.mapInner f = e := by
  rw [Expr.mapExprs_eq]
  constructor
  · intro h
    have hplain : (k.mapInner f).isPlain = true := by
      by_contra hother
      have hfalse := hf.other _ (by simpa using hother)
      rw [h, he] at hfalse
      exact Bool.noConfusion hfalse
    rwa [hf.plain _ hplain] at h
  · rintro rfl
    exact hf.plain _ he

lemma mapExprs_eq_name_iff {k : Expr} {ident : Ident} :
    k.mapExprs f = .name ident ↔ k = .name ident := by
  rw [hf.mapExprs_eq_iff rfl]
  cases k <;> simp [Expr.mapInner]

lemma mapExprs_eq_number_iff {k : Expr} {digits : String} {long : Bool} :
    k.mapExprs f = .literal (.number digits long) ↔ k = .literal (.number digits long) := by
  rw [hf.mapExprs_eq_iff rfl]
  cases k <;> simp [Expr.mapInner]

lemma mapExprs_eq_numeral_iff {k : Expr} {i : Int} : k.mapExprs f = .numeral i ↔ k = .numeral i := by
  cases i with
  | ofNat n => exact hf.mapExprs_eq_number_iff
  | negSucc n =>
    rw [Expr.numeral, hf.mapExprs_eq_iff rfl]
    cases k <;> simp [Expr.mapInner, hf.mapExprs_eq_number_iff]

/-- Only an equation becomes the equation. -/
lemma mapExprs_eq_numberIs_iff {k : Expr} {column : String} {i : Int} :
    k.mapExprs f = .numberIs column i ↔ k = .numberIs column i := by
  rw [Expr.numberIs, hf.mapExprs_eq_iff rfl]
  cases k <;> simp [Expr.mapInner, hf.mapExprs_eq_name_iff, hf.mapExprs_eq_numeral_iff]

end KeepsPlain

namespace Expr

lemma keepsPlain_renameHere (r : Renaming) : KeepsPlain (renameHere r) where
  plain e h := by
    match e with
    | .name _ | .literal (.number _ _) | .unary _ _ | .binary _ _ _ => rfl
  other e h := by
    cases e with
    | literal value => cases value <;> simp_all [renameHere, isPlain]
    | _ => simp_all [renameHere, isPlain]

lemma keepsPlain_executableHere : KeepsPlain executableHere where
  plain e h := by
    match e with
    | .name _ | .literal (.number _ _) | .unary _ _ | .binary _ _ _ => rfl
  other e h := by
    cases e <;> simp_all [executableHere, isPlain]

lemma rename_numberIs (r : Renaming) (column : String) (i : Int) :
    (numberIs column i).rename r = numberIs column i :=
  (keepsPlain_renameHere r).mapExprs_eq_numberIs_iff.mpr rfl

end Expr

end SemanticQuery.Sql
