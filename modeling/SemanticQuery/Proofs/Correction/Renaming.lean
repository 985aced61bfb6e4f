import SemanticQuery.Correction.Renaming
import SemanticQuery.Proofs.Sql.Conjunct
import SemanticQuery.Proofs.Sql.Printer

/-!
# Laws of renaming

Renaming changes strings and nothing else, so it keeps operators, parentheses and with them the
conjuncts of a condition. Where no stored value is itself a name that is renamed, a renamed tree
has nothing left to rename.
-/

namespace SemanticQuery

/-- No stored value is a name that is renamed itself. -/
def Renaming.IsSettled (r : Renaming) : Prop :=
  ∀ name stored, r.lookup name = some stored → r.lookup stored = none

namespace Renaming

variable {r : Renaming}

lemma mem_of_lookup {name stored : String} (h : r.lookup name = some stored) :
    (name, stored) ∈ r := by
  obtain ⟨before, behind, rfl, -⟩ := List.lookup_eq_some_iff.mp h
  exact List.mem_append_right before List.mem_cons_self

/-- Renamings are settled if none of their stored values is renamed. -/
lemma isSettled_of_forall_mem (h : ∀ p ∈ r, r.lookup p.2 = none) : r.IsSettled :=
  fun _ _ hlookup => h _ (mem_of_lookup hlookup)

lemma isSome_lookup_getD (hr : r.IsSettled) (text : String) :
    (r.lookup ((r.lookup text).getD text)).isSome = false := by
  cases hlookup : r.lookup text with
  | none => simp [hlookup]
  | some stored => simp [hr text stored hlookup]

end Renaming

namespace Sql

variable {r : Renaming}

/-! ### One expression -/

namespace Expr

lemma keepsJoints_renameHere (r : Renaming) : KeepsJoints (renameHere r) where
  joint e h := by
    cases e with
    | binary | nested => rfl
    | _ => simp [isJoint] at h
  leaf e h := by
    cases e with
    | literal value => cases value <;> rfl
    | binary | nested => simp [isJoint] at h
    | _ => rfl

lemma inner_renameHere (r : Renaming) (e : Expr) : (e.renameHere r).inner = e.inner := by
  match e with
  | .literal value => cases value <;> rfl
  | .name _ | .path _ | .nested _ | .unary _ _ | .binary _ _ _ | .inList _ _ _ | .like _ _ _ _ _
  | .between _ _ _ _ | .cast _ _ _ | .trim _ _ _ | .call _ | .phrase _ => rfl

lemma renameHere_of_not_isRenamed {e : Expr} (h : e.isRenamed r = false) :
    e.renameHere r = e := by
  match e with
  | .literal (.single text) | .literal (.double text) =>
    simp only [isRenamed, Option.isSome_eq_false_iff, Option.isNone_iff_eq_none] at h
    simp [renameHere, h]
  | .literal (.number _ _) | .literal (.national _) | .literal (.hex _) | .literal (.bytes _ _)
  | .literal (.boolean _) | .literal .null | .literal (.placeholder _) => rfl
  | .name _ | .path _ | .nested _ | .unary _ _ | .binary _ _ _ | .inList _ _ _ | .like _ _ _ _ _
  | .between _ _ _ _ | .cast _ _ _ | .trim _ _ _ | .call _ | .phrase _ => rfl

lemma isRenamed_renameHere (hr : r.IsSettled) (e : Expr) :
    (e.renameHere r).isRenamed r = false := by
  match e with
  | .literal (.single text) | .literal (.double text) => exact Renaming.isSome_lookup_getD hr text
  | .literal (.number _ _) | .literal (.national _) | .literal (.hex _) | .literal (.bytes _ _)
  | .literal (.boolean _) | .literal .null | .literal (.placeholder _) => rfl
  | .name _ | .path _ | .nested _ | .unary _ _ | .binary _ _ _ | .inList _ _ _ | .like _ _ _ _ _
  | .between _ _ _ _ | .cast _ _ _ | .trim _ _ _ | .call _ | .phrase _ => rfl

/-! ### Whole trees -/

lemma establishes_not_isRenamed (hr : r.IsSettled) :
    Establishes (renameHere r) (fun _ => True) (fun e => e.isRenamed r = false) := by
  intro e _ hinner x hx
  rw [subexprs, inner_renameHere, List.mem_cons] at hx
  rcases hx with rfl | hx
  · exact isRenamed_renameHere hr (e.mapInner (renameHere r))
  · exact hinner x hx

/-- A renamed expression has no string left that is renamed. -/
lemma not_isRenamed_of_mem_rename (hr : r.IsSettled) (e : Expr) :
    ∀ x ∈ (e.rename r).subexprs, x.isRenamed r = false :=
  forall_subexprs_mapExprs (establishes_not_isRenamed hr) e fun _ _ => trivial

lemma rename_eq_self {e : Expr} (h : ∀ x ∈ e.subexprs, x.isRenamed r = false) :
    e.rename r = e :=
  mapExprs_eq_self e fun x hx => renameHere_of_not_isRenamed (h x hx)

lemma quote_mem_print_of_isRenamed {e : Expr} (h : e.isRenamed r = true) :
    '\'' ∈ e.print.toList ∨ '"' ∈ e.print.toList := by
  match e with
  | .literal (.single text) => exact .inl (by simp [print, Literal.print, quoteText])
  | .literal (.double text) => exact .inr (by simp [print, Literal.print, quoteText])
  | .literal (.number _ _) | .literal (.national _) | .literal (.hex _) | .literal (.bytes _ _)
  | .literal (.boolean _) | .literal .null | .literal (.placeholder _)
  | .name _ | .path _ | .nested _ | .unary _ _ | .binary _ _ _ | .inList _ _ _ | .like _ _ _ _ _
  | .between _ _ _ _ | .cast _ _ _ | .trim _ _ _ | .call _ | .phrase _ =>
    simp [isRenamed] at h

/-- An expression that prints without quotes has no string to rename. -/
lemma rename_eq_self_of_print {e : Expr} (hsingle : '\'' ∉ e.print.toList)
    (hdouble : '"' ∉ e.print.toList) : e.rename r = e := by
  refine rename_eq_self fun x hx => Bool.eq_false_iff.mpr fun h => ?_
  rcases quote_mem_print_of_isRenamed h with hquote | hquote
  · exact hsingle (mem_print_of_mem_subexprs hx hquote)
  · exact hdouble (mem_print_of_mem_subexprs hx hquote)

lemma rename_rename (hr : r.IsSettled) (e : Expr) : (e.rename r).rename r = e.rename r :=
  rename_eq_self (not_isRenamed_of_mem_rename hr e)

end Expr

namespace Statement

lemma not_isRenamed_of_mem_rename (hr : r.IsSettled) (s : Statement) :
    ∀ x ∈ (s.rename r).subexprs, x.isRenamed r = false :=
  forall_subexprs_mapExprs (Expr.establishes_not_isRenamed hr) s fun _ _ => trivial

lemma rename_eq_self {s : Statement} (h : ∀ x ∈ s.subexprs, x.isRenamed r = false) :
    s.rename r = s :=
  mapExprs_eq_self s fun x hx => Expr.renameHere_of_not_isRenamed (h x hx)

lemma renamedCount_eq_zero_iff {s : Statement} :
    s.renamedCount r = 0 ↔ ∀ x ∈ s.subexprs, x.isRenamed r = false := by
  simp [renamedCount, List.countP_eq_zero]

lemma renamedCount_rename (hr : r.IsSettled) (s : Statement) : (s.rename r).renamedCount r = 0 :=
  renamedCount_eq_zero_iff.mpr (not_isRenamed_of_mem_rename hr s)

end Statement

end Sql

end SemanticQuery
