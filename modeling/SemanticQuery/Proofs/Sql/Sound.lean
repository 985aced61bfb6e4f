import SemanticQuery.Proofs.Sql.Tidy
import SemanticQuery.Sql.Parser.Grammar

/-!
# Sound trees

Two things hold of every expression that is read, whatever form it stands in: no `AND` has an `OR`
beside it, and a number is written as numbers are. Both are told of the expression itself, so an
expression is sound if they hold of all its subexpressions.
-/

namespace SemanticQuery.Sql

/-! ### Expressions -/

/-- The text of a number starts with a digit or a point. -/
def IsNumeral (digits : String) : Prop :=
  ∃ c, digits.toList.head? = some c ∧ (c.isDigit = true ∨ c = '.')

/-- The literal is no number, or one that is written like a number. -/
@[simp] def Literal.IsWritten : Literal → Prop
  | .number digits _ => IsNumeral digits
  | _ => True

/-- The expression is no literal, or one that is written as it should be. -/
def Expr.IsWritten : Expr → Prop
  | .literal value => value.IsWritten
  | _ => True

/-- No `AND` in the expression has an `OR` beside it, and all numbers in it are written like
numbers. -/
def Expr.IsSound (e : Expr) : Prop := ∀ x ∈ e.subexprs, x.JoinsClosed ∧ x.IsWritten

/-- The expressions are all sound. -/
def Sound (es : List Expr) : Prop := ∀ e ∈ es, e.IsSound

@[simp] lemma sound_nil : Sound [] := by simp [Sound]

@[simp] lemma sound_cons {e : Expr} {es : List Expr} : Sound (e :: es) ↔ e.IsSound ∧ Sound es := by
  simp [Sound]

@[simp] lemma sound_append {es es' : List Expr} : Sound (es ++ es') ↔ Sound es ∧ Sound es' := by
  simp [Sound, or_imp, forall_and]

@[simp] lemma sound_toList {e : Option Expr} : Sound e.toList ↔ ∀ x ∈ e, x.IsSound := by
  simp [Sound]

@[simp] lemma sound_flatMap {α : Type} {f : α → List Expr} {as : List α} :
    Sound (as.flatMap f) ↔ ∀ a ∈ as, Sound (f a) := by
  simp only [Sound, List.mem_flatMap]
  exact ⟨fun h a ha e he => h e ⟨a, ha, he⟩, fun h e ⟨a, ha, he⟩ => h a ha e he⟩

namespace Expr

lemma isWritten_of_ne_literal {e : Expr} (h : ∀ value, e ≠ .literal value) : e.IsWritten := by
  unfold IsWritten
  split
  · exact absurd rfl (h _)
  · trivial

lemma isSound_iff {e : Expr} :
    e.IsSound ↔ (e.JoinsClosed ∧ e.IsWritten) ∧ Sound e.children :=
  forall_subexprs_iff

lemma isSound_iff_children {e : Expr} (hand : ∀ left right, e ≠ .binary .and left right)
    (hliteral : ∀ value, e ≠ .literal value) : e.IsSound ↔ Sound e.children := by
  rw [isSound_iff, and_iff_right ⟨joinsClosed_of_ne_and hand, isWritten_of_ne_literal hliteral⟩]

/-- A well-joined expression is sound if everything inside it is. -/
lemma isSound_of_isWellJoined {e : Expr} (hwell : e.isWellJoined = true) (hwritten : e.IsWritten)
    (h : Sound e.children) : e.IsSound := by
  refine isSound_iff.mpr ⟨⟨?_, hwritten⟩, h⟩
  unfold JoinsClosed
  split
  next left right =>
    obtain ⟨hleft, hright, -⟩ := (isWellJoined_and left right).mp hwell
    exact ⟨isOr_eq_false_of_hasOpenOr hleft, isOr_eq_false_of_hasOpenOr hright⟩
  next => trivial

lemma IsSound.isTidy {e : Expr} (h : e.IsSound) : e.IsTidy := fun x hx => (h x hx).1

variable {e : Expr}

@[simp] lemma isSound_name (ident : Ident) : (Expr.name ident).IsSound := by
  simp [isSound_iff_children, children]

@[simp] lemma isSound_path (parts : List Ident) : (Expr.path parts).IsSound := by
  simp [isSound_iff_children, children]

@[simp] lemma isSound_literal (value : Literal) :
    (Expr.literal value).IsSound ↔ value.IsWritten := by
  simp [isSound_iff, JoinsClosed, IsWritten, children]

@[simp] lemma isSound_nested : (Expr.nested e).IsSound ↔ e.IsSound := by
  simp [isSound_iff_children, children]

@[simp] lemma isSound_unary (op : UnaryOp) : (Expr.unary op e).IsSound ↔ e.IsSound := by
  simp [isSound_iff_children, children]

@[simp] lemma isSound_inList (negated : Bool) (items : List Expr) :
    (Expr.inList negated e items).IsSound ↔ e.IsSound ∧ Sound items := by
  simp [isSound_iff_children, children]

@[simp] lemma isSound_like (negated any : Bool) (pattern : Expr) (escape : Option String) :
    (Expr.like negated any e pattern escape).IsSound ↔ e.IsSound ∧ pattern.IsSound := by
  simp [isSound_iff_children, children]

@[simp] lemma isSound_between (negated : Bool) (low high : Expr) :
    (Expr.between negated e low high).IsSound ↔ e.IsSound ∧ low.IsSound ∧ high.IsSound := by
  simp [isSound_iff_children, children]

@[simp] lemma isSound_cast (form : CastForm) (target : String) :
    (Expr.cast form e target).IsSound ↔ e.IsSound := by
  simp [isSound_iff_children, children]

@[simp] lemma isSound_trim (side : Option String) (removed : Option Expr) :
    (Expr.trim side e removed).IsSound ↔ e.IsSound ∧ ∀ x ∈ removed, x.IsSound := by
  simp [isSound_iff_children, children]

@[simp] lemma isSound_call (c : Call) : (Expr.call c).IsSound ↔ Sound c.children := by
  simp [isSound_iff_children, children]

@[simp] lemma isSound_phrase (parts : List Part) :
    (Expr.phrase parts).IsSound ↔ Sound (partsChildren parts) := by
  simp [isSound_iff_children, children]

end Expr

/-! ### Sound phrases -/

attribute [simp] partsChildren Part.children Call.children Query.children Body.children
  Select.children SelectItem.children itemsChildren

@[simp] lemma Argument.children_positional (e : Expr) :
    (Argument.positional e).children = [e] := rfl

@[simp] lemma Argument.children_named (parameter : Ident) (sign : String) (e : Expr) :
    (Argument.named parameter sign e).children = [e] := rfl

@[simp] lemma Argument.children_wildcard (text : String) :
    (Argument.wildcard text).children = [] := rfl

@[simp] lemma partsChildren_append (ps ps' : List Part) :
    partsChildren (ps ++ ps') = partsChildren ps ++ partsChildren ps' := by
  induction ps with
  | nil => rfl
  | cons p ps ih => simp [ih]

@[simp] lemma sound_commaParts (pss : List (List Part)) :
    Sound (partsChildren (commaParts pss)) ↔ ∀ ps ∈ pss, Sound (partsChildren ps) := by
  fun_induction commaParts pss <;> simp_all

@[simp] lemma sound_exprParts (es : List Expr) :
    Sound (partsChildren (exprParts es)) ↔ Sound es := by
  rw [exprParts, sound_commaParts]
  simp [Sound]

lemma itemsChildren_eq (is : List SelectItem) :
    itemsChildren is = is.flatMap SelectItem.children := by
  induction is with
  | nil => rfl
  | cons i is ih => simp [ih]

end SemanticQuery.Sql
