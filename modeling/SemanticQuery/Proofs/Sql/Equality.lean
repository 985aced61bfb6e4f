import Mathlib.Tactic.Common
import SemanticQuery.Sql.Tree

/-!
# Equality of trees

Whether two trees are equal can be decided. The comparison goes down both trees at once, so it can
be run on trees that were read from texts.
-/

namespace SemanticQuery.Sql

/-! ### Comparison -/

mutual

/-- Whether two expressions are the same. -/
def Expr.same : Expr → Expr → Bool
  | .name a, .name b => a == b
  | .path a, .path b => a == b
  | .literal a, .literal b => a == b
  | .nested a, .nested b => a.same b
  | .unary op a, .unary op' b => op == op' && a.same b
  | .binary op a a', .binary op' b b' => op == op' && a.same b && a'.same b'
  | .inList n a as, .inList n' b bs => n == n' && a.same b && exprsSame as bs
  | .like n y a p x, .like n' y' b p' x' =>
    n == n' && y == y' && a.same b && p.same p' && x == x'
  | .between n a l h, .between n' b l' h' => n == n' && a.same b && l.same l' && h.same h'
  | .cast f a t, .cast f' b t' => f == f' && a.same b && t == t'
  | .trim s a x, .trim s' b x' => s == s' && a.same b && optionSame x x'
  | .call a, .call b => a.same b
  | .phrase ps, .phrase qs => partsSame ps qs
  | _, _ => false

/-- Whether two lists of expressions are the same. -/
def exprsSame : List Expr → List Expr → Bool
  | [], [] => true
  | a :: as, b :: bs => a.same b && exprsSame as bs
  | _, _ => false

/-- Whether two expressions that may be missing are the same. -/
def optionSame : Option Expr → Option Expr → Bool
  | none, none => true
  | some a, some b => a.same b
  | _, _ => false

/-- Whether two calls are the same. -/
def Call.same : Call → Call → Bool
  | ⟨n, b, q, as, cs, ts, gs⟩, ⟨n', b', q', as', cs', ts', gs'⟩ =>
    n == n' && b == b' && q == q' && argumentsSame as as' && partsSame cs cs' &&
      partsSame ts ts' && partsSame gs gs'

/-- Whether two arguments are the same. -/
def Argument.same : Argument → Argument → Bool
  | .positional a, .positional b => a.same b
  | .named p s a, .named p' s' b => p == p' && s == s' && a.same b
  | .wildcard t, .wildcard t' => t == t'
  | _, _ => false

/-- Whether two lists of arguments are the same. -/
def argumentsSame : List Argument → List Argument → Bool
  | [], [] => true
  | a :: as, b :: bs => a.same b && argumentsSame as bs
  | _, _ => false

/-- Whether two parts of phrases are the same. -/
def Part.same : Part → Part → Bool
  | .text t, .text t' => t == t'
  | .expr a, .expr b => a.same b
  | .query q, .query q' => q.same q'
  | _, _ => false

/-- Whether two phrases are the same. -/
def partsSame : List Part → List Part → Bool
  | [], [] => true
  | p :: ps, q :: qs => p.same q && partsSame ps qs
  | _, _ => false

/-- Whether two queries are the same. -/
def Query.same : Query → Query → Bool
  | ⟨o, b, c⟩, ⟨o', b', c'⟩ => partsSame o o' && b.same b' && partsSame c c'

/-- Whether two cores of queries are the same. -/
def Body.same : Body → Body → Bool
  | .select s, .select s' => s.same s'
  | .phrase ps, .phrase qs => partsSame ps qs
  | _, _ => false

/-- Whether two selections are the same. -/
def Select.same : Select → Select → Bool
  | ⟨q, p, s, c, t⟩, ⟨q', p', s', c', t'⟩ =>
    partsSame q q' && itemsSame p p' && partsSame s s' && optionSame c c' && partsSame t t'

/-- Whether two projected items are the same. -/
def SelectItem.same : SelectItem → SelectItem → Bool
  | .wildcard t, .wildcard t' => t == t'
  | .expr a l, .expr b l' => a.same b && l == l'
  | _, _ => false

/-- Whether two lists of projected items are the same. -/
def itemsSame : List SelectItem → List SelectItem → Bool
  | [], [] => true
  | i :: is, j :: js => i.same j && itemsSame is js
  | _, _ => false

end

/-! ### Comparison decides equality -/

mutual

lemma Expr.same_iff (a b : Expr) : a.same b = true ↔ a = b := by
  match a with
  | .name _ | .path _ | .literal _ => cases b <;> simp [Expr.same]
  | .nested a => cases b <;> simp [Expr.same, Expr.same_iff a]
  | .unary _ a => cases b <;> simp [Expr.same, Expr.same_iff a]
  | .binary _ a a' => cases b <;> simp [Expr.same, Expr.same_iff a, Expr.same_iff a', and_assoc]
  | .inList _ a as => cases b <;> simp [Expr.same, Expr.same_iff a, exprsSame_iff as, and_assoc]
  | .like _ _ a p _ => cases b <;> simp [Expr.same, Expr.same_iff a, Expr.same_iff p, and_assoc]
  | .between _ a l h =>
    cases b <;> simp [Expr.same, Expr.same_iff a, Expr.same_iff l, Expr.same_iff h, and_assoc]
  | .cast _ a _ => cases b <;> simp [Expr.same, Expr.same_iff a, and_assoc]
  | .trim _ a x => cases b <;> simp [Expr.same, Expr.same_iff a, optionSame_iff x, and_assoc]
  | .call a => cases b <;> simp [Expr.same, Call.same_iff a]
  | .phrase ps => cases b <;> simp [Expr.same, partsSame_iff ps]

lemma exprsSame_iff (as bs : List Expr) : exprsSame as bs = true ↔ as = bs := by
  match as with
  | [] => cases bs <;> simp [exprsSame]
  | a :: as => cases bs <;> simp [exprsSame, Expr.same_iff a, exprsSame_iff as]

lemma optionSame_iff (a b : Option Expr) : optionSame a b = true ↔ a = b := by
  match a with
  | none => cases b <;> simp [optionSame]
  | some a => cases b <;> simp [optionSame, Expr.same_iff a]

lemma Call.same_iff (a b : Call) : a.same b = true ↔ a = b := by
  match a, b with
  | ⟨_, _, _, as, cs, ts, gs⟩, ⟨_, _, _, _, _, _, _⟩ =>
    simp [Call.same, argumentsSame_iff as, partsSame_iff cs, partsSame_iff ts, partsSame_iff gs,
      and_assoc]

lemma Argument.same_iff (a b : Argument) : a.same b = true ↔ a = b := by
  match a with
  | .positional a => cases b <;> simp [Argument.same, Expr.same_iff a]
  | .named _ _ a => cases b <;> simp [Argument.same, Expr.same_iff a, and_assoc]
  | .wildcard _ => cases b <;> simp [Argument.same]

lemma argumentsSame_iff (as bs : List Argument) : argumentsSame as bs = true ↔ as = bs := by
  match as with
  | [] => cases bs <;> simp [argumentsSame]
  | a :: as => cases bs <;> simp [argumentsSame, Argument.same_iff a, argumentsSame_iff as]

lemma Part.same_iff (p q : Part) : p.same q = true ↔ p = q := by
  match p with
  | .text _ => cases q <;> simp [Part.same]
  | .expr a => cases q <;> simp [Part.same, Expr.same_iff a]
  | .query p => cases q <;> simp [Part.same, Query.same_iff p]

lemma partsSame_iff (ps qs : List Part) : partsSame ps qs = true ↔ ps = qs := by
  match ps with
  | [] => cases qs <;> simp [partsSame]
  | p :: ps => cases qs <;> simp [partsSame, Part.same_iff p, partsSame_iff ps]

lemma Query.same_iff (q q' : Query) : q.same q' = true ↔ q = q' := by
  match q, q' with
  | ⟨o, b, c⟩, ⟨_, _, _⟩ =>
    simp [Query.same, partsSame_iff o, Body.same_iff b, partsSame_iff c, and_assoc]

lemma Body.same_iff (b b' : Body) : b.same b' = true ↔ b = b' := by
  match b with
  | .select s => cases b' <;> simp [Body.same, Select.same_iff s]
  | .phrase ps => cases b' <;> simp [Body.same, partsSame_iff ps]

lemma Select.same_iff (s s' : Select) : s.same s' = true ↔ s = s' := by
  match s, s' with
  | ⟨q, p, s, c, t⟩, ⟨_, _, _, _, _⟩ =>
    simp [Select.same, partsSame_iff q, itemsSame_iff p, partsSame_iff s, optionSame_iff c,
      partsSame_iff t, and_assoc]

lemma SelectItem.same_iff (i j : SelectItem) : i.same j = true ↔ i = j := by
  match i with
  | .wildcard _ => cases j <;> simp [SelectItem.same]
  | .expr a _ => cases j <;> simp [SelectItem.same, Expr.same_iff a]

lemma itemsSame_iff (is js : List SelectItem) : itemsSame is js = true ↔ is = js := by
  match is with
  | [] => cases js <;> simp [itemsSame]
  | i :: is => cases js <;> simp [itemsSame, SelectItem.same_iff i, itemsSame_iff is]

end

instance : DecidableEq Expr := fun a b => decidable_of_iff _ (Expr.same_iff a b)

instance : DecidableEq Query := fun a b => decidable_of_iff _ (Query.same_iff a b)

instance : DecidableEq Part := fun a b => decidable_of_iff _ (Part.same_iff a b)

deriving instance DecidableEq for Statement

end SemanticQuery.Sql
