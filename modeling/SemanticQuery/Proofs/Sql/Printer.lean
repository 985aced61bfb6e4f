import SemanticQuery.Proofs.Sql.Walk
import SemanticQuery.Sql.Printer

/-!
# Laws of texts

The text of a tree holds the texts of its subexpressions, and with them all their characters.
-/

namespace SemanticQuery.Sql

variable {x : Expr} {a : Char}

/-! ### Characters of children -/

mutual

lemma Part.mem_print_of_child (p : Part) (hx : x ∈ p.children) (ha : a ∈ x.print.toList) :
    a ∈ p.print.toList := by
  match p with
  | .text _ => simp [Part.children] at hx
  | .expr value =>
    obtain rfl : x = value := by simpa [Part.children] using hx
    exact ha
  | .query value => exact Query.mem_print_of_child value hx ha

lemma mem_printParts_of_child (ps : List Part) (hx : x ∈ partsChildren ps)
    (ha : a ∈ x.print.toList) : a ∈ (printParts ps).toList := by
  match ps with
  | [] => simp [partsChildren] at hx
  | p :: ps =>
    simp only [partsChildren, List.mem_append] at hx
    rw [printParts, String.toList_append, List.mem_append]
    exact hx.imp (fun hx => Part.mem_print_of_child p hx ha)
      fun hx => mem_printParts_of_child ps hx ha

lemma Query.mem_print_of_child (q : Query) (hx : x ∈ q.children) (ha : a ∈ x.print.toList) :
    a ∈ q.print.toList := by
  match q with
  | ⟨opening, body, closing⟩ =>
    simp only [Query.children, List.mem_append] at hx
    simp only [Query.print, String.toList_append, List.mem_append]
    exact hx.imp
      (Or.imp (fun hx => mem_printParts_of_child opening hx ha)
        fun hx => Body.mem_print_of_child body hx ha)
      fun hx => mem_printParts_of_child closing hx ha

lemma Body.mem_print_of_child (b : Body) (hx : x ∈ b.children) (ha : a ∈ x.print.toList) :
    a ∈ b.print.toList := by
  match b with
  | .select selection => exact Select.mem_print_of_child selection hx ha
  | .phrase parts => exact mem_printParts_of_child parts hx ha

lemma Select.mem_print_of_child (s : Select) (hx : x ∈ s.children) (ha : a ∈ x.print.toList) :
    a ∈ s.print.toList := by
  match s with
  | ⟨quantifier, projection, source, condition, trailer⟩ =>
    simp only [Select.children, List.mem_append, Option.mem_toList] at hx
    rw [Select.print.eq_def]
    simp only [String.toList_append, List.mem_append]
    rcases hx with (((hx | hx) | hx) | hx) | hx
    · simp [mem_printParts_of_child quantifier hx ha]
    · simp [mem_printItems_of_child projection hx ha]
    · simp [mem_printParts_of_child source hx ha]
    · obtain rfl : condition = some x := hx
      simp [ha]
    · simp [mem_printParts_of_child trailer hx ha]

lemma mem_printItems_of_child (is : List SelectItem) (hx : x ∈ itemsChildren is)
    (ha : a ∈ x.print.toList) : a ∈ (printItems is).toList := by
  match is with
  | [] => simp [itemsChildren] at hx
  | i :: is =>
    have hitem : x ∈ i.children → a ∈ i.print.toList := by
      intro hx
      cases i with
      | wildcard _ => simp [SelectItem.children] at hx
      | expr value label =>
        obtain rfl : x = value := by simpa [SelectItem.children] using hx
        simp [SelectItem.print, ha]
    have hrest : x ∈ itemsChildren is → a ∈ (printItems is).toList := fun hx =>
      mem_printItems_of_child is hx ha
    simp only [itemsChildren, List.mem_append] at hx
    cases is with
    | nil => simpa [printItems, itemsChildren] using hx.imp hitem hrest
    | cons next is =>
      simp only [printItems, String.toList_append, List.mem_append] at hrest ⊢
      tauto

end

lemma Argument.mem_print_of_child (arg : Argument) (hx : x ∈ arg.children)
    (ha : a ∈ x.print.toList) : a ∈ arg.print.toList := by
  match arg with
  | .positional value =>
    obtain rfl : x = value := by simpa [Argument.children] using hx
    exact ha
  | .named parameter sign value =>
    obtain rfl : x = value := by simpa [Argument.children] using hx
    simp [Argument.print, ha]
  | .wildcard _ => simp [Argument.children] at hx

lemma mem_printArguments_of_child (args : List Argument) (hx : x ∈ args.flatMap Argument.children)
    (ha : a ∈ x.print.toList) : a ∈ (printArguments args).toList := by
  induction args with
  | nil => simp at hx
  | cons arg args ih =>
    rw [List.flatMap_cons, List.mem_append] at hx
    have harg : x ∈ arg.children → a ∈ arg.print.toList := fun hx =>
      Argument.mem_print_of_child arg hx ha
    cases args with
    | nil => simpa [printArguments] using hx.imp_right ih |>.imp_left harg
    | cons next args =>
      simp only [printArguments, String.toList_append, List.mem_append] at ih ⊢
      tauto

lemma Call.mem_print_of_child (c : Call) (hx : x ∈ c.children) (ha : a ∈ x.print.toList) :
    a ∈ c.print.toList := by
  match c with
  | ⟨name, braced, quantifier, arguments, clauses, trailer, group⟩ =>
    simp only [Call.children, List.mem_append] at hx
    rw [Call.print.eq_def]
    simp only [String.toList_append, List.mem_append]
    rcases hx with ((hx | hx) | hx) | hx
    · simp [mem_printArguments_of_child arguments hx ha]
    · simp [mem_printParts_of_child clauses hx ha]
    · simp [mem_printParts_of_child trailer hx ha]
    · simp [mem_printParts_of_child group hx ha]

lemma mem_printExprs_of_mem (es : List Expr) (hx : x ∈ es) (ha : a ∈ x.print.toList) :
    a ∈ (printExprs es).toList := by
  induction es with
  | nil => simp at hx
  | cons e es ih =>
    cases es with
    | nil =>
      obtain rfl : x = e := by simpa using hx
      exact ha
    | cons next es =>
      simp only [printExprs, String.toList_append, List.mem_append]
      rcases List.mem_cons.mp hx with rfl | hx
      · exact .inl (.inl ha)
      · exact .inr (ih hx)

lemma Expr.mem_print_of_child (e : Expr) (hx : x ∈ e.children) (ha : a ∈ x.print.toList) :
    a ∈ e.print.toList := by
  match e with
  | .name _ | .path _ | .literal _ => simp [Expr.children] at hx
  | .nested inner =>
    obtain rfl : x = inner := by simpa [Expr.children] using hx
    simp [Expr.print, ha]
  | .unary op inner =>
    obtain rfl : x = inner := by simpa [Expr.children] using hx
    cases op <;> simp [Expr.print, ha]
  | .cast form inner target =>
    obtain rfl : x = inner := by simpa [Expr.children] using hx
    cases form <;> simp [Expr.print, ha]
  | .binary _ left right =>
    simp only [Expr.children, List.mem_cons, List.not_mem_nil, or_false] at hx
    rcases hx with rfl | rfl <;> simp [Expr.print, ha]
  | .like negated any subject pattern escape =>
    simp only [Expr.children, List.mem_cons, List.not_mem_nil, or_false] at hx
    rw [Expr.print.eq_def]
    simp only [String.toList_append, List.mem_append]
    rcases hx with rfl | rfl <;> simp [ha]
  | .between _ subject low high =>
    simp only [Expr.children, List.mem_cons, List.not_mem_nil, or_false] at hx
    rcases hx with rfl | rfl | rfl <;> simp [Expr.print, ha]
  | .inList _ subject items =>
    simp only [Expr.children, List.mem_cons] at hx
    rcases hx with rfl | hx
    · simp [Expr.print, ha]
    · simp [Expr.print, mem_printExprs_of_mem items hx ha]
  | .trim side subject removed =>
    simp only [Expr.children, List.mem_cons, Option.mem_toList] at hx
    rw [Expr.print.eq_def]
    simp only [String.toList_append, List.mem_append]
    rcases hx with rfl | rfl <;> simp [ha]
  | .call function => exact Call.mem_print_of_child function hx ha
  | .phrase parts => exact mem_printParts_of_child parts hx ha

/-! ### Characters of subexpressions -/

namespace Expr

lemma mem_print_of_mem_subexprs {e : Expr} (hx : x ∈ e.subexprs) (ha : a ∈ x.print.toList) :
    a ∈ e.print.toList := by
  induction e using Expr.induction_children with
  | step e ih =>
    rw [subexprs, List.mem_cons, inner_eq, List.mem_flatMap] at hx
    rcases hx with rfl | ⟨y, hy, hx⟩
    · exact ha
    · exact mem_print_of_child e hy (ih y hy hx)

end Expr

end SemanticQuery.Sql
