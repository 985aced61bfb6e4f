import Mathlib.Data.List.Basic
import Mathlib.Tactic.Common
import SemanticQuery.Sql.Walk

/-!
# Laws of walking and mapping

The expressions that stand immediately inside a tree are its children: a phrase or a query passes
its own children up, so that every level between two expressions is an expression. Walking lists
the subexpressions of the children and mapping maps the children, whatever form holds them.

Three laws follow by induction over children. A map that moves no expression of a tree leaves the
tree alone; a property that the map establishes holds of every expression of the mapped tree; and
an expression that the map never drops is found in it.
-/

namespace SemanticQuery.Sql

variable {f : Expr → Expr}

/-! ### Children -/

mutual

/-- The children of a part of a phrase. -/
def Part.children : Part → List Expr
  | .text _ => []
  | .expr value => [value]
  | .query value => value.children

/-- The children of a phrase. -/
def partsChildren : List Part → List Expr
  | [] => []
  | p :: ps => p.children ++ partsChildren ps

/-- The children of a query. -/
def Query.children : Query → List Expr
  | ⟨opening, body, closing⟩ => partsChildren opening ++ body.children ++ partsChildren closing

/-- The children of a query's core. -/
def Body.children : Body → List Expr
  | .select selection => selection.children
  | .phrase parts => partsChildren parts

/-- The children of a selection. -/
def Select.children : Select → List Expr
  | ⟨quantifier, projection, source, condition, trailer⟩ =>
    partsChildren quantifier ++ itemsChildren projection ++ partsChildren source ++
      condition.toList ++ partsChildren trailer

/-- The children of a projected item. -/
def SelectItem.children : SelectItem → List Expr
  | .wildcard _ => []
  | .expr value _ => [value]

/-- The children of projected items. -/
def itemsChildren : List SelectItem → List Expr
  | [] => []
  | i :: is => i.children ++ itemsChildren is

end

/-- The children of an argument. -/
def Argument.children : Argument → List Expr
  | .positional value => [value]
  | .named _ _ value => [value]
  | .wildcard _ => []

/-- The children of a call. -/
def Call.children (c : Call) : List Expr :=
  c.arguments.flatMap Argument.children ++ partsChildren c.clauses ++ partsChildren c.trailer ++
    partsChildren c.group

/-- The children of an expression. -/
def Expr.children : Expr → List Expr
  | .name _ => []
  | .path _ => []
  | .literal _ => []
  | .nested inner => [inner]
  | .unary _ operand => [operand]
  | .binary _ left right => [left, right]
  | .inList _ subject items => subject :: items
  | .like _ _ subject pattern _ => [subject, pattern]
  | .between _ subject low high => [subject, low, high]
  | .cast _ subject _ => [subject]
  | .trim _ subject removed => subject :: removed.toList
  | .call function => function.children
  | .phrase parts => partsChildren parts

/-- The children of a statement. -/
def Statement.children : Statement → List Expr
  | .query value => value.children
  | .command parts => partsChildren parts

/-! ### Children are smaller -/

mutual

lemma Part.sizeOf_child (p : Part) (x : Expr) (h : x ∈ p.children) : sizeOf x < sizeOf p := by
  match p with
  | .text _ => simp [Part.children] at h
  | .expr value =>
    simp only [Part.children, List.mem_singleton] at h
    simp [h]
  | .query value =>
    have := Query.sizeOf_child value x (by simpa [Part.children] using h)
    simp only [Part.query.sizeOf_spec]
    omega

lemma partsChildren_sizeOf (ps : List Part) (x : Expr) (h : x ∈ partsChildren ps) :
    sizeOf x < sizeOf ps := by
  match ps with
  | [] => simp [partsChildren] at h
  | p :: ps =>
    simp only [partsChildren, List.mem_append] at h
    simp only [List.cons.sizeOf_spec]
    rcases h with h | h
    · have := Part.sizeOf_child p x h
      omega
    · have := partsChildren_sizeOf ps x h
      omega

lemma Query.sizeOf_child (q : Query) (x : Expr) (h : x ∈ q.children) : sizeOf x < sizeOf q := by
  match q with
  | ⟨opening, body, closing⟩ =>
    simp only [Query.children, List.mem_append] at h
    simp only [Query.mk.sizeOf_spec]
    rcases h with (h | h) | h
    · have := partsChildren_sizeOf opening x h
      omega
    · have := Body.sizeOf_child body x h
      omega
    · have := partsChildren_sizeOf closing x h
      omega

lemma Body.sizeOf_child (b : Body) (x : Expr) (h : x ∈ b.children) : sizeOf x < sizeOf b := by
  match b with
  | .select selection =>
    have := Select.sizeOf_child selection x (by simpa [Body.children] using h)
    simp only [Body.select.sizeOf_spec]
    omega
  | .phrase parts =>
    have := partsChildren_sizeOf parts x (by simpa [Body.children] using h)
    simp only [Body.phrase.sizeOf_spec]
    omega

lemma Select.sizeOf_child (s : Select) (x : Expr) (h : x ∈ s.children) : sizeOf x < sizeOf s := by
  match s with
  | ⟨quantifier, projection, source, condition, trailer⟩ =>
    simp only [Select.children, List.mem_append] at h
    simp only [Select.mk.sizeOf_spec]
    rcases h with (((h | h) | h) | h) | h
    · have := partsChildren_sizeOf quantifier x h
      omega
    · have := itemsChildren_sizeOf projection x h
      omega
    · have := partsChildren_sizeOf source x h
      omega
    · obtain rfl : condition = some x := by simpa [Option.mem_toList] using h
      simp only [Option.some.sizeOf_spec]
      omega
    · have := partsChildren_sizeOf trailer x h
      omega

lemma itemsChildren_sizeOf (is : List SelectItem) (x : Expr) (h : x ∈ itemsChildren is) :
    sizeOf x < sizeOf is := by
  match is with
  | [] => simp [itemsChildren] at h
  | .wildcard _ :: is =>
    have := itemsChildren_sizeOf is x (by simpa [itemsChildren, SelectItem.children] using h)
    simp only [List.cons.sizeOf_spec]
    omega
  | .expr value _ :: is =>
    simp only [itemsChildren, SelectItem.children, List.cons_append, List.nil_append,
      List.mem_cons] at h
    simp only [List.cons.sizeOf_spec, SelectItem.expr.sizeOf_spec]
    rcases h with rfl | h
    · omega
    · have := itemsChildren_sizeOf is x h
      omega

end

lemma Argument.sizeOf_child (a : Argument) (x : Expr) (h : x ∈ a.children) :
    sizeOf x < sizeOf a := by
  match a with
  | .positional value | .named _ _ value =>
    simp only [Argument.children, List.mem_singleton] at h
    simp only [h, Argument.positional.sizeOf_spec, Argument.named.sizeOf_spec]
    omega
  | .wildcard _ => simp [Argument.children] at h

lemma Call.sizeOf_child (c : Call) (x : Expr) (h : x ∈ c.children) : sizeOf x < sizeOf c := by
  match c with
  | ⟨name, braced, quantifier, arguments, clauses, trailer, group⟩ =>
    simp only [Call.children, List.mem_append, List.mem_flatMap] at h
    simp only [Call.mk.sizeOf_spec]
    rcases h with ((⟨a, ha, h⟩ | h) | h) | h
    · have := Argument.sizeOf_child a x h
      have := List.sizeOf_lt_of_mem ha
      omega
    · have := partsChildren_sizeOf clauses x h
      omega
    · have := partsChildren_sizeOf trailer x h
      omega
    · have := partsChildren_sizeOf group x h
      omega

lemma Expr.sizeOf_child {e x : Expr} (h : x ∈ e.children) : sizeOf x < sizeOf e := by
  match e with
  | .name _ | .path _ | .literal _ => simp [Expr.children] at h
  | .nested inner | .unary _ inner | .cast _ inner _ =>
    simp only [Expr.children, List.mem_singleton] at h
    simp +arith [h]
  | .binary _ left right | .like _ _ left right _ =>
    simp only [Expr.children, List.mem_cons, List.not_mem_nil, or_false] at h
    rcases h with rfl | rfl <;> simp +arith
  | .inList _ subject items =>
    simp only [Expr.children, List.mem_cons] at h
    rcases h with rfl | h
    · simp +arith
    · have := List.sizeOf_lt_of_mem h
      simp only [Expr.inList.sizeOf_spec]
      omega
  | .between _ subject low high =>
    simp only [Expr.children, List.mem_cons, List.not_mem_nil, or_false] at h
    rcases h with rfl | rfl | rfl <;> simp +arith
  | .trim _ subject removed =>
    simp only [Expr.children, List.mem_cons, Option.mem_toList] at h
    rcases h with rfl | rfl <;> simp +arith
  | .call function =>
    have := Call.sizeOf_child function x h
    simp only [Expr.call.sizeOf_spec]
    omega
  | .phrase parts =>
    have := partsChildren_sizeOf parts x h
    simp only [Expr.phrase.sizeOf_spec]
    omega

/-- What holds of an expression whenever it holds of its children holds of every expression. -/
theorem Expr.induction_children {motive : Expr → Prop}
    (step : ∀ e : Expr, (∀ x ∈ e.children, motive x) → motive e) (e : Expr) : motive e :=
  step e fun x _ => Expr.induction_children step x
termination_by sizeOf e
decreasing_by exact Expr.sizeOf_child ‹_›

/-! ### Walking lists the subexpressions of the children -/

lemma exprsSubexprs_eq (es : List Expr) : exprsSubexprs es = es.flatMap Expr.subexprs := by
  induction es with
  | nil => simp [exprsSubexprs]
  | cons e es ih => simp only [exprsSubexprs, List.flatMap_cons, Expr.subexprs, ih]

lemma optionSubexprs_eq (e : Option Expr) :
    optionSubexprs e = e.toList.flatMap Expr.subexprs := by
  cases e <;> simp [optionSubexprs, Expr.subexprs]

mutual

lemma Part.subexprs_eq (p : Part) : p.subexprs = p.children.flatMap Expr.subexprs := by
  match p with
  | .text _ => simp [Part.subexprs, Part.children]
  | .expr _ => simp [Part.subexprs, Part.children, Expr.subexprs]
  | .query value => simpa only [Part.subexprs, Part.children] using Query.subexprs_eq value

lemma partsSubexprs_eq (ps : List Part) :
    partsSubexprs ps = (partsChildren ps).flatMap Expr.subexprs := by
  match ps with
  | [] => simp [partsSubexprs, partsChildren]
  | p :: ps =>
    simp only [partsSubexprs, partsChildren, List.flatMap_append, Part.subexprs_eq p,
      partsSubexprs_eq ps]

lemma Query.subexprs_eq (q : Query) : q.subexprs = q.children.flatMap Expr.subexprs := by
  match q with
  | ⟨opening, body, closing⟩ =>
    simp only [Query.subexprs, Query.children, List.flatMap_append, partsSubexprs_eq opening,
      Body.subexprs_eq body, partsSubexprs_eq closing]

lemma Body.subexprs_eq (b : Body) : b.subexprs = b.children.flatMap Expr.subexprs := by
  match b with
  | .select selection =>
    simpa only [Body.subexprs, Body.children] using Select.subexprs_eq selection
  | .phrase parts => simpa only [Body.subexprs, Body.children] using partsSubexprs_eq parts

lemma Select.subexprs_eq (s : Select) : s.subexprs = s.children.flatMap Expr.subexprs := by
  match s with
  | ⟨quantifier, projection, source, condition, trailer⟩ =>
    simp only [Select.subexprs, Select.children, List.flatMap_append, partsSubexprs_eq quantifier,
      itemsSubexprs_eq projection, partsSubexprs_eq source, optionSubexprs_eq condition,
      partsSubexprs_eq trailer]

lemma itemsSubexprs_eq (is : List SelectItem) :
    itemsSubexprs is = (itemsChildren is).flatMap Expr.subexprs := by
  match is with
  | [] => simp [itemsSubexprs, itemsChildren]
  | .wildcard _ :: is =>
    simp [itemsSubexprs, SelectItem.subexprs, itemsChildren, SelectItem.children,
      itemsSubexprs_eq is]
  | .expr _ _ :: is =>
    simp [itemsSubexprs, SelectItem.subexprs, itemsChildren, SelectItem.children,
      itemsSubexprs_eq is, Expr.subexprs]

end

lemma argumentsSubexprs_eq (as : List Argument) :
    argumentsSubexprs as = (as.flatMap Argument.children).flatMap Expr.subexprs := by
  induction as with
  | nil => simp [argumentsSubexprs]
  | cons a as ih =>
    cases a <;> simp [argumentsSubexprs, Argument.subexprs, Argument.children, Expr.subexprs, ih]

lemma Call.subexprs_eq (c : Call) : c.subexprs = c.children.flatMap Expr.subexprs := by
  cases c
  simp only [Call.subexprs, Call.children, List.flatMap_append, argumentsSubexprs_eq,
    partsSubexprs_eq]

lemma Expr.inner_eq (e : Expr) : e.inner = e.children.flatMap Expr.subexprs := by
  cases e <;>
    simp [Expr.inner, Expr.children, Expr.subexprs, exprsSubexprs_eq, optionSubexprs_eq,
      Call.subexprs_eq, partsSubexprs_eq]

lemma Statement.subexprs_eq (s : Statement) :
    s.subexprs = s.children.flatMap Expr.subexprs := by
  cases s <;>
    simp only [Statement.subexprs, Statement.children, Query.subexprs_eq, partsSubexprs_eq]

lemma Expr.mem_subexprs_self (e : Expr) : e ∈ e.subexprs := by simp [Expr.subexprs]

lemma Expr.mem_inner_of_child {e x y : Expr} (hx : x ∈ e.children) (hy : y ∈ x.subexprs) :
    y ∈ e.inner := by
  rw [Expr.inner_eq, List.mem_flatMap]
  exact ⟨x, hx, hy⟩

lemma Expr.mem_subexprs_of_child {e x y : Expr} (hx : x ∈ e.children) (hy : y ∈ x.subexprs) :
    y ∈ e.subexprs := by
  rw [Expr.subexprs]
  exact List.mem_cons_of_mem e (Expr.mem_inner_of_child hx hy)

/-- What holds of all subexpressions holds of the expression and of those of its children. -/
lemma Expr.forall_subexprs_iff {P : Expr → Prop} {e : Expr} :
    (∀ x ∈ e.subexprs, P x) ↔ P e ∧ ∀ child ∈ e.children, ∀ x ∈ child.subexprs, P x := by
  rw [Expr.subexprs, Expr.inner_eq, List.forall_mem_cons]
  refine and_congr_right fun _ => ?_
  constructor
  · exact fun h child hchild x hx => h x (List.mem_flatMap.mpr ⟨child, hchild, hx⟩)
  · intro h x hx
    obtain ⟨child, hchild, hx⟩ := List.mem_flatMap.mp hx
    exact h child hchild x hx

lemma Expr.mem_subexprs_trans {x y e : Expr} (hy : y ∈ x.subexprs) (hx : x ∈ e.subexprs) :
    y ∈ e.subexprs := by
  induction e using Expr.induction_children with
  | step e ih =>
    rcases List.mem_cons.mp hx with rfl | hx
    · exact hy
    · rw [Expr.inner_eq, List.mem_flatMap] at hx
      obtain ⟨child, hchild, hx⟩ := hx
      exact Expr.mem_subexprs_of_child hchild (ih child hchild hx)

lemma mem_subexprs_binary {x : Expr} {op : BinaryOp} {left right : Expr} :
    x ∈ (Expr.binary op left right).subexprs ↔
      x = .binary op left right ∨ x ∈ left.subexprs ∨ x ∈ right.subexprs := by
  simp [Expr.subexprs, Expr.inner, or_assoc]

lemma mem_subexprs_nested {x inner : Expr} :
    x ∈ (Expr.nested inner).subexprs ↔ x = .nested inner ∨ x ∈ inner.subexprs := by
  simp [Expr.subexprs, Expr.inner]

lemma Statement.mem_subexprs_of_child {s : Statement} {x y : Expr} (hx : x ∈ s.children)
    (hy : y ∈ x.subexprs) : y ∈ s.subexprs := by
  rw [Statement.subexprs_eq, List.mem_flatMap]
  exact ⟨x, hx, hy⟩

lemma Statement.mem_subexprs_trans {s : Statement} {x y : Expr} (hy : y ∈ x.subexprs)
    (hx : x ∈ s.subexprs) : y ∈ s.subexprs := by
  rw [Statement.subexprs_eq, List.mem_flatMap] at hx
  obtain ⟨child, hchild, hx⟩ := hx
  exact Statement.mem_subexprs_of_child hchild (Expr.mem_subexprs_trans hy hx)

/-! ### Mapping maps the children -/

/-- The expression with `f` applied to every expression inside it, but not to itself. -/
def Expr.mapInner (f : Expr → Expr) : Expr → Expr
  | .name ident => .name ident
  | .path parts => .path parts
  | .literal value => .literal value
  | .nested inner => .nested (inner.mapExprs f)
  | .unary op operand => .unary op (operand.mapExprs f)
  | .binary op left right => .binary op (left.mapExprs f) (right.mapExprs f)
  | .inList negated subject items => .inList negated (subject.mapExprs f) (mapExprsOfList f items)
  | .like negated any subject pattern escape =>
    .like negated any (subject.mapExprs f) (pattern.mapExprs f) escape
  | .between negated subject low high =>
    .between negated (subject.mapExprs f) (low.mapExprs f) (high.mapExprs f)
  | .cast form subject target => .cast form (subject.mapExprs f) target
  | .trim side subject removed => .trim side (subject.mapExprs f) (mapExprsOfOption f removed)
  | .call function => .call (function.mapExprs f)
  | .phrase parts => .phrase (mapExprsOfParts f parts)

lemma Expr.mapExprs_eq (f : Expr → Expr) (e : Expr) : e.mapExprs f = f (e.mapInner f) := by
  cases e <;> simp only [Expr.mapExprs, Expr.mapInner]

lemma mapExprsOfList_eq (f : Expr → Expr) (es : List Expr) :
    mapExprsOfList f es = es.map (Expr.mapExprs f) := by
  induction es with
  | nil => rfl
  | cons e es ih => simp only [mapExprsOfList, List.map_cons, ih]

lemma mapExprsOfOption_eq (f : Expr → Expr) (e : Option Expr) :
    mapExprsOfOption f e = e.map (Expr.mapExprs f) := by
  cases e <;> rfl

lemma mapExprsOfArguments_eq (f : Expr → Expr) (as : List Argument) :
    mapExprsOfArguments f as = as.map (Argument.mapExprs f) := by
  induction as with
  | nil => rfl
  | cons a as ih => simp only [mapExprsOfArguments, List.map_cons, ih]

lemma mapExprsOfItems_eq (f : Expr → Expr) (is : List SelectItem) :
    mapExprsOfItems f is = is.map (SelectItem.mapExprs f) := by
  induction is with
  | nil => rfl
  | cons i is ih => simp only [mapExprsOfItems, List.map_cons, ih]

mutual

lemma Part.children_mapExprs (p : Part) :
    (p.mapExprs f).children = p.children.map (Expr.mapExprs f) := by
  match p with
  | .text _ | .expr _ => simp [Part.mapExprs, Part.children]
  | .query value =>
    simpa only [Part.mapExprs, Part.children] using Query.children_mapExprs value

lemma partsChildren_mapExprs (ps : List Part) :
    partsChildren (mapExprsOfParts f ps) = (partsChildren ps).map (Expr.mapExprs f) := by
  match ps with
  | [] => simp [mapExprsOfParts, partsChildren]
  | p :: ps =>
    simp only [mapExprsOfParts, partsChildren, List.map_append, Part.children_mapExprs p,
      partsChildren_mapExprs ps]

lemma Query.children_mapExprs (q : Query) :
    (q.mapExprs f).children = q.children.map (Expr.mapExprs f) := by
  match q with
  | ⟨opening, body, closing⟩ =>
    simp only [Query.mapExprs, Query.children, List.map_append, partsChildren_mapExprs opening,
      Body.children_mapExprs body, partsChildren_mapExprs closing]

lemma Body.children_mapExprs (b : Body) :
    (b.mapExprs f).children = b.children.map (Expr.mapExprs f) := by
  match b with
  | .select selection =>
    simpa only [Body.mapExprs, Body.children] using Select.children_mapExprs selection
  | .phrase parts =>
    simpa only [Body.mapExprs, Body.children] using partsChildren_mapExprs parts

lemma Select.children_mapExprs (s : Select) :
    (s.mapExprs f).children = s.children.map (Expr.mapExprs f) := by
  match s with
  | ⟨quantifier, projection, source, condition, trailer⟩ =>
    simp only [Select.mapExprs, Select.children, List.map_append,
      partsChildren_mapExprs quantifier, itemsChildren_mapExprs projection,
      partsChildren_mapExprs source, partsChildren_mapExprs trailer, mapExprsOfOption_eq,
      Option.toList_map]

lemma itemsChildren_mapExprs (is : List SelectItem) :
    itemsChildren (mapExprsOfItems f is) = (itemsChildren is).map (Expr.mapExprs f) := by
  match is with
  | [] => simp [mapExprsOfItems, itemsChildren]
  | .wildcard _ :: is =>
    simp [mapExprsOfItems, SelectItem.mapExprs, itemsChildren, SelectItem.children,
      itemsChildren_mapExprs is]
  | .expr _ _ :: is =>
    simp [mapExprsOfItems, SelectItem.mapExprs, itemsChildren, SelectItem.children,
      itemsChildren_mapExprs is]

end

lemma Argument.children_mapExprs (a : Argument) :
    (a.mapExprs f).children = a.children.map (Expr.mapExprs f) := by
  cases a <;> simp [Argument.mapExprs, Argument.children]

lemma Call.children_mapExprs (c : Call) :
    (c.mapExprs f).children = c.children.map (Expr.mapExprs f) := by
  cases c
  simp only [Call.mapExprs, Call.children, mapExprsOfArguments_eq, List.flatMap_map,
    Argument.children_mapExprs, partsChildren_mapExprs, List.map_append, List.map_flatMap]

lemma Expr.children_mapInner (e : Expr) :
    (e.mapInner f).children = e.children.map (Expr.mapExprs f) := by
  cases e <;>
    simp [Expr.mapInner, Expr.children, mapExprsOfList_eq, mapExprsOfOption_eq,
      Option.toList_map, Call.children_mapExprs, partsChildren_mapExprs]

lemma Statement.children_mapExprs (s : Statement) :
    (s.mapExprs f).children = s.children.map (Expr.mapExprs f) := by
  cases s <;>
    simp only [Statement.mapExprs, Statement.children, Query.children_mapExprs,
      partsChildren_mapExprs]

/-! ### Maps that move nothing -/

mutual

lemma Part.mapExprs_eq_self (p : Part) (h : ∀ x ∈ p.children, x.mapExprs f = x) :
    p.mapExprs f = p := by
  match p with
  | .text _ => rfl
  | .expr value => simp [Part.mapExprs, h value (by simp [Part.children])]
  | .query value =>
    simp only [Part.mapExprs, Query.mapExprs_eq_self value (by simpa [Part.children] using h)]

lemma mapExprsOfParts_eq_self (ps : List Part) (h : ∀ x ∈ partsChildren ps, x.mapExprs f = x) :
    mapExprsOfParts f ps = ps := by
  match ps with
  | [] => rfl
  | p :: ps =>
    simp only [partsChildren, List.forall_mem_append] at h
    simp only [mapExprsOfParts, Part.mapExprs_eq_self p h.1, mapExprsOfParts_eq_self ps h.2]

lemma Query.mapExprs_eq_self (q : Query) (h : ∀ x ∈ q.children, x.mapExprs f = x) :
    q.mapExprs f = q := by
  match q with
  | ⟨opening, body, closing⟩ =>
    simp only [Query.children, List.forall_mem_append] at h
    simp only [Query.mapExprs, mapExprsOfParts_eq_self opening h.1.1,
      Body.mapExprs_eq_self body h.1.2, mapExprsOfParts_eq_self closing h.2]

lemma Body.mapExprs_eq_self (b : Body) (h : ∀ x ∈ b.children, x.mapExprs f = x) :
    b.mapExprs f = b := by
  match b with
  | .select selection =>
    simp only [Body.mapExprs, Select.mapExprs_eq_self selection (by simpa [Body.children] using h)]
  | .phrase parts =>
    simp only [Body.mapExprs, mapExprsOfParts_eq_self parts (by simpa [Body.children] using h)]

lemma Select.mapExprs_eq_self (s : Select) (h : ∀ x ∈ s.children, x.mapExprs f = x) :
    s.mapExprs f = s := by
  match s with
  | ⟨quantifier, projection, source, condition, trailer⟩ =>
    simp only [Select.children, List.forall_mem_append] at h
    obtain ⟨⟨⟨⟨hquantifier, hprojection⟩, hsource⟩, hcondition⟩, htrailer⟩ := h
    have hsame : mapExprsOfOption f condition = condition := by
      cases condition with
      | none => rfl
      | some e => simp [mapExprsOfOption, hcondition e (by simp)]
    simp only [Select.mapExprs, mapExprsOfParts_eq_self quantifier hquantifier,
      mapExprsOfItems_eq_self projection hprojection, mapExprsOfParts_eq_self source hsource, hsame,
      mapExprsOfParts_eq_self trailer htrailer]

lemma mapExprsOfItems_eq_self (is : List SelectItem)
    (h : ∀ x ∈ itemsChildren is, x.mapExprs f = x) : mapExprsOfItems f is = is := by
  match is with
  | [] => rfl
  | .wildcard _ :: is =>
    simp only [itemsChildren, SelectItem.children, List.nil_append] at h
    simp only [mapExprsOfItems, SelectItem.mapExprs, mapExprsOfItems_eq_self is h]
  | .expr value _ :: is =>
    simp only [itemsChildren, SelectItem.children, List.forall_mem_append,
      List.forall_mem_singleton] at h
    simp only [mapExprsOfItems, SelectItem.mapExprs, h.1, mapExprsOfItems_eq_self is h.2]

end

lemma Argument.mapExprs_eq_self (a : Argument) (h : ∀ x ∈ a.children, x.mapExprs f = x) :
    a.mapExprs f = a := by
  cases a with
  | positional value => simp [Argument.mapExprs, h value (by simp [Argument.children])]
  | named _ _ value => simp [Argument.mapExprs, h value (by simp [Argument.children])]
  | wildcard _ => rfl

lemma Call.mapExprs_eq_self (c : Call) (h : ∀ x ∈ c.children, x.mapExprs f = x) :
    c.mapExprs f = c := by
  cases c with
  | mk name braced quantifier arguments clauses trailer group =>
    simp only [Call.children, List.forall_mem_append, List.mem_flatMap] at h
    obtain ⟨⟨⟨harguments, hclauses⟩, htrailer⟩, hgroup⟩ := h
    have hsame : arguments.map (Argument.mapExprs f) = arguments := by
      conv_rhs => rw [← List.map_id arguments]
      exact List.map_congr_left fun a ha =>
        Argument.mapExprs_eq_self a fun x hx => harguments x ⟨a, ha, hx⟩
    simp only [Call.mapExprs, mapExprsOfArguments_eq, hsame,
      mapExprsOfParts_eq_self clauses hclauses, mapExprsOfParts_eq_self trailer htrailer,
      mapExprsOfParts_eq_self group hgroup]

lemma Expr.mapInner_eq_self (e : Expr) (h : ∀ x ∈ e.children, x.mapExprs f = x) :
    e.mapInner f = e := by
  cases e with
  | name _ | path _ | literal _ => rfl
  | nested inner | unary _ inner | cast _ inner _ =>
    simp [Expr.mapInner, h inner (by simp [Expr.children])]
  | binary _ left right | like _ _ left right _ =>
    simp [Expr.mapInner, h left (by simp [Expr.children]), h right (by simp [Expr.children])]
  | inList _ subject items =>
    have hsame : items.map (Expr.mapExprs f) = items := by
      conv_rhs => rw [← List.map_id items]
      exact List.map_congr_left fun x hx => h x (by simp [Expr.children, hx])
    simp [Expr.mapInner, mapExprsOfList_eq, h subject (by simp [Expr.children]), hsame]
  | between _ subject low high =>
    simp [Expr.mapInner, h subject (by simp [Expr.children]), h low (by simp [Expr.children]),
      h high (by simp [Expr.children])]
  | trim _ subject removed =>
    have hsame : removed.map (Expr.mapExprs f) = removed := by
      cases removed with
      | none => rfl
      | some e => simp [h e (by simp [Expr.children])]
    simp [Expr.mapInner, mapExprsOfOption_eq, h subject (by simp [Expr.children]), hsame]
  | call function => simp [Expr.mapInner, Call.mapExprs_eq_self function h]
  | phrase parts => simp [Expr.mapInner, mapExprsOfParts_eq_self parts h]

/-- A map that moves no expression of an expression leaves the expression alone. -/
lemma Expr.mapExprs_eq_self (e : Expr) (h : ∀ x ∈ e.subexprs, f x = x) : e.mapExprs f = e := by
  induction e using Expr.induction_children with
  | step e ih =>
    have hinner : e.mapInner f = e :=
      Expr.mapInner_eq_self e fun x hx =>
        ih x hx fun y hy => h y (Expr.mem_subexprs_of_child hx hy)
    rw [Expr.mapExprs_eq, hinner]
    exact h e e.mem_subexprs_self

/-- A map that moves no expression of a statement leaves the statement alone. -/
lemma Statement.mapExprs_eq_self (s : Statement) (h : ∀ x ∈ s.subexprs, f x = x) :
    s.mapExprs f = s := by
  have hchild : ∀ x ∈ s.children, x.mapExprs f = x := fun x hx =>
    Expr.mapExprs_eq_self x fun y hy => h y (Statement.mem_subexprs_of_child hx hy)
  cases s with
  | query value => simp only [Statement.mapExprs, Query.mapExprs_eq_self value hchild]
  | command parts => simp only [Statement.mapExprs, mapExprsOfParts_eq_self parts hchild]

/-! ### What stands around expressions

A map leaves it as it is. With a `hole` in the place of every outermost expression, it is all that
there is. -/

section

variable (f : Expr → Expr) (hole : Expr)

lemma Expr.mapExprs_around (e : Expr) :
    (e.mapExprs f).mapExprs (fun _ => hole) = e.mapExprs fun _ => hole := by
  rw [Expr.mapExprs_eq, Expr.mapExprs_eq]

mutual

lemma Part.mapExprs_around (p : Part) :
    (p.mapExprs f).mapExprs (fun _ => hole) = p.mapExprs fun _ => hole := by
  match p with
  | .text _ => rfl
  | .expr value => simp only [Part.mapExprs, Expr.mapExprs_around]
  | .query value => simp only [Part.mapExprs, Query.mapExprs_around value]

lemma mapExprsOfParts_around (ps : List Part) :
    mapExprsOfParts (fun _ => hole) (mapExprsOfParts f ps) =
      mapExprsOfParts (fun _ => hole) ps := by
  match ps with
  | [] => rfl
  | p :: ps => simp only [mapExprsOfParts, Part.mapExprs_around p, mapExprsOfParts_around ps]

lemma Query.mapExprs_around (q : Query) :
    (q.mapExprs f).mapExprs (fun _ => hole) = q.mapExprs fun _ => hole := by
  match q with
  | ⟨opening, body, closing⟩ =>
    simp only [Query.mapExprs, mapExprsOfParts_around opening, Body.mapExprs_around body,
      mapExprsOfParts_around closing]

lemma Body.mapExprs_around (b : Body) :
    (b.mapExprs f).mapExprs (fun _ => hole) = b.mapExprs fun _ => hole := by
  match b with
  | .select selection => simp only [Body.mapExprs, Select.mapExprs_around selection]
  | .phrase parts => simp only [Body.mapExprs, mapExprsOfParts_around parts]

lemma Select.mapExprs_around (s : Select) :
    (s.mapExprs f).mapExprs (fun _ => hole) = s.mapExprs fun _ => hole := by
  match s with
  | ⟨quantifier, projection, source, condition, trailer⟩ =>
    have hcondition : mapExprsOfOption (fun _ => hole) (mapExprsOfOption f condition) =
        mapExprsOfOption (fun _ => hole) condition := by
      cases condition with
      | none => rfl
      | some e => simp only [mapExprsOfOption, Expr.mapExprs_around]
    simp only [Select.mapExprs, mapExprsOfParts_around quantifier,
      mapExprsOfItems_around projection, mapExprsOfParts_around source, hcondition,
      mapExprsOfParts_around trailer]

lemma mapExprsOfItems_around (is : List SelectItem) :
    mapExprsOfItems (fun _ => hole) (mapExprsOfItems f is) =
      mapExprsOfItems (fun _ => hole) is := by
  match is with
  | [] => rfl
  | .wildcard _ :: is =>
    simp only [mapExprsOfItems, SelectItem.mapExprs, mapExprsOfItems_around is]
  | .expr value _ :: is =>
    simp only [mapExprsOfItems, SelectItem.mapExprs, Expr.mapExprs_around,
      mapExprsOfItems_around is]

end

lemma Statement.mapExprs_around (s : Statement) :
    (s.mapExprs f).mapExprs (fun _ => hole) = s.mapExprs fun _ => hole := by
  cases s with
  | query value => simp only [Statement.mapExprs, Query.mapExprs_around]
  | command parts => simp only [Statement.mapExprs, mapExprsOfParts_around]

end

/-! ### Properties that a map establishes -/

/-- A property of the expressions of a mapped tree, given that `f` establishes it wherever it
already holds inside: `before` may be assumed of the expression that was mapped. -/
def Establishes (f : Expr → Expr) (before after : Expr → Prop) : Prop :=
  ∀ e, before e → (∀ x ∈ (e.mapInner f).inner, after x) →
    ∀ x ∈ (f (e.mapInner f)).subexprs, after x

variable {before after : Expr → Prop}

lemma Expr.forall_subexprs_mapExprs (hf : Establishes f before after) (e : Expr)
    (h : ∀ x ∈ e.subexprs, before x) : ∀ x ∈ (e.mapExprs f).subexprs, after x := by
  induction e using Expr.induction_children with
  | step e ih =>
    rw [Expr.mapExprs_eq]
    apply hf e (h e e.mem_subexprs_self)
    intro x hx
    rw [Expr.inner_eq, Expr.children_mapInner, List.mem_flatMap] at hx
    obtain ⟨_, hmap, hx⟩ := hx
    obtain ⟨y, hy, rfl⟩ := List.mem_map.mp hmap
    exact ih y hy (fun z hz => h z (Expr.mem_subexprs_of_child hy hz)) x hx

lemma Statement.forall_subexprs_mapExprs (hf : Establishes f before after) (s : Statement)
    (h : ∀ x ∈ s.subexprs, before x) : ∀ x ∈ (s.mapExprs f).subexprs, after x := by
  intro x hx
  rw [Statement.subexprs_eq, Statement.children_mapExprs, List.mem_flatMap] at hx
  obtain ⟨_, hmap, hx⟩ := hx
  obtain ⟨y, hy, rfl⟩ := List.mem_map.mp hmap
  exact Expr.forall_subexprs_mapExprs hf y
    (fun z hz => h z (Statement.mem_subexprs_of_child hy hz)) x hx

/-! ### Maps that keep what stands inside -/

/-- A map that leaves the inside of every expression alone maps the subexpressions one by one. -/
lemma Expr.subexprs_mapExprs (hf : ∀ e, (f e).inner = e.inner) (e : Expr) :
    (e.mapExprs f).subexprs = e.subexprs.map (Expr.mapExprs f) := by
  induction e using Expr.induction_children with
  | step e ih =>
    have hinner : (e.mapExprs f).inner = e.inner.map (Expr.mapExprs f) := by
      rw [Expr.mapExprs_eq, hf, Expr.inner_eq, Expr.inner_eq, Expr.children_mapInner,
        List.flatMap_map, List.map_flatMap]
      exact List.flatMap_congr ih
    rw [Expr.subexprs, Expr.subexprs, hinner, List.map_cons]

lemma Statement.subexprs_mapExprs (hf : ∀ e, (f e).inner = e.inner) (s : Statement) :
    (s.mapExprs f).subexprs = s.subexprs.map (Expr.mapExprs f) := by
  rw [Statement.subexprs_eq, Statement.subexprs_eq, Statement.children_mapExprs, List.flatMap_map,
    List.map_flatMap]
  exact List.flatMap_congr fun x _ => Expr.subexprs_mapExprs hf x

/-! ### Expressions that a map keeps -/

/-- An expression that `f` does not move and never drops from inside another one stays in the
mapped tree. -/
lemma Expr.mem_subexprs_mapExprs {x : Expr} (hself : x ∈ (x.mapExprs f).subexprs)
    (hkeep : ∀ e, x ∈ e.inner → x ∈ (f e).subexprs) (e : Expr) (h : x ∈ e.subexprs) :
    x ∈ (e.mapExprs f).subexprs := by
  induction e using Expr.induction_children with
  | step e ih =>
    rcases List.mem_cons.mp h with rfl | h
    · exact hself
    · rw [Expr.inner_eq, List.mem_flatMap] at h
      obtain ⟨y, hy, hx⟩ := h
      rw [Expr.mapExprs_eq]
      apply hkeep
      rw [Expr.inner_eq, Expr.children_mapInner, List.mem_flatMap]
      exact ⟨y.mapExprs f, List.mem_map_of_mem hy, ih y hy hx⟩

end SemanticQuery.Sql
