import SemanticQuery.Proofs.Correction.Truthfulness

/-!
# Declarations of names

Several values may declare one name. Their stored values, in the order of the declarations, decide
what a string becomes: the first one that is not the name itself. That is the first of them all,
unless this one is the name itself and a later declaration says otherwise.
-/

namespace SemanticQuery

open Sql

/-! ### Declared values -/

/-- The stored value, if the value declares a name. -/
def ValueNames.storedFor? (v : ValueNames) (name : String) : Option String :=
  if name ∈ v.declared then v.techName else none

/-- The stored values of those that declare a name, in the order of their declaration. -/
def Schema.storedValues (s : Schema) (models : List Int) (name : String) : List String :=
  ((s.dimensions models).flatMap Element.valueNames).filterMap fun v => v.storedFor? name

lemma lookup_map_pair {α β : Type} [DecidableEq α] (names : List α) (name : α) (value : β) :
    (names.map (·, value)).lookup name = if name ∈ names then some value else none := by
  induction names with
  | nil => rfl
  | cons first names ih =>
    rw [List.map_cons, List.lookup_cons, ih]
    by_cases h : name = first
    · simp [h]
    · simp [h, beq_eq_false_iff_ne.mpr h]

namespace ValueNames

variable {v : ValueNames} {vs : List ValueNames} {name : String}

/-- One value renames a name to its stored value, unless they are the same. -/
lemma lookup_renamings : v.renamings.lookup name = (v.storedFor? name).filter (· != name) := by
  cases hstored : v.techName with
  | none => simp [renamings, storedFor?, hstored]
  | some stored =>
    simp only [renamings, storedFor?, hstored, lookup_map_pair, List.mem_filter]
    by_cases hname : name ∈ v.declared
    · by_cases hsame : stored = name
      · simp [hname, hsame, Option.filter_some]
      · simp [hname, hsame, Ne.symm hsame, Option.filter_some]
    · simp [hname]

lemma lookup_flatMap_renamings :
    (vs.flatMap renamings).lookup name =
      (vs.filterMap fun v => v.storedFor? name).find? (· != name) := by
  induction vs with
  | nil => rfl
  | cons v vs ih =>
    rw [List.flatMap_cons, List.lookup_append, lookup_renamings, ih, List.filterMap_cons]
    cases hstored : v.storedFor? name with
    | none => rfl
    | some stored =>
      rw [List.find?_cons]
      by_cases hsame : stored = name
      · rw [hsame, Option.filter_some, bne_self_eq_false]
        rfl
      · rw [Option.filter_some, bne_iff_ne.mpr hsame]
        rfl

end ValueNames

/-- A name is renamed to the first stored value that is another text. -/
lemma Schema.lookup_renamings (s : Schema) (models : List Int) (name : String) :
    (s.renamings models).lookup name = (s.storedValues models name).find? (· != name) := by
  rw [renamings, ← List.flatMap_assoc]
  exact ValueNames.lookup_flatMap_renamings

/-! ### The first declaration -/

/-- The first value that is not the name is the first value of all, unless this is the name and
another one follows. -/
lemma find?_ne_eq_head?_iff {α : Type} [DecidableEq α] (values : List α) (name : α) :
    (values.find? (· != name)).getD name = values.head?.getD name ↔
      (values.head? = some name → ∀ value ∈ values, value = name) := by
  cases values with
  | nil => simp
  | cons first values =>
    rw [List.find?_cons, List.head?_cons, Option.getD_some]
    by_cases hfirst : first = name
    · subst hfirst
      cases hlater : values.find? (· != first) with
      | none => simpa using hlater
      | some value =>
        have hne : value ≠ first := by simpa using List.find?_some hlater
        have hmem := List.mem_of_find?_eq_some hlater
        simp only [bne_self_eq_false, Option.getD_some, true_implies]
        constructor
        · exact fun heq => absurd heq hne
        · exact fun hall => hall value (List.mem_cons_of_mem first hmem)
    · simp [hfirst, bne_iff_ne.mpr hfirst]

namespace Correction

/-- A string of a statement becomes the first stored value of its name that is another text, and
stays as it is where there is none. That is what the first declaration says, unless this one stores
the name itself and a later one something else. -/
theorem Pass.apply_aliasSubstitution_stored (c : Config) (r : Request) (s : Statement)
    (name : String) :
    let stored := r.schema.storedValues r.models name
    let value := (stored.find? (· != name)).getD name
    (∀ quoted ∈ [Literal.single, Literal.double], ∀ i : ℕ,
        s.subexprs[i]? = some (.literal (quoted name)) →
        (Pass.apply c r s .aliasSubstitution).subexprs[i]? = some (.literal (quoted value))) ∧
      (value = stored.head?.getD name ↔
        (stored.head? = some name → ∀ x ∈ stored, x = name)) := by
  intro stored value
  have hvalue : (r.renamings.lookup name).getD name = value := by
    rw [Request.renamings, r.schema.lookup_renamings]
  refine ⟨fun quoted hquoted i hi => ?_, find?_ne_eq_head?_iff stored name⟩
  have hrenamed : Expr.rename r.renamings (.literal (quoted name)) = .literal (quoted value) := by
    rw [← hvalue]
    rcases List.mem_pair.mp hquoted with rfl | rfl <;> rfl
  rw [apply_aliasSubstitution, Statement.rename,
    Statement.subexprs_mapExprs (Expr.inner_renameHere r.renamings), List.getElem?_map, hi,
    Option.map_some]
  exact congrArg some hrenamed

/-- A request of which only the names of values matter. -/
def requestNaming (names : List ValueNames) : Request where
  schema := ⟨[⟨2, 1, "p", "platform", [], .dimension, names⟩]⟩
  models := []
  tenant := none
  filters := []
  date := none

/-- The first stored value named `x` is `u`, and later ones do not count. -/
theorem Pass.apply_aliasSubstitution_stored_first :
    let r := requestNaming
      [⟨some "x", none, []⟩, ⟨some "w", some "u", ["x"]⟩, ⟨some "x", some "x", []⟩,
        ⟨some "y", some "y", ["x"]⟩]
    let s := Statement.ofCondition (some (.columnIs "p" "x"))
    r.schema.storedValues r.models "x" = ["u", "x", "y"] ∧
      s.subexprs[3]? = some (.literal (.single "x")) ∧
      (Pass.apply .standard r s .aliasSubstitution).subexprs[3]? =
        some (.literal (.single "u")) := by
  intro r s
  have hstored : r.schema.storedValues r.models "x" = ["u", "x", "y"] := by decide
  have hi : s.subexprs[3]? = some (.literal (.single "x")) := by decide +kernel
  have h := (apply_aliasSubstitution_stored .standard r s "x").1 .single (by simp) 3 hi
  rw [hstored] at h
  exact ⟨hstored, hi, h⟩

/-- The first value named `x` is stored as `x`, but a later one is stored as `y`. -/
theorem Pass.apply_aliasSubstitution_ne_first :
    ¬ ∀ (c : Config) (r : Request) (s : Statement) (name : String),
      ∀ quoted ∈ [Literal.single, Literal.double], ∀ i : ℕ,
        s.subexprs[i]? = some (.literal (quoted name)) →
        (Pass.apply c r s .aliasSubstitution).subexprs[i]? = some (.literal (quoted
          ((r.schema.storedValues r.models name).head?.getD name))) := by
  intro h
  have hfirst := h .standard
    (requestNaming [⟨some "x", some "x", []⟩, ⟨some "y", some "y", ["x"]⟩])
    (.ofCondition (some (.columnIs "p" "x"))) "x" .single (by simp) 3 (by decide +kernel)
  revert hfirst
  decide +kernel

end Correction

end SemanticQuery
