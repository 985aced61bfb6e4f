import SemanticQuery.Proofs.Correction.Pass

/-!
# Corrections narrow a query

A correction changes the condition of a query and, elsewhere, only makes differences of dates
executable and renames strings. The corrected condition says what the old one said, that the
filters hold, and that the day is the reference date where the old one mentions no time.
-/

namespace SemanticQuery.Correction

open Sql

/-! ### Truth -/

/-- A valuation of expressions that reads `AND`, `OR` and parentheses as they are meant. -/
structure IsTruth (V : Expr → Prop) : Prop where
  and : ∀ left right, V (.binary .and left right) ↔ V left ∧ V right
  or : ∀ left right, V (.binary .or left right) ↔ V left ∨ V right
  nested : ∀ inner, V (.nested inner) ↔ V inner

/-- Expressions of the list that print alike have the same value. -/
def RespectsTexts (V : Expr → Prop) (es : List Expr) : Prop :=
  ∀ a ∈ es, ∀ b ∈ es, a.print = b.print → (V a ↔ V b)

/-- A condition holds, as one that is missing does. -/
def Holds (V : Expr → Prop) (condition : Option Expr) : Prop := ∀ e ∈ condition, V e

@[simp] lemma holds_none (V : Expr → Prop) : Holds V none := by simp [Holds]

@[simp] lemma holds_some (V : Expr → Prop) (e : Expr) : Holds V (some e) ↔ V e := by simp [Holds]

lemma holds_map (V : Expr → Prop) (f : Expr → Expr) (condition : Option Expr) :
    Holds V (condition.map f) ↔ Holds (fun e => V (f e)) condition := by
  cases condition <;> simp

namespace IsTruth

variable {V : Expr → Prop} (hV : IsTruth V)
include hV

lemma conj (left right : Expr) : V (left.conj right) ↔ V left ∧ V right := hV.and left right

/-- An expression is true where all of its conjuncts are. -/
lemma iff_deepConjuncts (e : Expr) : V e ↔ ∀ k ∈ e.deepConjuncts, V k := by
  fun_induction Expr.deepConjuncts e with
  | case1 left right ihl ihr => rw [hV.and, ihl, ihr, List.forall_mem_append]
  | case2 inner _ => simp
  | case3 inner _ ih => rw [hV.nested, ih]
  | case4 e _ _ => simp

lemma holds_iff_conjunctsOf (condition : Option Expr) :
    Holds V condition ↔ ∀ k ∈ conjunctsOf condition, V k := by
  cases condition with
  | none => simp
  | some e => simpa using hV.iff_deepConjuncts e

lemma closed (e : Expr) : V e.closed ↔ V e := by
  unfold Expr.closed
  split
  · exact hV.nested e
  · rfl

lemma parenthesized (e : Expr) : V (parenthesized e) ↔ V e := by
  cases e with
  | nested inner => rfl
  | _ => exact hV.nested _

lemma alsoHolds (condition : Option Expr) (e : Expr) :
    V (alsoHolds condition e) ↔ Holds V condition ∧ V e := by
  cases condition with
  | none => simp [Correction.alsoHolds]
  | some k => rw [Correction.alsoHolds, hV.conj, hV.parenthesized, holds_some]

/-- Behind a map that keeps the joints, a valuation still reads them as they are meant. -/
lemma comp_mapExprs {f : Expr → Expr} (hf : KeepsJoints f) : IsTruth fun e => V (e.mapExprs f) where
  and left right := by rw [hf.mapExprs_binary, hV.and]
  or left right := by rw [hf.mapExprs_binary, hV.or]
  nested inner := by rw [hf.mapExprs_nested, hV.nested]

end IsTruth

/-! ### Injected conditions -/

variable {V : Expr → Prop} {rn : Renaming} {condition : Option Expr} {wanted : List Expr}

/-- Behind an injection the condition says what it said before, and the wanted conditions: one
that is left out prints like a conjunct that is there. -/
lemma holds_injected (hV : IsTruth V) (hwanted : ∀ w ∈ wanted, ∃ name, w.comparedName? = some name)
    (hrenamed : ∀ w ∈ wanted, w.rename rn = w)
    (htexts : RespectsTexts V (wanted ++ (conjunctsOf condition).map (Expr.rename rn))) :
    Holds (fun e => V (e.rename rn)) (injected rn condition wanted) ↔
      Holds (fun e => V (e.rename rn)) condition ∧ ∀ w ∈ wanted, V w := by
  have hW : IsTruth fun e => V (e.rename rn) := hV.comp_mapExprs (Expr.keepsJoints_renameHere rn)
  have hpresent : ∀ w ∈ wanted, Holds (fun e => V (e.rename rn)) condition →
      w.print ∈ (conjunctsOf condition).map (fun k => (k.rename rn).print) → V w := by
    intro w hw hcondition hprint
    obtain ⟨k, hk, hprint⟩ := List.mem_map.mp hprint
    have hk' := (hW.holds_iff_conjunctsOf condition).mp hcondition k hk
    exact (htexts (k.rename rn) (by simpa using .inr ⟨k, hk, rfl⟩) w (by simp [hw]) hprint).mp hk'
  by_cases hlacking : lacking rn condition wanted = []
  · rw [injected_of_lacking_eq_nil hlacking]
    rw [lacking_eq, missing_eq_nil_iff] at hlacking
    exact ⟨fun h => ⟨h, fun w hw => hpresent w hw h (hlacking w hw)⟩, And.left⟩
  · have hclosed : Holds (fun e => V (e.rename rn)) (condition.map Expr.closed) ↔
        Holds (fun e => V (e.rename rn)) condition := by
      rw [holds_map]
      simp only [hW.closed]
    rw [hW.holds_iff_conjunctsOf, conjunctsOf_injected hwanted hlacking, List.forall_mem_append,
      ← hW.holds_iff_conjunctsOf, hclosed]
    refine and_congr_right fun hcondition => ⟨fun hadded w hw => ?_, fun hall a ha => ?_⟩
    · rw [lacking_eq] at hadded
      rcases print_mem_of_missing _ hw with hprint | ⟨a, ha, hprint⟩
      · exact hpresent w hw hcondition hprint
      · have hmem := (mem_of_mem_missing ha).1
        have hVa := hadded a ha
        rw [hrenamed a hmem] at hVa
        exact (htexts a (by simp [hmem]) w (by simp [hw]) hprint).mp hVa
    · have hmem := mem_of_mem_lacking ha
      rw [hrenamed a hmem]
      exact hall a hmem

/-! ### Whole corrections -/

/-- An expression with its differences of dates executable and then its strings renamed. -/
def normalized (rn : Renaming) (e : Expr) : Expr := e.executable.rename rn

/-- The conditions whose texts decide what is injected: the wanted ones and the conjuncts that a
statement has when filters are injected, with their strings renamed. -/
def compared (c : Config) (r : Request) (s : Statement) : List Expr :=
  r.wanted c.tenantBizName ++ (conjunctsOf (datedExecutable c r s)).map (Expr.rename r.renamings)

/-- What a correction `s'` of `s` may do. A valuation has to respect texts only among the
conditions that are compared by them: trees that differ may print alike, such as the two readings
of `a OR b AND c`, so that a valuation that respected all texts would be constant. -/
structure Narrows (c : Config) (r : Request) (s s' : Statement) : Prop where
  elsewhere :
    s'.withCondition none = (s.executable.rename r.renamings).withCondition none
  condition : ∀ V, IsTruth V → RespectsTexts V (compared c r s) →
    (Holds V s'.condition? ↔
      Holds V (s.condition?.map (normalized r.renamings)) ∧
      (∀ f ∈ r.allFilters c.tenantBizName, ∀ e, f.condition = .ok e →
        V (e.rename r.renamings)) ∧
      ∀ date, r.date.bind Calendar.canonicalDate = some date →
        c.timeDimensions.containsAny s.conditionColumns = false →
          V (normalized r.renamings (.columnIs c.timeDimensions.day date)))

variable {c : Config} {r : Request} {s : Statement}

lemma forall_mem_dateCondition? {P : Expr → Prop} :
    (∀ e ∈ dateCondition? c r s, P e) ↔
      ∀ date, r.date.bind Calendar.canonicalDate = some date →
        c.timeDimensions.containsAny s.conditionColumns = false →
          P (.columnIs c.timeDimensions.day date) := by
  unfold dateCondition?
  generalize r.date.bind Calendar.canonicalDate = date?
  cases c.timeDimensions.containsAny s.conditionColumns <;> simp

/-- Behind the first two passes the condition says what it said before, and that the day is the
reference date if the date was added. -/
lemma holds_dated (hV : IsTruth V) :
    Holds V (dated c r s) ↔ Holds V s.condition? ∧ ∀ e ∈ dateCondition? c r s, V e := by
  unfold dated
  cases dateCondition? c r s with
  | none => simp
  | some e => simp [hV.alsoHolds]

lemma isTruth_normalized (hV : IsTruth V) : IsTruth fun e => V (normalized rn e) :=
  (hV.comp_mapExprs (Expr.keepsJoints_renameHere rn)).comp_mapExprs
    Expr.keepsJoints_executableHere

/-- Where every filter is accepted and no stored value is renamed itself, a correction narrows a
query by its filters and its date, and changes nothing else. -/
theorem narrows_run_order (hs : s.selection?.isSome = true)
    (haccepted : r.AcceptsFilters c.tenantBizName) (hsettled : r.renamings.IsSettled) :
    Narrows c r s (Pass.run c r Pass.order s) := by
  have hmapped : (s.executable.rename r.renamings).selection?.isSome = true := by
    simpa [Statement.executable, Statement.rename] using hs
  rw [Pass.run_order hs]
  refine ⟨by simp, fun V hV htexts => ?_⟩
  have hfilters : (∀ w ∈ r.wanted c.tenantBizName, V w) ↔
      ∀ f ∈ r.allFilters c.tenantBizName, ∀ e, f.condition = .ok e → V (e.rename r.renamings) := by
    simp only [mem_wanted_iff haccepted]
    constructor
    · intro h f hf e he
      exact h _ ⟨f, hf, e, he, rfl⟩
    · rintro h _ ⟨f, hf, e, he, rfl⟩
      exact h f hf e he
  calc
    Holds V (((s.executable.rename r.renamings).withCondition (corrected c r s)).condition?)
      ↔ Holds (fun e => V (e.rename r.renamings))
          (injected r.renamings (datedExecutable c r s) (r.wanted c.tenantBizName)) := by
        rw [Statement.condition?_withCondition hmapped, corrected, holds_map]
    _ ↔ Holds (fun e => V (e.rename r.renamings)) (datedExecutable c r s) ∧
          ∀ w ∈ r.wanted c.tenantBizName, V w :=
        holds_injected hV exists_comparedName?_of_mem_wanted (rename_of_mem_wanted hsettled)
          htexts
    _ ↔ (Holds (fun e => V (normalized r.renamings e)) s.condition? ∧
          ∀ e ∈ dateCondition? c r s, V (normalized r.renamings e)) ∧
          ∀ w ∈ r.wanted c.tenantBizName, V w := by
        rw [datedExecutable, holds_map, ← holds_dated (isTruth_normalized hV)]
        rfl
    _ ↔ _ := by
        rw [hfilters, forall_mem_dateCondition?, holds_map]
        tauto

/-- The valuation that holds the conditions with the given texts for true. -/
def truthOf (texts : List String) : Expr → Bool
  | .binary .and left right => truthOf texts left && truthOf texts right
  | .binary .or left right => truthOf texts left || truthOf texts right
  | .nested inner => truthOf texts inner
  | e => texts.contains e.print

lemma isTruth_truthOf (texts : List String) : IsTruth fun e => truthOf texts e = true where
  and left right := by simp [truthOf]
  or left right := by simp [truthOf]
  nested inner := by simp [truthOf]

set_option maxRecDepth 100000 in
/-- A query with an open `OR` and without a time, which lacks a filter, the tenant and the date. -/
theorem narrows_run_order_tenant :
    let r : Request := { requestFor "u" "v" with tenant := some 7, date := some "2024-01-31" }
    let s : Statement := .ofCondition
      (some (.binary .or (.columnIs "p" "x") (.columnIs "q" "y")))
    let V : Expr → Prop := fun e => truthOf ["p = 'u'", "tenant = 7"] e = true
    s.selection?.isSome = true ∧ r.AcceptsFilters Config.standard.tenantBizName ∧
      r.renamings.IsSettled ∧ IsTruth V ∧ RespectsTexts V (compared .standard r s) ∧
      Narrows .standard r s (Pass.run .standard r Pass.order s) := by
  intro r s V
  have haccepted : r.AcceptsFilters Config.standard.tenantBizName := by
    unfold Request.AcceptsFilters
    decide +kernel
  have hsettled : r.renamings.IsSettled := Renaming.isSettled_of_forall_mem (by decide +kernel)
  have htexts : RespectsTexts V (compared .standard r s) := by
    unfold RespectsTexts
    decide +kernel
  exact ⟨rfl, haccepted, hsettled, isTruth_truthOf _, htexts,
    narrows_run_order rfl haccepted hsettled⟩

end SemanticQuery.Correction
