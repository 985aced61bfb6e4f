import SemanticQuery.Proofs.Correction.Injection
import SemanticQuery.Proofs.Sql.Equality
import SemanticQuery.Proofs.Sql.Parser.SoundQuery

/-!
# What an injection adds

Of the wanted conditions an injection adds those that are new: the first of the ones that print
alike, unless a conjunct of the old condition prints like it once its strings are renamed. They
stand behind the old condition in the order in which they are wanted, joined by `AND` from the left.
A tidy condition stays tidy, so wherever an `AND` is printed, what stands beside it is no `OR`.
-/

namespace SemanticQuery

open Sql

/-! ### Conjuncts -/

namespace Sql

/-- `k` is a conjunct of a condition: it is reached through `AND` and through parentheses that hold
no open `OR`. -/
inductive Expr.IsConjunct (k : Expr) : Expr → Prop
  | self (hand : ∀ left right, k ≠ .binary .and left right)
      (hnested : ∀ inner, k = .nested inner → inner.hasOpenOr = true) : IsConjunct k k
  | left {left right : Expr} : IsConjunct k left → IsConjunct k (.binary .and left right)
  | right {left right : Expr} : IsConjunct k right → IsConjunct k (.binary .and left right)
  | nested {inner : Expr} : inner.hasOpenOr = false → IsConjunct k inner →
      IsConjunct k (.nested inner)

lemma Expr.mem_deepConjuncts_iff {k e : Expr} : k ∈ e.deepConjuncts ↔ k.IsConjunct e := by
  constructor
  · intro h
    fun_induction Expr.deepConjuncts e with
    | case1 left right ihl ihr =>
      rcases List.mem_append.mp h with h | h
      · exact .left (ihl h)
      · exact .right (ihr h)
    | case2 inner hopen =>
      obtain rfl : k = .nested inner := by simpa using h
      exact .self (by simp) (by simpa using hopen)
    | case3 inner hopen ih => exact .nested (by simpa using hopen) (ih h)
    | case4 e hand hnested =>
      obtain rfl : k = e := by simpa using h
      exact .self hand fun inner hinner => absurd hinner (hnested inner)
  · intro h
    induction h with
    | self hand hnested =>
      unfold Expr.deepConjuncts
      split
      · exact absurd rfl (hand _ _)
      next inner => simp [hnested inner rfl]
      · exact List.mem_singleton_self k
    | left _ ih => exact List.mem_append_left _ ih
    | right _ ih => exact List.mem_append_right _ ih
    | nested hopen _ ih => simpa [Expr.deepConjuncts, hopen] using ih

/-! ### Joined conditions -/

/-- Conditions joined by `AND` from the left, if there are any. -/
def conjunction : List Expr → Option Expr
  | [] => none
  | e :: es => some (es.foldl Expr.conj e)

lemma joined_eq_conjunction (condition : Option Expr) (es : List Expr) :
    joined condition es = conjunction (condition.toList ++ es) := by
  have hsome : ∀ es k, joined (some k) es = some (es.foldl Expr.conj k) := by
    intro es
    induction es with
    | nil => exact fun _ => rfl
    | cons e es ih => exact fun k => ih (k.conj e)
  cases condition with
  | some k => exact hsome es k
  | none =>
    cases es with
    | nil => rfl
    | cons e es => exact hsome es e

lemma Expr.isTidy_conj {left right : Expr} (hleft : left.hasOpenOr = false ∧ left.IsTidy)
    (hright : right.hasOpenOr = false ∧ right.IsTidy) : (left.conj right).IsTidy := by
  refine isTidy_iff.mpr ⟨⟨?_, ?_⟩, ?_⟩
  · exact isOr_eq_false_of_hasOpenOr hleft.1
  · exact isOr_eq_false_of_hasOpenOr hright.1
  · simpa [conj, children] using ⟨hleft.2, hright.2⟩

/-- Tidy conditions without an open `OR` have a tidy conjunction. -/
lemma isTidy_of_mem_conjunction {es : List Expr} (hes : ∀ e ∈ es, e.hasOpenOr = false ∧ e.IsTidy)
    {k : Expr} (hk : k ∈ conjunction es) : k.IsTidy := by
  have hfold : ∀ (es : List Expr) (k : Expr), k.hasOpenOr = false ∧ k.IsTidy →
      (∀ e ∈ es, e.hasOpenOr = false ∧ e.IsTidy) → (es.foldl Expr.conj k).IsTidy := by
    intro es
    induction es with
    | nil => exact fun k hk _ => hk.2
    | cons e es ih =>
      intro k hk hes
      obtain ⟨he, hes⟩ := List.forall_mem_cons.mp hes
      exact ih (k.conj e) ⟨by simp [hk.1, he.1], Expr.isTidy_conj hk he⟩ hes
  cases es with
  | nil => simp [conjunction] at hk
  | cons e es =>
    obtain rfl : es.foldl Expr.conj e = k := by simpa [conjunction] using hk
    obtain ⟨he, hes⟩ := List.forall_mem_cons.mp hes
    exact hfold es e he hes

/-! ### Printed conjuncts -/

lemma Expr.conjuncts_ne_nil (e : Expr) : e.conjuncts ≠ [] := by
  fun_induction Expr.conjuncts e with
  | case1 left right ihl ihr => simp [ihl]
  | case2 e _ => simp

/-- The text of a condition is that of its conjuncts with `AND` between them. -/
lemma Expr.print_eq_intercalate (e : Expr) :
    e.print = String.intercalate " AND " (e.conjuncts.map Expr.print) := by
  fun_induction Expr.conjuncts e with
  | case1 left right ihl ihr =>
    have hl : left.conjuncts.map Expr.print ≠ [] := by simp [left.conjuncts_ne_nil]
    have hr : right.conjuncts.map Expr.print ≠ [] := by simp [right.conjuncts_ne_nil]
    rw [List.map_append, String.intercalate_append_of_ne_nil hl hr, ← ihl, ← ihr]
    simp [Expr.print, BinaryOp.symbol, String.append_assoc]
  | case2 e _ => simp

/-- Among several conjuncts of a tidy expression none is an `OR`. -/
lemma Expr.IsTidy.eq_of_mem_conjuncts {e x : Expr} (h : e.IsTidy) (hx : x ∈ e.conjuncts)
    (hor : x.isOr = true) : x = e := by
  fun_induction Expr.conjuncts e with
  | case1 left right ihl ihr =>
    obtain ⟨⟨hleft, hright⟩, hchildren⟩ := isTidy_iff.mp h
    have hboth : left.IsTidy ∧ right.IsTidy := by simpa [children] using hchildren
    rcases List.mem_append.mp hx with hx | hx
    · obtain rfl := ihl hboth.1 hx
      simp [hor] at hleft
    · obtain rfl := ihr hboth.2 hx
      simp [hor] at hright
  | case2 e _ => simpa using hx

end Sql

/-! ### New conditions -/

namespace Sql

/-- The condition at a place prints like none before it and like none that is present. -/
def IsFirst (present : List String) (es : List Expr) (i : Nat) : Prop :=
  ∃ w, es[i]? = some w ∧ w.print ∉ present ∧ ∀ j < i, ∀ v, es[j]? = some v → v.print ≠ w.print

variable {present : List String} {e : Expr} {es : List Expr}

lemma isFirst_zero : IsFirst present (e :: es) 0 ↔ e.print ∉ present := by
  simp [IsFirst]

lemma isFirst_succ {i : Nat} :
    IsFirst present (e :: es) (i + 1) ↔ IsFirst (e.print :: present) es i := by
  have hsplit : ∀ w : Expr, (∀ j < i + 1, ∀ v, (e :: es)[j]? = some v → v.print ≠ w.print) ↔
      e.print ≠ w.print ∧ ∀ j < i, ∀ v, es[j]? = some v → v.print ≠ w.print := by
    intro w
    constructor
    · exact fun h => ⟨h 0 (by omega) e rfl, fun j hj v hv => h (j + 1) (by omega) v hv⟩
    · rintro ⟨h0, h⟩ j hj v hv
      cases j with
      | zero => cases hv; exact h0
      | succ j => exact h j (by omega) v hv
  simp only [IsFirst, List.getElem?_cons_succ, hsplit, List.mem_cons, not_or]
  constructor
  · rintro ⟨w, hw, hpresent, he, h⟩
    exact ⟨w, hw, ⟨Ne.symm he, hpresent⟩, h⟩
  · rintro ⟨w, hw, ⟨he, hpresent⟩, h⟩
    exact ⟨w, hw, hpresent, Ne.symm he, h⟩

/-- A present condition changes nothing about the others. -/
lemma isFirst_cons_present (he : e.print ∈ present) (i : Nat) :
    IsFirst (e.print :: present) es i ↔ IsFirst present es i := by
  have hmem : ∀ a, a ∉ e.print :: present ↔ a ∉ present := by
    intro a
    rw [List.mem_cons, not_or, and_iff_right_iff_imp]
    rintro h rfl
    exact h he
  simp only [IsFirst, hmem]

/-- Missing conditions stand at the places, in ascending order, of those that are first. -/
lemma exists_places_missing (present : List String) (es : List Expr) :
    ∃ places : List Nat, places.Pairwise (· < ·) ∧ (∀ i, i ∈ places ↔ IsFirst present es i) ∧
      missing present es = places.filterMap (es[·]?) := by
  -- the places are those of the rest, each one further, and the first one if its condition is new
  induction es generalizing present with
  | nil => exact ⟨[], .nil, by simp [IsFirst], rfl⟩
  | cons e es ih =>
    have hshift : ∀ places : List Nat,
        (places.map (· + 1)).filterMap ((e :: es)[·]?) = places.filterMap (es[·]?) := by
      intro places
      rw [List.filterMap_map]
      rfl
    have hascending : ∀ places : List Nat, places.Pairwise (· < ·) →
        (places.map (· + 1)).Pairwise (· < ·) := by
      intro places h
      exact h.map _ fun a b hab => by omega
    by_cases he : e.print ∈ present
    · obtain ⟨places, hsorted, hmem, heq⟩ := ih present
      refine ⟨places.map (· + 1), hascending places hsorted, fun i => ?_, ?_⟩
      · cases i with
        | zero => simp [isFirst_zero, he]
        | succ i => simp [isFirst_succ, isFirst_cons_present he, hmem]
      · rw [hshift, ← heq, missing, if_pos (by simpa using he)]
    · obtain ⟨places, hsorted, hmem, heq⟩ := ih (e.print :: present)
      refine ⟨0 :: places.map (· + 1), ?_, fun i => ?_, ?_⟩
      · exact List.pairwise_cons.mpr ⟨by simp, hascending places hsorted⟩
      · cases i with
        | zero => simp [isFirst_zero, he]
        | succ i => simp [isFirst_succ, hmem]
      · rw [List.filterMap_cons, hshift, ← heq, missing, if_neg (by simpa using he)]
        rfl

lemma sublist_missing (present : List String) (es : List Expr) :
    (missing present es).Sublist es := by
  induction es generalizing present with
  | nil => exact .refl _
  | cons e es ih =>
    rw [missing]
    split
    · exact (ih present).cons e
    · exact (ih _).cons_cons e

/-- Missing conditions print differently. -/
lemma pairwise_print_missing (present : List String) (es : List Expr) :
    (missing present es).Pairwise fun a b => a.print ≠ b.print := by
  induction es generalizing present with
  | nil => exact .nil
  | cons e es ih =>
    rw [missing]
    split
    · exact ih present
    · refine List.pairwise_cons.mpr ⟨fun b hb heq => ?_, ih _⟩
      exact (mem_of_mem_missing hb).2 (heq ▸ List.mem_cons_self)

end Sql

/-! ### Injection -/

namespace Correction

variable {r : Request} {tenantBizName : String} {s : Statement}

/-- A wanted condition that none before it prints like, and no renamed conjunct of the condition
either. -/
def IsNew (r : Renaming) (condition : Option Expr) (wanted : List Expr) (i : Nat) : Prop :=
  ∃ w, wanted[i]? = some w ∧ (∀ j < i, ∀ v, wanted[j]? = some v → v.print ≠ w.print) ∧
    ∀ e ∈ condition, ∀ k : Expr, k.IsConjunct e → (k.rename r).print ≠ w.print

lemma isFirst_iff_isNew {rn : Renaming} {condition : Option Expr} {wanted : List Expr} {i : Nat} :
    IsFirst ((conjunctsOf condition).map fun k => (k.rename rn).print) wanted i ↔
      IsNew rn condition wanted i := by
  have hpresent : ∀ w : Expr,
      w.print ∉ (conjunctsOf condition).map (fun k => (k.rename rn).print) ↔
        ∀ e ∈ condition, ∀ k : Expr, k.IsConjunct e → (k.rename rn).print ≠ w.print := by
    intro w
    cases condition <;> simp [Expr.mem_deepConjuncts_iff]
  simp only [IsFirst, IsNew, hpresent, and_comm]

/-- An injection succeeds only if all filters are accepted. -/
lemma exists_conditions_of_inject {changed : Option Statement}
    (h : inject r tenantBizName s = .ok changed) :
    ∃ requested tenant, r.filters.mapM Filter.condition = .ok requested ∧
      (r.tenantFilter? tenantBizName).toList.mapM Filter.condition = .ok tenant ∧
      conditions r.renamings (r.allFilters tenantBizName) =
        .ok ((requested ++ tenant).map (Expr.rename r.renamings)) := by
  cases hwanted : conditions r.renamings (r.allFilters tenantBizName) with
  | error failure => simp [inject, hwanted, bind, Except.bind] at h
  | ok wanted =>
    unfold conditions Request.allFilters at hwanted
    rw [List.mapM_append] at hwanted
    cases hrequested : r.filters.mapM Filter.condition with
    | error failure => simp [hrequested, bind, Except.bind] at hwanted
    | ok requested =>
      cases htenant : (r.tenantFilter? tenantBizName).toList.mapM Filter.condition with
      | error failure => simp [hrequested, htenant, bind, Except.bind] at hwanted
      | ok tenant =>
        refine ⟨requested, tenant, rfl, rfl, ?_⟩
        simpa [hrequested, htenant, bind, Except.bind, pure, Except.pure, eq_comm] using hwanted

/-- An injected condition is the old one, in parentheses if it has an open `OR` and something is
added, with what is added joined behind it. -/
lemma injected_eq_conjunction (rn : Renaming) (condition : Option Expr) (wanted : List Expr) :
    injected rn condition wanted =
      conjunction ((if lacking rn condition wanted = [] then condition
        else condition.map Expr.closed).toList ++ lacking rn condition wanted) := by
  rw [← joined_eq_conjunction, injected]
  by_cases h : lacking rn condition wanted = []
  · simp [h]
  · simp [h]

/-- Wanted conditions are read, so they are tidy, and none has an open `OR`. -/
lemma isTidy_of_conditions {rn : Renaming} {fs : List Filter} {wanted : List Expr}
    (h : conditions rn fs = .ok wanted) : ∀ w ∈ wanted, w.hasOpenOr = false ∧ w.IsTidy := by
  intro w hw
  obtain ⟨name, hname⟩ := exists_comparedName?_of_mem h w hw
  refine ⟨Expr.hasOpenOr_of_comparedName? hname, ?_⟩
  obtain ⟨f, -, e, he, rfl⟩ := (mem_iff_of_conditions h w).mp hw
  refine (Expr.keepsJoints_renameHere rn).isTidy_mapExprs (Expr.inner_renameHere rn) ?_
  exact (Expr.isSound_of_readCondition (Filter.condition_eq_ok he).1).isTidy

/-- An injection keeps a condition tidy. -/
lemma isTidy_injected {rn : Renaming} {condition : Option Expr} {wanted : List Expr}
    (hcondition : ∀ e ∈ condition, e.IsTidy)
    (hwanted : ∀ w ∈ wanted, w.hasOpenOr = false ∧ w.IsTidy) :
    ∀ k ∈ injected rn condition wanted, k.IsTidy := by
  by_cases hlacking : lacking rn condition wanted = []
  · rwa [injected_of_lacking_eq_nil hlacking]
  · rw [injected, if_neg hlacking, joined_eq_conjunction]
    refine fun k hk => isTidy_of_mem_conjunction (fun e he => ?_) hk
    rcases List.mem_append.mp he with he | he
    · obtain ⟨old, hold, rfl⟩ : ∃ old ∈ condition, old.closed = e := by
        simpa [Option.mem_toList] using he
      exact ⟨Expr.hasOpenOr_closed old, Expr.isTidy_closed.mpr (hcondition old hold)⟩
    · exact hwanted e (mem_of_mem_lacking he)

/-- What an injection adds: the wanted conditions at the places of the new ones, in order. -/
structure IsAddition (r : Renaming) (condition : Option Expr) (wanted : List Expr)
    (places : List Nat) (added : List Expr) : Prop where
  ascending : places.Pairwise (· < ·)
  mem_places_iff : ∀ i, i ∈ places ↔ IsNew r condition wanted i
  added_eq : added = places.filterMap (wanted[·]?)
  sublist : added.Sublist wanted
  print_ne : added.Pairwise fun a b => a.print ≠ b.print

lemma exists_isAddition_lacking (rn : Renaming) (condition : Option Expr) (wanted : List Expr) :
    ∃ places, IsAddition rn condition wanted places (lacking rn condition wanted) := by
  rw [lacking_eq]
  obtain ⟨places, hascending, hplaces, hadded⟩ :=
    exists_places_missing ((conjunctsOf condition).map fun k => (k.rename rn).print) wanted
  exact ⟨places, hascending, fun i => (hplaces i).trans isFirst_iff_isNew, hadded,
    sublist_missing _ _, pairwise_print_missing _ _⟩

/-- The shape of what an injection leaves. The wanted conditions are those of the request's filters
and behind them the tenant's. The new ones among them stand behind the old condition, joined from
the left, and if there are any an open `OR` of the old condition is put in parentheses. Nothing but
the condition changes. If no `AND` of the old condition has an `OR` beside it then none of the new
one has, so the text of everything in it splits at `AND` into texts none of which is an `OR`. -/
theorem inject_adds {changed : Option Statement} (hs : s.selection?.isSome = true)
    (h : inject r tenantBizName s = .ok changed) :
    ∃ requested tenant places added,
      r.filters.mapM Filter.condition = .ok requested ∧
      (r.tenantFilter? tenantBizName).toList.mapM Filter.condition = .ok tenant ∧
      IsAddition r.renamings s.condition?
        ((requested ++ tenant).map (Expr.rename r.renamings)) places added ∧
      (changed = none ↔ added = []) ∧
      changed.getD s = s.withCondition (conjunction
        ((if added = [] then s.condition? else s.condition?.map Expr.closed).toList ++ added)) ∧
      (changed.getD s).withCondition s.condition? = s ∧
      ((∀ e ∈ s.condition?, e.IsTidy) → ∀ k ∈ (changed.getD s).condition?, k.IsTidy ∧
        ∀ x ∈ k.subexprs, x.print = String.intercalate " AND " (x.conjuncts.map Expr.print) ∧
          ∀ y ∈ x.conjuncts, y.isOr = true → y = x) := by
  obtain ⟨requested, tenant, hrequested, htenant, hwanted⟩ := exists_conditions_of_inject h
  let wanted := (requested ++ tenant).map (Expr.rename r.renamings)
  let added := lacking r.renamings s.condition? wanted
  obtain ⟨places, hplaces⟩ := exists_isAddition_lacking r.renamings s.condition? wanted
  obtain rfl : (if added = [] then none
      else some (s.withCondition (injected r.renamings s.condition? wanted))) = changed :=
    Except.ok.inj ((inject_eq hs hwanted).symm.trans h)
  have hchanged : (if added = [] then none
      else some (s.withCondition (injected r.renamings s.condition? wanted))).getD s =
        s.withCondition (injected r.renamings s.condition? wanted) := by
    split
    next hnil => simp [injected_of_lacking_eq_nil hnil]
    next => rfl
  refine ⟨requested, tenant, places, added, hrequested, htenant, hplaces, ?_, ?_, ?_, ?_⟩
  · split <;> simp_all
  · rw [hchanged, injected_eq_conjunction]
  · rw [hchanged, Statement.withCondition_withCondition, Statement.withCondition_condition?]
  · intro htidy k hk
    rw [hchanged, Statement.condition?_withCondition hs] at hk
    have hk := isTidy_injected htidy (isTidy_of_conditions hwanted) k hk
    exact ⟨hk, fun x hx => ⟨x.print_eq_intercalate, fun y hy hor =>
      (hk.of_mem_subexprs hx).eq_of_mem_conjuncts hy hor⟩⟩

set_option maxRecDepth 100000 in
/-- An open `OR` is put in parentheses, and the filter's and the tenant's condition stand behind
it. -/
theorem inject_adds_tenant :
    let r : Request := { requestFor "u" "v" with tenant := some 7 }
    let or : Expr := .binary .or (.columnIs "p" "u") (.columnIs "q" "y")
    let narrowed : Expr :=
      .binary .and (.binary .and (.nested or) (.columnIs "p" "u")) (.numberIs "tenant" 7)
    (Statement.ofCondition (some or)).selection?.isSome = true ∧
      inject r "tenant_id" (.ofCondition (some or)) = .ok (some (.ofCondition (some narrowed))) ∧
      (Statement.ofCondition (some narrowed)).withCondition (some or) = .ofCondition (some or) ∧
      narrowed.IsTidy := by
  intro r or narrowed
  have h : inject r "tenant_id" (.ofCondition (some or)) =
      .ok (some (.ofCondition (some narrowed))) := by
    decide +kernel
  have hor : ∀ e ∈ (Statement.ofCondition (some or)).condition?, e.IsTidy := by
    rintro _ ⟨⟩
    simp [or, Expr.isTidy_iff_children, Expr.children, Expr.columnIs]
  obtain ⟨_, _, _, _, _, _, _, _, _, hback, htidy⟩ := inject_adds rfl h
  exact ⟨rfl, h, hback, (htidy hor narrowed rfl).1⟩

end Correction

end SemanticQuery
