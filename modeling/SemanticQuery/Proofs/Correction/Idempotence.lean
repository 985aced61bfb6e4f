import SemanticQuery.Proofs.Correction.Narrowing
import SemanticQuery.Proofs.Sql.Equality
import SemanticQuery.Proofs.Sql.Parser.SoundQuery

/-!
# Correcting twice

A corrected statement is a fixed point of every pass: it mentions a time wherever a date would be
added, it has no difference of dates left, its conjuncts are those that the filters want, and none
of its strings is renamed. So a corrected text is corrected to itself if it reads as it was meant.
-/

namespace SemanticQuery.Correction

open Sql

variable {c : Config} {r : Request} {s : Statement}

/-! ### Fixed points of passes -/

/-- No pass changes the statement. -/
def IsFixed (c : Config) (r : Request) (s : Statement) : Prop :=
  ∀ p changed, Pass.change c r s p ≠ .ok (some changed)

lemma IsFixed.apply_eq (h : IsFixed c r s) (p : Pass) : Pass.apply c r s p = s := by
  unfold Pass.apply
  split
  next changed hchange => exact absurd hchange (h p changed)
  next _ => rfl

/-- No passes change a statement that no single pass changes. -/
lemma IsFixed.run_eq (h : IsFixed c r s) (passes : List Pass) : Pass.run c r passes s = s := by
  induction passes with
  | nil => rfl
  | cons p passes ih => simpa [Pass.run, h.apply_eq p] using ih

/-! ### Expressions within a condition -/

/-- The expression stands somewhere in the condition, which may be missing. -/
def Within (x : Expr) (condition : Option Expr) : Prop := ∃ e ∈ condition, x ∈ e.subexprs

variable {x e : Expr} {condition : Option Expr}

@[simp] lemma within_some : Within x (some e) ↔ x ∈ e.subexprs := by simp [Within]

lemma mem_subexprs_alsoHolds (h : x ∈ e.subexprs) : x ∈ (alsoHolds condition e).subexprs := by
  cases condition with
  | none => exact h
  | some k => exact mem_subexprs_binary.mpr (.inr (.inr h))

lemma within_closed (h : Within x condition) : Within x (condition.map Expr.closed) := by
  obtain ⟨e, rfl, hx⟩ := h
  rw [Option.map_some, within_some]
  unfold Expr.closed
  split
  · exact mem_subexprs_nested.mpr (.inr hx)
  · exact hx

lemma within_of_within_closed (h : Within x (condition.map Expr.closed)) :
    Within x condition ∨ x.isJoint = true := by
  obtain ⟨_, hmap, hx⟩ := h
  obtain ⟨e, rfl, rfl⟩ := Option.map_eq_some_iff.mp hmap
  unfold Expr.closed at hx
  split at hx
  · rcases mem_subexprs_nested.mp hx with rfl | hx
    · exact .inr rfl
    · exact .inl ⟨e, rfl, hx⟩
  · exact .inl ⟨e, rfl, hx⟩

lemma within_joined {es : List Expr} (h : Within x condition) : Within x (joined condition es) := by
  induction es generalizing condition with
  | nil => simpa using h
  | cons e es ih =>
    obtain ⟨k, rfl, hx⟩ := h
    exact ih ⟨_, rfl, mem_subexprs_binary.mpr (.inr (.inl hx))⟩

lemma within_joined_of_mem {es : List Expr} (he : e ∈ es) (hx : x ∈ e.subexprs) :
    Within x (joined condition es) := by
  induction es generalizing condition with
  | nil => cases he
  | cons first es ih =>
    rcases List.mem_cons.mp he with rfl | he
    · have hjoined : ∀ k : Expr, x ∈ k.subexprs → Within x (joined (some k) es) :=
        fun k hk => within_joined (within_some.mpr hk)
      cases condition with
      | none => exact hjoined e hx
      | some k => exact hjoined (k.conj e) (mem_subexprs_binary.mpr (.inr (.inr hx)))
    · cases condition with
      | none => exact ih he
      | some k => exact ih he

/-- What joins conditions is all that joining adds. -/
lemma within_of_within_joined {es : List Expr} (h : Within x (joined condition es)) :
    Within x condition ∨ (∃ e ∈ es, x ∈ e.subexprs) ∨ x.isJoint = true := by
  induction es generalizing condition with
  | nil => exact .inl (by simpa using h)
  | cons e es ih =>
    cases condition with
    | none =>
      rcases ih h with h | ⟨a, ha, hx⟩ | h
      · exact .inr (.inl ⟨e, List.mem_cons_self, within_some.mp h⟩)
      · exact .inr (.inl ⟨a, List.mem_cons_of_mem e ha, hx⟩)
      · exact .inr (.inr h)
    | some k =>
      rcases ih h with h | ⟨a, ha, hx⟩ | h
      · rcases mem_subexprs_binary.mp (within_some.mp h) with rfl | hx | hx
        · exact .inr (.inr rfl)
        · exact .inl (within_some.mpr hx)
        · exact .inr (.inl ⟨e, List.mem_cons_self, hx⟩)
      · exact .inr (.inl ⟨a, List.mem_cons_of_mem e ha, hx⟩)
      · exact .inr (.inr h)

variable {rn : Renaming} {wanted : List Expr}

lemma within_injected (h : Within x condition) : Within x (injected rn condition wanted) := by
  unfold injected
  split
  · exact h
  · exact within_joined (within_closed h)

lemma within_of_within_injected (h : Within x (injected rn condition wanted)) :
    Within x condition ∨ (∃ w ∈ lacking rn condition wanted, x ∈ w.subexprs) ∨
      x.isJoint = true := by
  unfold injected at h
  split at h
  · exact .inl h
  · rcases within_of_within_joined h with h | ⟨a, ha, hx⟩ | h
    · exact (within_of_within_closed h).imp_right .inr
    · exact .inr (.inl ⟨a, ha, hx⟩)
    · exact .inr (.inr h)

lemma within_injected_iff (hx : x.isJoint = false) :
    Within x (injected rn condition wanted) ↔
      Within x condition ∨ ∃ e ∈ lacking rn condition wanted, x ∈ e.subexprs := by
  constructor
  · intro h
    rcases within_of_within_injected h with h | h | hjoint
    · exact .inl h
    · exact .inr h
    · exact absurd (hx.symm.trans hjoint) Bool.false_ne_true
  · rintro (h | ⟨e, he, h⟩)
    · exact within_injected h
    · rw [injected, if_neg (List.ne_nil_of_mem he)]
      exact within_joined_of_mem he h

/-! ### The corrected statement -/

/-- A correction renames a statement that is executable and has the injected condition. -/
lemma run_order_eq_rename (hs : s.selection?.isSome = true) :
    Pass.run c r Pass.order s =
      (s.executable.withCondition (injected r.renamings (datedExecutable c r s)
        (r.wanted c.tenantBizName))).rename r.renamings := by
  rw [Pass.run_order hs]
  exact (Statement.mapExprs_withCondition _ s.executable).symm

/-! ### Columns that stay -/

lemma mem_subexprs_rename {name : String} (hcolumn : x.column? = some name)
    (hx : x ∈ e.subexprs) : x ∈ (e.rename rn).subexprs := by
  refine Expr.mem_subexprs_mapExprs ?_ ?_ e hx
  · rw [Expr.mapExprs_of_column? hcolumn (by cases x <;> simp_all [Expr.column?, Expr.renameHere])]
    exact Expr.mem_subexprs_self x
  · intro e hinner
    rw [Expr.subexprs, Expr.inner_renameHere]
    exact List.mem_cons_of_mem _ hinner

/-- A column that is not named like a unit of time stays in the condition. -/
lemma mem_conditionColumns_run_order (hs : s.selection?.isSome = true) {name : String}
    (hcolumn : x.column? = some name) (hunit : isTimeUnit name = false)
    (hx : Within x (dated c r s)) : name ∈ (Pass.run c r Pass.order s).conditionColumns := by
  have hexecutable : Within x (datedExecutable c r s) := by
    obtain ⟨e, he, hx⟩ := hx
    exact ⟨e.executable, Option.mem_map_of_mem _ he,
      Expr.mem_subexprs_executable hcolumn hunit hx⟩
  obtain ⟨e, he, hx⟩ : Within x
      (injected r.renamings (datedExecutable c r s) (r.wanted c.tenantBizName)) :=
    within_injected hexecutable
  rw [Statement.mem_conditionColumns, condition?_run_order hs]
  exact ⟨e.rename r.renamings, Option.mem_map_of_mem _ he, x, mem_subexprs_rename hcolumn hx,
    hcolumn⟩

/-- The columns that hold times are not named like units of time. -/
def TimesAvoidUnits (t : TimeDimensions) : Prop :=
  ∀ name ∈ [t.day, t.week, t.month], isTimeUnit name = false

/-- A corrected statement mentions a time, or there is no reference date. -/
lemma addDate_run_order (hs : s.selection?.isSome = true)
    (htimes : TimesAvoidUnits c.timeDimensions) :
    addDate r c.timeDimensions (Pass.run c r Pass.order s) = none := by
  rw [addDate_eq (isSome_selection?_run_order hs), Option.map_eq_none_iff]
  have hcontains : ∀ {x : Expr} {name : String}, name ∈ [c.timeDimensions.day,
      c.timeDimensions.week, c.timeDimensions.month] → x.column? = some name →
      Within x (dated c r s) →
      c.timeDimensions.containsAny (Pass.run c r Pass.order s).conditionColumns = true := by
    intro x name hname hcolumn hx
    have hmem := mem_conditionColumns_run_order hs hcolumn (htimes name hname) hx
    exact List.any_eq_true.mpr ⟨name, hmem, by simpa [or_assoc] using hname⟩
  unfold dateCondition?
  by_cases hmentions : c.timeDimensions.containsAny s.conditionColumns = true
  · -- The statement mentioned a time of its own.
    have hdated : dated c r s = s.condition? := by simp [dated, dateCondition?, hmentions]
    obtain ⟨name, hmem, hname⟩ := List.any_eq_true.mp hmentions
    obtain ⟨e, he, x, hx, hcolumn⟩ := Statement.mem_conditionColumns.mp hmem
    rw [if_pos (hcontains (by simpa [or_assoc] using hname) hcolumn (hdated ▸ ⟨e, he, hx⟩))]
  · cases hdate : r.date.bind Calendar.canonicalDate with
    | none => simp
    | some date =>
      -- The first correction added the date.
      have hdated : dated c r s =
          some (alsoHolds s.condition? (.columnIs c.timeDimensions.day date)) := by
        simp [dated, dateCondition?, hmentions, hdate]
      have hday : Within (.name (.bare c.timeDimensions.day)) (dated c r s) := by
        rw [hdated, within_some]
        exact mem_subexprs_alsoHolds (mem_subexprs_binary.mpr (.inr (.inl
          (Expr.mem_subexprs_self _))))
      rw [if_pos (hcontains List.mem_cons_self rfl hday)]

/-! ### Differences of dates -/

/-- Where the conditions of filters call no function, a corrected statement has no difference of
dates. -/
lemma hasDateDifference_run_order (hs : s.selection?.isSome = true)
    (hunits : AvoidsUnits r.renamings)
    (hcalls : ∀ f ∈ r.allFilters c.tenantBizName, ∀ e, f.condition = .ok e →
      ∀ x ∈ e.subexprs, x.isDateDifference = false) :
    (Pass.run c r Pass.order s).hasDateDifference = false := by
  rw [run_order_eq_rename hs, Statement.hasDateDifference_eq_false_iff]
  refine Statement.not_isDateDifference_of_mem_rename hunits fun x hx => ?_
  rcases Statement.mem_subexprs_withCondition hx with hx | hx
  · exact Statement.not_isDateDifference_of_mem_executable s x hx
  rcases within_of_within_injected hx with ⟨_, hmap, hx⟩ | ⟨w, hw, hx⟩ | hjoint
  · obtain ⟨e, -, rfl⟩ := Option.map_eq_some_iff.mp hmap
    exact Expr.forall_subexprs_mapExprs Expr.establishes_not_isDateDifference e
      (fun _ _ => trivial) x hx
  · obtain ⟨f, hf, e, he, rfl⟩ := exists_filter_of_mem_wanted (mem_of_mem_lacking hw)
    exact Expr.forall_subexprs_mapExprs (Expr.establishes_not_isDateDifference_rename hunits) e
      (hcalls f hf e he) x hx
  · cases x <;> simp_all [Expr.isJoint, Expr.isDateDifference]

/-! ### Filters -/

/-- The expressions of the list that print alike are the same. -/
def AreTexts (es : List Expr) : Prop := ∀ a ∈ es, ∀ b ∈ es, a.print = b.print → a = b

/-- Behind an injection nothing is lacking. -/
lemma lacking_corrected_eq_nil (hwell : ∀ k ∈ condition, k.isWellJoined = true)
    (hwanted : ∀ w ∈ wanted, ∃ name, w.comparedName? = some name)
    (hrenamed : ∀ w ∈ wanted, w.rename rn = w) (hsettled : rn.IsSettled)
    (htexts : AreTexts (wanted ++ (conjunctsOf condition).map (Expr.rename rn))) :
    lacking rn ((injected rn condition wanted).map (Expr.rename rn)) wanted = [] := by
  have hconjuncts : conjunctsOf ((injected rn condition wanted).map (Expr.rename rn)) =
      (conjunctsOf (injected rn condition wanted)).map (Expr.rename rn) :=
    (Expr.keepsJoints_renameHere rn).conjunctsOf_map _
  rw [lacking_eq, missing_eq_nil_iff, hconjuncts, List.map_map]
  intro w hw
  have hor : ∀ left right, condition = some (.binary .or left right) →
      ((Expr.binary .or left right).rename rn).print ≠ w.print := by
    rintro left right rfl hprint
    -- What prints like a comparison is that comparison, and no `OR`.
    have heq := htexts _ (by simp [Expr.deepConjuncts]) w (by simp [hw]) hprint
    obtain ⟨name, hname⟩ := hwanted w hw
    rw [← heq, Expr.rename, (Expr.keepsJoints_renameHere rn).mapExprs_binary] at hname
    simp [Expr.comparedName?] at hname
  obtain ⟨k, hk, hprint | ⟨hmem, hprint⟩⟩ := exists_conjunct_injected hwanted hwell hw hor
  · exact List.mem_map.mpr ⟨k, hk, by simp [Expr.rename_rename hsettled, hprint]⟩
  · exact List.mem_map.mpr ⟨k, hk, by simp [hrenamed k hmem, hprint]⟩

/-- A corrected statement lacks no filter, or a filter is refused and none is added. -/
lemma inject_run_order (hs : s.selection?.isSome = true) (hwell : s.IsWellJoined)
    (hsettled : r.renamings.IsSettled) (htexts : AreTexts (compared c r s)) (changed : Statement) :
    inject r c.tenantBizName (Pass.run c r Pass.order s) ≠ .ok (some changed) := by
  cases hwanted : conditions r.renamings (r.allFilters c.tenantBizName) with
  | error failure => simp [inject, hwanted, bind, Except.bind]
  | ok wanted =>
    obtain rfl : r.wanted c.tenantBizName = wanted := by simp [Request.wanted, hwanted]
    rw [inject_eq (isSome_selection?_run_order hs) hwanted, condition?_run_order hs, corrected,
      if_pos (lacking_corrected_eq_nil (isWellJoined_datedExecutable hwell)
        exists_comparedName?_of_mem_wanted (rename_of_mem_wanted hsettled) hsettled htexts)]
    simp

/-! ### The whole correction -/

/-- Whether an expression is the call of a function. -/
def isCall : Expr → Bool
  | .call _ => true
  | _ => false

/-- No function is called in the conditions of the filters that are accepted. -/
def CallsNothing (c : Config) (r : Request) : Prop :=
  ∀ f ∈ r.allFilters c.tenantBizName, ∀ e, f.condition = .ok e →
    ∀ x ∈ e.subexprs, isCall x = false

lemma isFixed_run_order (hs : s.selection?.isSome = true) (hwell : s.IsWellJoined)
    (htexts : AreTexts (compared c r s)) (hsettled : r.renamings.IsSettled)
    (hunits : AvoidsUnits r.renamings) (htimes : TimesAvoidUnits c.timeDimensions)
    (hcalls : CallsNothing c r) : IsFixed c r (Pass.run c r Pass.order s) := by
  intro p changed
  cases p with
  | dateDefault => simp [Pass.change, addDate_run_order hs htimes]
  | dateDiff =>
    have hnone : (Pass.run c r Pass.order s).hasDateDifference = false := by
      refine hasDateDifference_run_order hs hunits fun f hf e he x hx => ?_
      by_contra hdiff
      obtain ⟨function, _, rfl, -⟩ := Expr.exists_call_of_isDateDifference (by simpa using hdiff)
      exact Bool.noConfusion (hcalls f hf e he _ hx)
    simp [Pass.change, hnone]
  | filterInjection => exact inject_run_order hs hwell hsettled htexts changed
  | aliasSubstitution =>
    have hnone : (Pass.run c r Pass.order s).renamedCount r.renamings = 0 := by
      rw [run_order_eq_rename hs]
      exact Statement.renamedCount_rename hsettled _
    simp [Pass.change, hnone]

/-- The corrected statement of a text reads as it was printed, and expressions that are compared by
their texts differ in them. -/
def ReadsAsPrinted (c : Config) (r : Request) (text : String) : Prop :=
  ∀ s, Statement.readSelection text = .ok s →
    Statement.readSelection (Pass.run c r Pass.order s).print = .ok (Pass.run c r Pass.order s) ∧
      AreTexts (compared c r s)

/-- A corrected text is corrected to itself, and no pass has anything to do for it: no date and no
filter is added, no difference of dates is made executable, and no string is renamed. -/
theorem correct_correct {text : String} (hread : ReadsAsPrinted c r text)
    (hsettled : r.renamings.IsSettled) (hunits : AvoidsUnits r.renamings)
    (htimes : TimesAvoidUnits c.timeDimensions) (hcalls : CallsNothing c r) :
    correct c r (correct c r text) = correct c r text ∧
      ∀ s, Statement.readSelection (correct c r text) = .ok s → IsFixed c r s := by
  cases htext : Statement.readSelection text with
  | error failure =>
    have hsame : correct c r text = text := by simp [correct, correct?, htext, Except.map]
    rw [hsame, hsame, htext]
    simp
  | ok s =>
    obtain ⟨hwell, hs⟩ := Statement.isWellJoined_of_readSelection htext
    obtain ⟨hback, htexts⟩ := hread s htext
    have hfixed := isFixed_run_order hs hwell htexts hsettled hunits htimes hcalls
    have hfirst : correct c r text = (Pass.run c r Pass.order s).print := by
      simp [correct, correct?, htext, Except.map]
    have hsecond : correct c r (Pass.run c r Pass.order s).print =
        (Pass.run c r Pass.order s).print := by
      simp [correct, correct?, hback, Except.map, hfixed.run_eq]
    rw [hfirst, hsecond, hback]
    exact ⟨rfl, fun s' hs' => Except.ok.inj hs' ▸ hfixed⟩

set_option maxRecDepth 100000 in
/-- A query without a time, with a difference of dates and a string that is renamed, which lacks a
filter and the tenant. -/
theorem correct_correct_tenant :
    let r : Request := { requestFor "u" "v" with tenant := some 7, date := some "2024-01-31" }
    let text := "SELECT DATEDIFF('day', b, d) FROM t WHERE q = 'y' OR a = 1"
    let out := "SELECT TIMESTAMPDIFF(DAY, b, d) FROM t WHERE (q = 'v' OR a = 1) AND 数据日期 = " ++
      "'2024-01-31' AND p = 'u' AND tenant = 7"
    ReadsAsPrinted .standard r text ∧ r.renamings.IsSettled ∧ AvoidsUnits r.renamings ∧
      TimesAvoidUnits Config.standard.timeDimensions ∧ CallsNothing .standard r ∧
      correct .standard r text = out ∧ correct .standard r out = out := by
  intro r text out
  have hread : ReadsAsPrinted .standard r text := by
    have hall : (Statement.readSelection text).toOption.all (fun s =>
        Statement.readSelection (Pass.run .standard r Pass.order s).print =
            .ok (Pass.run .standard r Pass.order s) ∧
          ∀ a ∈ compared .standard r s, ∀ b ∈ compared .standard r s,
            a.print = b.print → a = b) = true := by
      decide +kernel
    intro s hs
    simp only [hs, Except.toOption, Option.all_some, decide_eq_true_eq] at hall
    exact hall
  have hsettled : r.renamings.IsSettled := Renaming.isSettled_of_forall_mem (by decide +kernel)
  have hunits : AvoidsUnits r.renamings := by
    have hall : ∀ p ∈ r.renamings, isTimeUnit p.2 = false := by decide +kernel
    exact fun name stored h => hall (name, stored) (Renaming.mem_of_lookup h)
  have htimes : TimesAvoidUnits Config.standard.timeDimensions := by
    unfold TimesAvoidUnits
    decide +kernel
  have hcalls : CallsNothing .standard r := by
    have hall : ∀ f ∈ r.allFilters Config.standard.tenantBizName,
        f.condition.toOption.all (fun e => e.subexprs.all fun x => !isCall x) = true := by
      decide +kernel
    intro f hf e he x hx
    have hnone := hall f hf
    rw [he] at hnone
    simpa using List.all_eq_true.mp hnone x hx
  have hout : correct .standard r text = out := by decide +kernel
  refine ⟨hread, hsettled, hunits, htimes, hcalls, hout, ?_⟩
  rw [← hout]
  exact (correct_correct hread hsettled hunits htimes hcalls).1

end SemanticQuery.Correction
