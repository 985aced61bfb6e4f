import SemanticQuery.Proofs.Correction.DateDifferenceCalls
import SemanticQuery.Proofs.Correction.Declaration
import SemanticQuery.Proofs.Correction.Idempotence

/-!
# Differences of dates that remain

Strings are renamed when the differences of dates have been made executable, and the conditions of
filters are added in between. So a corrected statement holds a difference of dates where a string
of a query stands for a unit of time without being one, or where a filter brings a difference along.
-/

namespace SemanticQuery.Sql

variable {r : Renaming}

/-! ### Renamed units -/

namespace Expr

lemma isSome_timeUnit?_eq (e : Expr) : e.timeUnit?.isSome = e.unitText?.any isTimeUnit := by
  rw [timeUnit?_eq]
  cases e.unitText? with
  | none => rfl
  | some text => cases htime : isTimeUnit text <;> simp [htime]

lemma stringText?_executable (e : Expr) : e.executable.stringText? = e.stringText? := by
  fun_induction stringText? e with
  | case1 | case2 => rfl
  | case3 inner ih => exact ih
  | case4 e hsingle hdouble hnested =>
    cases e with
    | literal value =>
      cases value with
      | single text => exact absurd rfl (hsingle text)
      | double text => exact absurd rfl (hdouble text)
      | _ => rfl
    | nested inner => exact absurd rfl (hnested inner)
    | _ => rfl

/-- A string is renamed; other literals stay, and so does what an operator stands before, which is
never a unit. -/
lemma any_literalText?_rename (r : Renaming) (e : Expr) :
    (e.rename r).literalText?.any isTimeUnit =
      ((e.stringText?.map r.stored).or e.literalText?).any isTimeUnit := by
  match e with
  | .nested inner => exact any_literalText?_rename r inner
  | .unary op operand =>
    have hnone : ∀ text? : Option String, (text?.map (op.symbol ++ ·)).any isTimeUnit = false := by
      intro text?
      cases text? with
      | none => rfl
      | some text => rw [Option.map_some, Option.any_some, isTimeUnit_unary]
    exact (hnone (operand.rename r).literalText?).trans (hnone operand.literalText?).symm
  | .literal (.single _) | .literal (.double _) | .literal (.number _ _) | .literal (.boolean _)
  | .literal (.national _) | .literal (.hex _) | .literal (.bytes _ _) | .literal .null
  | .literal (.placeholder _) | .name _ | .path _ | .binary _ _ _ | .inList _ _ _
  | .like _ _ _ _ _ | .between _ _ _ _ | .cast _ _ _ | .trim _ _ _ | .call _ | .phrase _ =>
    exact congrArg (Option.any isTimeUnit) rfl

/-- A string is renamed to the unit that it stands for; anything else names a unit as before. -/
lemma isSome_timeUnit?_rename (r : Renaming) (e : Expr) :
    (e.rename r).timeUnit?.isSome = ((e.stringText?.map r.stored).or e.unitText?).any isTimeUnit := by
  rw [isSome_timeUnit?_eq]
  match e with
  | .name _ => rfl
  | .literal value => cases value <;> exact any_literalText?_rename r _
  | .path _ | .nested _ | .unary _ _ | .binary _ _ _ | .inList _ _ _ | .like _ _ _ _ _
  | .between _ _ _ _ | .cast _ _ _ | .trim _ _ _ | .call _ | .phrase _ =>
    exact any_literalText?_rename r _

/-- The expression is a string that is no unit of time but stands for one. -/
def StandsForUnit (r : Renaming) (e : Expr) : Prop :=
  ∃ text, e.stringText? = some text ∧ isTimeUnit text = false ∧ isTimeUnit (r.stored text) = true

lemma unitText?_of_stringText? {e : Expr} {text : String} (h : e.stringText? = some text) :
    e.unitText? = some text := by
  have hne : ∀ ident, e ≠ .name ident := by
    rintro ident rfl
    simp [stringText?] at h
  rw [unitText?_of_ne_name hne, literalText?_of_stringText? e h]

lemma standsForUnit_iff {e : Expr} :
    e.StandsForUnit r ↔
      e.timeUnit?.isSome = false ∧ (e.executable.rename r).timeUnit?.isSome = true := by
  rw [isSome_timeUnit?_rename, stringText?_executable, isSome_timeUnit?_eq, StandsForUnit]
  cases hstring : e.stringText? with
  | none =>
    -- what is no string names a unit behind both passes only if it did before
    have hsame : e.executable.unitText?.any isTimeUnit = e.unitText?.any isTimeUnit := by
      rw [← isSome_timeUnit?_eq, ← isSome_timeUnit?_eq, timeUnit?_executable]
    simp [hsame]
  | some text => simp [unitText?_of_stringText? hstring]

end Expr

/-! ### Renamed calls -/

namespace Call

variable {p q : Expr → Prop} {c : Call}

/-- A call has one first argument. -/
lemma MeasuresIn.and (h : c.MeasuresIn p) (h' : c.MeasuresIn q) :
    c.MeasuresIn fun e => p e ∧ q e := by
  obtain ⟨hname, first, start, stop, e, harguments, he, hp⟩ := h
  obtain ⟨-, first', start', stop', e', harguments', he', hq⟩ := h'
  rw [harguments, List.cons.injEq] at harguments'
  obtain ⟨rfl, -⟩ := harguments'
  obtain rfl : e = e' := Option.some.inj (he.symm.trans he')
  exact ⟨hname, first, start, stop, e, harguments, he, hp, hq⟩

lemma MeasuresIn.and_not (h : c.MeasuresIn p) (h' : ¬ c.MeasuresIn q) :
    c.MeasuresIn fun e => p e ∧ ¬ q e := by
  obtain ⟨hname, first, start, stop, e, harguments, he, hp⟩ := h
  exact ⟨hname, first, start, stop, e, harguments, he, hp, fun hq =>
    h' ⟨hname, first, start, stop, e, harguments, he, hq⟩⟩

/-- The call that executes a difference of dates is none, whatever is mapped in it. -/
lemma not_measuresIn_of_executable? {c' : Call} (h : c.executable? = some c') :
    ¬ c'.MeasuresIn p := by
  obtain ⟨_, _, _, _, _, -, -, -, -, rfl⟩ := executable?_eq_some h
  exact fun hmeasures => normalizedName_timestampdiff c _ hmeasures.1

/-- Made executable and renamed, a call is a difference of dates exactly where its first argument
stands for a unit of time. -/
lemma isSome_executable?_renamed_iff :
    (((c.executable?.getD c).mapExprs Expr.executableHere).mapExprs
        (Expr.renameHere r)).executable?.isSome = true ↔ c.MeasuresIn (Expr.StandsForUnit r) := by
  rw [isSome_executable?_iff, measuresIn_mapExprs, measuresIn_mapExprs]
  cases hc : c.executable? with
  | none =>
    have hnone : ¬ c.MeasuresIn fun e => e.timeUnit?.isSome = true := by
      rw [← isSome_executable?_iff, hc]
      exact Bool.false_ne_true
    rw [Option.getD_none]
    constructor
    · intro h
      refine (h.and_not hnone).mono fun e he => ?_
      exact Expr.standsForUnit_iff.mpr ⟨Bool.eq_false_iff.mpr he.2, he.1⟩
    · exact fun h => h.mono fun e he => (Expr.standsForUnit_iff.mp he).2
  | some c' =>
    rw [Option.getD_some]
    constructor
    · exact fun h => absurd h (not_measuresIn_of_executable? hc)
    · intro h
      -- the first argument would name a unit and stand for another one
      have hunit := isSome_executable?_iff.mp (Option.isSome_of_eq_some hc)
      obtain ⟨-, _, _, _, e, -, -, hstands, hsome⟩ := h.and hunit
      rw [(Expr.standsForUnit_iff.mp hstands).1] at hsome
      exact Bool.noConfusion hsome

end Call

/-! ### Calls that are made executable -/

namespace Expr

/-- Units hold no calls. -/
lemma call_notMem_of_unitText? {c : Call} {e : Expr} {text : String}
    (h : e.unitText? = some text) : .call c ∉ e.subexprs := by
  intro hcall
  cases e with
  | name _ => simp [subexprs, inner] at hcall
  | _ =>
    have hliteral := isSome_literalText?_of_mem _ (Option.isSome_of_eq_some h) _ hcall
    simp [literalText?] at hliteral

lemma exists_call_of_executable_eq {e : Expr} {c' : Call} (h : e.executable = .call c') :
    ∃ c, e = .call c := by
  cases e with
  | call c => exact ⟨c, rfl⟩
  | _ => simp [executable, mapExprs, executableHere] at h

/-- What stands in an executable expression is the name of a unit or was made executable. -/
lemma exists_of_mem_children_executable {e y : Expr} (h : y ∈ e.executable.children) :
    (∃ ident, y = .name ident) ∨ ∃ x ∈ e.children, y = x.executable := by
  have hinner : ∀ {y}, y ∈ (e.mapInner executableHere).children →
      ∃ x ∈ e.children, y = x.executable := by
    intro y hy
    rw [children_mapInner, List.mem_map] at hy
    obtain ⟨x, hx, rfl⟩ := hy
    exact ⟨x, hx, rfl⟩
  rw [executable_eq] at h
  cases hdiff : (e.mapInner executableHere).isDateDifference with
  | false =>
    rw [executableHere_of_not_isDateDifference hdiff] at h
    exact .inr (hinner h)
  | true =>
    obtain ⟨c, c', hcall, hc⟩ := exists_call_of_isDateDifference hdiff
    rw [hcall, executableHere_call, hc, Option.getD_some] at h
    rcases Call.mem_children_of_executable? hc y h with hname | hy
    · exact .inl hname
    · refine .inr (hinner ?_)
      rw [hcall]
      exact hy

/-- What was made executable stands in the executable expression, or it names a unit. -/
lemma mem_children_executable_or {e x : Expr} (h : x ∈ e.children) :
    (∃ text, x.executable.unitText? = some text) ∨ x.executable ∈ e.executable.children := by
  have hinner : x.executable ∈ (e.mapInner executableHere).children := by
    rw [children_mapInner]
    exact List.mem_map_of_mem h
  rw [executable_eq e]
  cases hdiff : (e.mapInner executableHere).isDateDifference with
  | false =>
    rw [executableHere_of_not_isDateDifference hdiff]
    exact .inr hinner
  | true =>
    obtain ⟨c, c', hcall, hc⟩ := exists_call_of_isDateDifference hdiff
    rw [hcall] at hinner ⊢
    rw [executableHere_call, hc, Option.getD_some]
    exact (Call.unitText?_or_mem_of_executable? hc _ hinner).imp_left fun ⟨text, htext, _⟩ =>
      ⟨text, htext⟩

/-- The calls of an executable expression are the executable calls of the expression. -/
lemma call_mem_executable_iff {e : Expr} {c' : Call} :
    .call c' ∈ e.executable.subexprs ↔
      ∃ c, .call c ∈ e.subexprs ∧ (Expr.call c).executable = .call c' := by
  induction e using induction_children with
  | step e ih =>
    constructor
    · intro h
      rcases List.mem_cons.mp h with hself | h
      · obtain ⟨c, rfl⟩ := exists_call_of_executable_eq hself.symm
        exact ⟨c, mem_subexprs_self _, hself.symm⟩
      · rw [inner_eq, List.mem_flatMap] at h
        obtain ⟨y, hy, hcall⟩ := h
        rcases exists_of_mem_children_executable hy with ⟨ident, rfl⟩ | ⟨x, hx, rfl⟩
        · simp [subexprs, inner] at hcall
        · obtain ⟨c, hc, heq⟩ := (ih x hx).mp hcall
          exact ⟨c, mem_subexprs_of_child hx hc, heq⟩
    · rintro ⟨c, hc, heq⟩
      rcases List.mem_cons.mp hc with rfl | hc
      · rw [heq]
        exact mem_subexprs_self _
      · rw [inner_eq, List.mem_flatMap] at hc
        obtain ⟨x, hx, hc⟩ := hc
        have hcall := (ih x hx).mpr ⟨c, hc, heq⟩
        rcases mem_children_executable_or hx with ⟨text, htext⟩ | hmem
        · exact absurd hcall (call_notMem_of_unitText? htext)
        · exact mem_subexprs_of_child hmem hcall

end Expr

namespace Statement

lemma call_mem_executable_iff {s : Statement} {c' : Call} :
    .call c' ∈ s.executable.subexprs ↔
      ∃ c, .call c ∈ s.subexprs ∧ (Expr.call c).executable = .call c' := by
  have hchildren : s.executable.children = s.children.map Expr.executable := s.children_mapExprs
  simp only [subexprs_eq, hchildren, List.mem_flatMap, List.mem_map]
  constructor
  · rintro ⟨_, ⟨x, hx, rfl⟩, h⟩
    obtain ⟨c, hc, heq⟩ := Expr.call_mem_executable_iff.mp h
    exact ⟨c, ⟨x, hx, hc⟩, heq⟩
  · rintro ⟨c, ⟨x, hx, hc⟩, heq⟩
    exact ⟨x.executable, ⟨x, hx, rfl⟩, Expr.call_mem_executable_iff.mpr ⟨c, hc, heq⟩⟩

end Statement

/-! ### Differences of dates -/

lemma Expr.isDateDifference_rename_iff {e : Expr} :
    (e.rename r).isDateDifference = true ↔
      ∃ c, e = .call c ∧ (c.mapExprs (renameHere r)).executable?.isSome = true := by
  constructor
  · intro h
    cases e with
    | call c => exact ⟨c, rfl, h⟩
    | literal value => cases value <;> exact Bool.noConfusion h
    | _ => exact Bool.noConfusion h
  · rintro ⟨c, rfl, h⟩
    exact h

/-- A renamed statement has a difference of dates where a call is renamed to one. -/
lemma Statement.hasDateDifference_rename_iff {s : Statement} :
    (s.rename r).hasDateDifference = true ↔
      ∃ c, .call c ∈ s.subexprs ∧
        (c.mapExprs (Expr.renameHere r)).executable?.isSome = true := by
  have hsubexprs : (s.rename r).subexprs = s.subexprs.map (Expr.rename r) :=
    subexprs_mapExprs (Expr.inner_renameHere r) s
  simp only [hasDateDifference, hsubexprs, List.any_map, List.any_eq_true, Function.comp_apply,
    Expr.isDateDifference_rename_iff]
  constructor
  · rintro ⟨_, hx, c, rfl, hc⟩
    exact ⟨c, hx, hc⟩
  · rintro ⟨c, hx, hc⟩
    exact ⟨_, hx, c, rfl, hc⟩

end SemanticQuery.Sql

namespace SemanticQuery.Correction

open Sql

variable {c : Config} {r : Request} {s : Statement}

/-! ### Calls of a corrected statement -/

/-- The conditions of filters that a correction adds. -/
def added (c : Config) (r : Request) (s : Statement) : List Expr :=
  lacking r.renamings (datedExecutable c r s) (r.wanted c.tenantBizName)

/-- The date calls no function. -/
lemma within_call_dated_iff {call : Call} :
    Within (.call call) (dated c r s) ↔ Within (.call call) s.condition? := by
  unfold dated
  split
  next e he =>
    obtain ⟨date, rfl⟩ := exists_columnIs_of_dateCondition? he
    rw [within_some, mem_subexprs_alsoHolds_iff rfl, or_iff_left]
    · exact Iff.rfl
    · simp [Expr.columnIs, Expr.subexprs, Expr.inner]
  next _ => exact Iff.rfl

lemma call_mem_dated_iff (hs : s.selection?.isSome = true) {call : Call} :
    .call call ∈ (s.withCondition (dated c r s)).subexprs ↔ .call call ∈ s.subexprs := by
  rw [Statement.mem_subexprs_withCondition_iff hs fun e he hx =>
    within_call_dated_iff.mpr ⟨e, he, hx⟩]
  constructor
  · rintro (h | h)
    · exact h
    · obtain ⟨e, he, hx⟩ := within_call_dated_iff.mp h
      exact Statement.mem_subexprs_of_child (Statement.mem_children_of_mem_condition? he) hx
  · exact .inl

/-- Before the strings are renamed, the calls of a statement are those of the query, made
executable, and those of the conditions that are added. -/
lemma call_mem_injected_iff (hs : s.selection?.isSome = true) {call' : Call} :
    .call call' ∈ (s.executable.withCondition (injected r.renamings (datedExecutable c r s)
        (r.wanted c.tenantBizName))).subexprs ↔
      (∃ call, .call call ∈ s.subexprs ∧ (Expr.call call).executable = .call call') ∨
        ∃ e ∈ added c r s, .call call' ∈ e.subexprs := by
  have hexecutable : (s.withCondition (dated c r s)).executable =
      s.executable.withCondition (datedExecutable c r s) :=
    Statement.mapExprs_withCondition (dated c r s) s
  have hsome : (s.withCondition (dated c r s)).executable.selection?.isSome = true := by
    simpa [Statement.executable] using hs
  have hcondition : (s.withCondition (dated c r s)).executable.condition? =
      datedExecutable c r s := by
    rw [hexecutable]
    exact Statement.condition?_withCondition (by simpa [Statement.executable] using hs) _
  have hqueried : .call call' ∈ (s.withCondition (dated c r s)).executable.subexprs ↔
      ∃ call, .call call ∈ s.subexprs ∧ (Expr.call call).executable = .call call' := by
    simp only [Statement.call_mem_executable_iff, call_mem_dated_iff hs]
  rw [← Statement.withCondition_withCondition (datedExecutable c r s), ← hexecutable,
    Statement.mem_subexprs_withCondition_iff hsome fun e he hx =>
      within_injected ⟨e, hcondition ▸ he, hx⟩, hqueried]
  constructor
  · rintro (h | h)
    · exact .inl h
    · rcases (within_injected_iff rfl).mp h with ⟨e, he, hx⟩ | h
      · refine .inl (hqueried.mp (Statement.mem_subexprs_of_child ?_ hx))
        exact Statement.mem_children_of_mem_condition? (hcondition ▸ he)
      · exact .inr h
  · rintro (h | h)
    · exact .inl h
    · exact .inr ((within_injected_iff rfl).mpr (.inr h))

/-- A corrected statement holds a difference of dates exactly where a call of the query has a first
argument that stands for a unit of time, or where one is called in a condition that is added. -/
theorem hasDateDifference_run_order_iff {text : String} (h : Statement.readSelection text = .ok s)
    (c : Config) (r : Request) :
    correct? c r text = .ok (Pass.run c r Pass.order s).print ∧
      ((Pass.run c r Pass.order s).hasDateDifference = true ↔
        (∃ call, .call call ∈ s.subexprs ∧ call.MeasuresIn (Expr.StandsForUnit r.renamings)) ∨
        ∃ e ∈ added c r s, ∃ call, .call call ∈ e.subexprs ∧
          call.MeasuresIn fun e => (e.rename r.renamings).timeUnit?.isSome = true) := by
  obtain ⟨-, hs⟩ := Statement.isWellJoined_of_readSelection h
  refine ⟨by simp [correct?, h, Except.map], ?_⟩
  rw [run_order_eq_rename hs, Statement.hasDateDifference_rename_iff]
  constructor
  · rintro ⟨call', hx, hcall⟩
    rcases (call_mem_injected_iff hs).mp hx with ⟨call, hmem, heq⟩ | ⟨e, he, hmem⟩
    · rw [Expr.executable_call, Expr.call.injEq] at heq
      rw [← heq, Call.isSome_executable?_renamed_iff] at hcall
      exact .inl ⟨call, hmem, hcall⟩
    · rw [Call.isSome_executable?_iff, Call.measuresIn_mapExprs] at hcall
      exact .inr ⟨e, he, call', hmem, hcall⟩
  · rintro (⟨call, hmem, hstands⟩ | ⟨e, he, call', hmem, hcall⟩)
    · refine ⟨_, (call_mem_injected_iff hs).mpr (.inl ⟨call, hmem, Expr.executable_call call⟩), ?_⟩
      rwa [Call.isSome_executable?_renamed_iff]
    · refine ⟨call', (call_mem_injected_iff hs).mpr (.inr ⟨e, he, hmem⟩), ?_⟩
      rw [Call.isSome_executable?_iff, Call.measuresIn_mapExprs]
      exact hcall

set_option maxRecDepth 100000 in
/-- The week that `w` stands for is found inside another call and inside parentheses. -/
theorem hasDateDifference_run_order_week :
    let r := requestNaming [⟨some "w", some " Week", []⟩]
    ∃ s, Statement.readSelection "SELECT a FROM t WHERE ABS(DATEDIFF((\"w\"), b, d)) > 3" = .ok s ∧
      (Pass.run .standard r Pass.order s).print =
        "SELECT a FROM t WHERE ABS(DATEDIFF((\" Week\"), b, d)) > 3" ∧
      ∃ call, .call call ∈ s.subexprs ∧ call.MeasuresIn (Expr.StandsForUnit r.renamings) := by
  intro r
  have hread : (Statement.readSelection
      "SELECT a FROM t WHERE ABS(DATEDIFF((\"w\"), b, d)) > 3").toOption.any (fun s =>
        (Pass.run .standard r Pass.order s).print =
            "SELECT a FROM t WHERE ABS(DATEDIFF((\" Week\"), b, d)) > 3" ∧
          (Pass.run .standard r Pass.order s).hasDateDifference = true) = true := by
    decide +kernel
  cases hs : Statement.readSelection "SELECT a FROM t WHERE ABS(DATEDIFF((\"w\"), b, d)) > 3" with
  | error failure => simp [hs, Except.toOption] at hread
  | ok s =>
    simp only [hs, Except.toOption, Option.any_some, decide_eq_true_eq] at hread
    refine ⟨s, rfl, hread.1, ?_⟩
    rcases (hasDateDifference_run_order_iff hs .standard r).2.mp hread.2 with hcall | ⟨e, he, -⟩
    · exact hcall
    · -- no filter is asked for
      have hnone : added .standard r s = [] := rfl
      rw [hnone] at he
      cases he

set_option maxRecDepth 100000 in
/-- Where `d` is stored as `day`, renaming makes a difference of dates of a call that was none. -/
theorem hasDateDifference_run_order_day :
    ¬ ∀ (c : Config) (r : Request) (text : String) (s : Statement),
      Statement.readSelection text = .ok s →
        (Pass.run c r Pass.order s).hasDateDifference = false := by
  intro h
  have hread : (Statement.readSelection "SELECT DATEDIFF('d', a, b) FROM t").toOption.any (fun s =>
      (Pass.run .standard (requestNaming [⟨some "d", some "day", []⟩])
        Pass.order s).hasDateDifference) = true := by
    decide +kernel
  cases hs : Statement.readSelection "SELECT DATEDIFF('d', a, b) FROM t" with
  | error failure => simp [hs, Except.toOption] at hread
  | ok s => simp [hs, Except.toOption, h _ _ _ s hs] at hread

end SemanticQuery.Correction
