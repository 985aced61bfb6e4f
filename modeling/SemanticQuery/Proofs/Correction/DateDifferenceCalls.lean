import Mathlib.Tactic.Common
import SemanticQuery.Proofs.Correction.Equation
import SemanticQuery.Proofs.Correction.Pass
import SemanticQuery.Proofs.Sql.Parser.SoundQuery

/-!
# The calls that are made executable

Of all expressions only the calls of `DATEDIFF` with three arguments change, the first of which
names a unit of time, as a name or as a string. What stands inside such a call is made executable
like anything else, and cannot change whether the call is one: the unit holds no call. No number
names a unit, since in every selection that is read numbers start with a digit or a point.
-/

namespace SemanticQuery.Sql

open SemanticQuery.Sql.Expr

/-! ### Units -/

/-- The text of a string, which may stand in parentheses. -/
def Expr.stringText? : Expr → Option String
  | .literal (.single text) => some text
  | .literal (.double text) => some text
  | .nested inner => inner.stringText?
  | _ => none

/-- The expression is a name or a string that names the unit of time, in any letter case. -/
def Expr.NamesUnit (e : Expr) (unit : String) : Prop :=
  unit ∈ timeUnits ∧ ∃ text, Text.upper (Text.trim text) = unit ∧
    ((∃ quote, e = .name ⟨text, quote⟩) ∨ e.stringText? = some text)

/-- Every number in a statement starts with a digit or a point, as numbers are written. -/
def Statement.HasNumerals (s : Statement) : Prop :=
  ∀ digits long, .literal (.number digits long) ∈ s.subexprs → IsNumeral digits

lemma IsNumeral.isTimeUnit_eq {digits : String} (h : IsNumeral digits) :
    isTimeUnit digits = false := by
  obtain ⟨c, hdigits, hc⟩ := h
  have hmem : c ∈ ['0', '1', '2', '3', '4', '5', '6', '7', '8', '9', '.'] := by
    rcases hc with hc | rfl
    · have := Lexer.mem_digits_of_isDigit hc
      simp only [List.mem_cons] at this ⊢
      tauto
    · decide
  have hall : (['0', '1', '2', '3', '4', '5', '6', '7', '8', '9', '.'].all fun c =>
      !Text.isBlank c && Text.upperChar c == [c] &&
        timeUnits.all fun unit => unit.toList.head? != some c) = true := by
    decide +kernel
  obtain ⟨⟨hblank, hupper⟩, hunits⟩ : (Text.isBlank c = false ∧ Text.upperChar c = [c]) ∧
      ∀ unit ∈ timeUnits, unit.toList.head? ≠ some c := by
    simpa using List.all_eq_true.mp hall c hmem
  by_contra h
  obtain ⟨unit, hunit, hhead⟩ :=
    exists_timeUnit_head hblank hupper hdigits (by simpa using h)
  exact hunits unit hunit hhead

/-- Of the literals only strings name units. -/
lemma Expr.stringText?_of_literalText? {text : String} (htext : isTimeUnit text = true) (e : Expr)
    (hnumbers : ∀ digits long, .literal (.number digits long) ∈ e.subexprs →
      isTimeUnit digits = false)
    (h : e.literalText? = some text) : e.stringText? = some text := by
  match e with
  | .literal (.single _) | .literal (.double _) => exact h
  | .literal (.number digits long) =>
    obtain rfl : digits = text := by simpa [literalText?] using h
    rw [hnumbers digits long (mem_subexprs_self _)] at htext
    exact Bool.noConfusion htext
  | .literal (.boolean value) =>
    obtain rfl : (if value then "true" else "false") = text := by simpa [literalText?] using h
    revert htext
    cases value <;> decide +kernel
  | .unary op operand =>
    obtain ⟨inside, -, rfl⟩ := Option.map_eq_some_iff.mp h
    rw [isTimeUnit_unary] at htext
    exact Bool.noConfusion htext
  | .nested inner =>
    refine stringText?_of_literalText? htext inner (fun digits long hmem => ?_) h
    exact hnumbers digits long (mem_subexprs_nested.mpr (.inr hmem))
  | .literal (.national _) | .literal (.hex _) | .literal (.bytes _ _) | .literal .null
  | .literal (.placeholder _) | .name _ | .path _ | .binary _ _ _ | .inList _ _ _
  | .like _ _ _ _ _ | .between _ _ _ _ | .cast _ _ _ | .trim _ _ _ | .call _ | .phrase _ =>
    simp [literalText?] at h

lemma Expr.literalText?_of_stringText? (e : Expr) {text : String} (h : e.stringText? = some text) :
    e.literalText? = some text := by
  fun_induction stringText? e with
  | case1 | case2 => exact h
  | case3 inner ih => exact ih h
  | case4 => simp at h

lemma Expr.timeUnit?_eq_some_iff {e : Expr} {unit : String}
    (hnumbers : ∀ digits long, .literal (.number digits long) ∈ e.subexprs →
      isTimeUnit digits = false) :
    e.timeUnit? = some unit ↔ e.NamesUnit unit := by
  rw [timeUnit?_eq, Option.bind_eq_some_iff]
  constructor
  · rintro ⟨text, htext, hunit⟩
    by_cases htime : isTimeUnit text = true
    · rw [if_pos htime, Option.some.injEq] at hunit
      refine ⟨by simpa [isTimeUnit, hunit] using htime, text, hunit, ?_⟩
      cases e with
      | name ident =>
        obtain rfl : ident.value = text := by simpa [unitText?] using htext
        exact .inl ⟨ident.quote, rfl⟩
      | _ => exact .inr (stringText?_of_literalText? htime _ hnumbers htext)
    · simp [htime] at hunit
  · rintro ⟨hmem, text, rfl, ⟨quote, rfl⟩ | hstring⟩
    · exact ⟨text, rfl, by simp [isTimeUnit, hmem]⟩
    · refine ⟨text, ?_, by simp [isTimeUnit, hmem]⟩
      cases e with
      | name ident => simp [stringText?] at hstring
      | _ => exact literalText?_of_stringText? _ hstring

/-! ### Calls -/

/-- The call is one of `DATEDIFF` with three arguments, of which the first names the unit. -/
structure Call.IsDifference (c : Call) (unit : String) (start stop : Argument) : Prop where
  name : c.normalizedName = "datediff"
  arguments : ∃ first e, c.arguments = [first, start, stop] ∧ first.value? = some e ∧
    e.NamesUnit unit

/-- The call of `TIMESTAMPDIFF` that executes the call. -/
def Call.timestampDifference (c : Call) (unit : String) (start stop : Argument) : Call :=
  { c with
    name := [.bare "TIMESTAMPDIFF"]
    arguments := [.positional (.name (.bare unit)), start, stop] }

lemma Call.executable?_eq_some_iff {c c' : Call}
    (hnumbers : ∀ digits long, .literal (.number digits long) ∈ c.subexprs →
      isTimeUnit digits = false) :
    c.executable? = some c' ↔
      ∃ unit start stop, c.IsDifference unit start stop ∧
        c' = c.timestampDifference unit start stop := by
  have hunit : ∀ first e, first ∈ c.arguments → first.value? = some e → ∀ unit,
      e.timeUnit? = some unit ↔ e.NamesUnit unit := by
    intro first e hfirst he unit
    refine timeUnit?_eq_some_iff fun digits long hmem => hnumbers digits long ?_
    rw [Call.subexprs_eq, List.mem_flatMap]
    refine ⟨e, ?_, hmem⟩
    have hchild : e ∈ first.children := by simp [Argument.children_of_value? he]
    simp only [Call.children, List.mem_append, List.mem_flatMap]
    exact .inl (.inl (.inl ⟨first, hfirst, hchild⟩))
  constructor
  · intro h
    obtain ⟨first, start, stop, e, unit, hname, harguments, he, hnamed, rfl⟩ :=
      executable?_eq_some h
    have hfirst : first ∈ c.arguments := by simp [harguments]
    exact ⟨unit, start, stop,
      ⟨hname, first, e, harguments, he, (hunit first e hfirst he unit).mp hnamed⟩, rfl⟩
  · rintro ⟨unit, start, stop, ⟨hname, first, e, harguments, he, hnames⟩, rfl⟩
    have hfirst : first ∈ c.arguments := by simp [harguments]
    simp [executable?, hname, harguments, he, (hunit first e hfirst he unit).mpr hnames,
      timestampDifference]

/-! ### Units hold no calls -/

namespace Expr

lemma literalText?_executable (e : Expr) : e.executable.literalText? = e.literalText? := by
  fun_induction literalText? e with
  | case1 | case2 | case3 | case4 => rfl
  | case5 op operand ih => exact congrArg (Option.map (op.symbol ++ ·)) ih
  | case6 inner ih => exact ih
  | case7 e hsingle hdouble hnumber hboolean hunary hnested =>
    match e with
    | .literal (.single _) => exact absurd rfl (hsingle _)
    | .literal (.double _) => exact absurd rfl (hdouble _)
    | .literal (.number _ _) => exact absurd rfl (hnumber _ _)
    | .literal (.boolean _) => exact absurd rfl (hboolean _)
    | .unary _ _ => exact absurd rfl (hunary _ _)
    | .nested _ => exact absurd rfl (hnested _)
    | .literal (.national _) | .literal (.hex _) | .literal (.bytes _ _) | .literal .null
    | .literal (.placeholder _) | .name _ | .path _ | .binary _ _ _ | .inList _ _ _
    | .like _ _ _ _ _ | .between _ _ _ _ | .cast _ _ _ | .trim _ _ _ | .call _ | .phrase _ => rfl

lemma unitText?_of_ne_name {e : Expr} (h : ∀ ident, e ≠ .name ident) :
    e.unitText? = e.literalText? := by
  unfold unitText?
  split
  · exact absurd rfl (h _)
  · rfl

/-- An expression names the same unit once it is made executable. -/
lemma timeUnit?_executable (e : Expr) : e.executable.timeUnit? = e.timeUnit? := by
  have htext : e.executable.unitText? = e.unitText? := by
    by_cases hname : ∃ ident, e = .name ident
    · obtain ⟨ident, rfl⟩ := hname
      rfl
    · have hne : ∀ ident, e ≠ .name ident := fun ident h => hname ⟨ident, h⟩
      have hne' : ∀ ident, e.executable ≠ .name ident := fun ident h =>
        hne ident (keepsPlain_executableHere.mapExprs_eq_name_iff.mp h)
      rw [unitText?_of_ne_name hne, unitText?_of_ne_name hne', literalText?_executable]
  rw [timeUnit?_eq, timeUnit?_eq, htext]

end Expr

namespace Call

/-- What stands in a call cannot change whether the call is a difference of dates. -/
lemma executable?_mapExprs (c : Call) :
    (c.mapExprs executableHere).executable? =
      c.executable?.map (Call.mapExprs executableHere) := by
  have hname : (c.mapExprs executableHere).normalizedName = c.normalizedName := by
    cases c
    rfl
  -- only the first argument decides, through the text of a name or a literal, which is kept
  have hvalue : ∀ a : Argument, (a.mapExprs executableHere).value?.bind Expr.timeUnit? =
      a.value?.bind Expr.timeUnit? := by
    intro a
    rw [Argument.value?_mapExprs]
    cases a.value? with
    | none => rfl
    | some e => exact timeUnit?_executable e
  unfold executable?
  rw [hname, arguments_mapExprs]
  split
  next =>
    match c.arguments with
    | [] | [_] | [_, _] | _ :: _ :: _ :: _ :: _ => rfl
    | [first, start, stop] =>
      simp only [List.map_cons, List.map_nil, hvalue]
      cases first.value?.bind Expr.timeUnit? with
      | none => rfl
      | some unit =>
        cases c
        simp [Call.mapExprs, mapExprsOfArguments, Argument.mapExprs, Expr.mapExprs, executableHere]
  next => rfl

end Call

namespace Expr

lemma executable_call (c : Call) :
    (Expr.call c).executable = .call ((c.executable?.getD c).mapExprs executableHere) := by
  rw [executable_eq, mapInner, executableHere_call, Call.executable?_mapExprs]
  cases c.executable? <;> rfl

lemma executable_of_not_isDateDifference {e : Expr} (h : e.isDateDifference = false) :
    e.executable = e.mapInner executableHere := by
  cases e with
  | call c =>
    rw [isDateDifference_call, Option.isSome_eq_false_iff, Option.isNone_iff_eq_none] at h
    rw [executable_call, h]
    rfl
  | _ => exact executable_eq _

/-- The expression is a call of `DATEDIFF` of three arguments, of which the first names a unit. -/
def IsDifference (e : Expr) : Prop :=
  ∃ c unit start stop, e = .call c ∧ c.IsDifference unit start stop

lemma isDateDifference_iff {e : Expr}
    (hnumbers : ∀ digits long, .literal (.number digits long) ∈ e.subexprs →
      isTimeUnit digits = false) :
    e.isDateDifference = true ↔ e.IsDifference := by
  have hcall : ∀ c, e = .call c → ∀ digits long, .literal (.number digits long) ∈ c.subexprs →
      isTimeUnit digits = false := by
    rintro c rfl digits long hmem
    exact hnumbers digits long (List.mem_cons_of_mem _ hmem)
  constructor
  · intro h
    obtain ⟨c, c', rfl, hc⟩ := exists_call_of_isDateDifference h
    obtain ⟨unit, start, stop, hdifference, -⟩ :=
      (Call.executable?_eq_some_iff (hcall c rfl)).mp hc
    exact ⟨c, unit, start, stop, rfl, hdifference⟩
  · rintro ⟨c, unit, start, stop, rfl, hdifference⟩
    rw [isDateDifference_call, Option.isSome_iff_exists]
    exact ⟨_, (Call.executable?_eq_some_iff (hcall c rfl)).mpr
      ⟨unit, start, stop, hdifference, rfl⟩⟩

end Expr

/-! ### Statements -/

namespace Statement

/-- Every selection that is read has its numbers written like numbers. -/
lemma hasNumerals_of_readSelection {text : String} {s : Statement}
    (h : readSelection text = .ok s) : s.HasNumerals := by
  intro digits long hmem
  rw [subexprs_eq, List.mem_flatMap] at hmem
  obtain ⟨e, he, hmem⟩ := hmem
  exact (isSound_of_readSelection h e he _ hmem).2

lemma HasNumerals.isTimeUnit {s : Statement} (hs : s.HasNumerals) {e : Expr} (he : e ∈ s.subexprs) :
    ∀ digits long, .literal (.number digits long) ∈ e.subexprs → isTimeUnit digits = false := by
  intro digits long hmem
  exact (hs digits long (s.mem_subexprs_trans hmem he)).isTimeUnit_eq

lemma executable_executable (s : Statement) : s.executable.executable = s.executable :=
  executable_eq_self s.not_isDateDifference_of_mem_executable

end Statement

end SemanticQuery.Sql

namespace SemanticQuery.Correction

open Sql

/-- Joining two conditions adds joints and nothing else. -/
lemma mem_subexprs_alsoHolds_iff {condition : Option Expr} {e x : Expr} (hx : x.isJoint = false) :
    x ∈ (alsoHolds condition e).subexprs ↔ (∃ k ∈ condition, x ∈ k.subexprs) ∨ x ∈ e.subexprs := by
  have hparenthesized : ∀ k : Expr, x ∈ (parenthesized k).subexprs ↔ x ∈ k.subexprs := by
    intro k
    unfold parenthesized
    split
    · exact Iff.rfl
    · rw [mem_subexprs_nested, or_iff_right]
      rintro rfl
      exact Bool.noConfusion hx
  cases condition with
  | none => simp [alsoHolds]
  | some k =>
    rw [alsoHolds, Expr.conj, mem_subexprs_binary, hparenthesized, or_iff_right]
    · simp
    · rintro rfl
      exact Bool.noConfusion hx

/-- The first pass compares a column with a string, so it adds no number. -/
lemma Pass.hasNumerals_apply_dateDefault {s : Statement} (hselection : s.selection?.isSome = true)
    (hs : s.HasNumerals) (c : Config) (r : Request) :
    (apply c r s .dateDefault).HasNumerals := by
  intro digits long hmem
  have hcondition : ∀ e ∈ s.condition?, .literal (.number digits long) ∈ e.subexprs →
      IsNumeral digits := fun e he hmem =>
    hs digits long
      (Statement.mem_subexprs_of_child (Statement.mem_children_of_mem_condition? he) hmem)
  rw [apply_dateDefault hselection] at hmem
  rcases Statement.mem_subexprs_withCondition hmem with hmem | ⟨k, hk, hmem⟩
  · exact hs digits long hmem
  unfold dated at hk
  split at hk
  next e he =>
    obtain ⟨date, rfl⟩ := exists_columnIs_of_dateCondition? he
    obtain rfl : alsoHolds s.condition? _ = k := Option.some.inj hk
    rcases (mem_subexprs_alsoHolds_iff rfl).mp hmem with ⟨e, he, hmem⟩ | hmem
    · exact hcondition e he hmem
    · simp [Expr.columnIs, Expr.subexprs, Expr.inner] at hmem
  next _ => exact hcondition k hk hmem

lemma Pass.change_dateDiff_eq (c : Config) (r : Request) (s : Statement) :
    change c r s .dateDiff = .ok (if s.hasDateDifference then some s.executable else none) := rfl

/-- The second pass makes the calls of `DATEDIFF` that have three arguments and name a unit calls of
`TIMESTAMPDIFF`, with the unit in capitals as a name and the other two arguments executable
themselves. Every other expression keeps its form, at every depth, and so does what stands around
expressions. The pass reports a change where there was such a call, and finds nothing to do in what
it left behind. Numbers are written like numbers in every selection that is read, and in what the
first pass makes of it. -/
theorem Pass.change_dateDiff {s : Statement} (hs : s.HasNumerals) (c : Config) (r : Request) :
    (∀ call unit start stop, .call call ∈ s.subexprs → call.IsDifference unit start stop →
      (Expr.call call).executable =
        .call ((call.mapExprs Expr.executableHere).timestampDifference unit
          (start.mapExprs Expr.executableHere) (stop.mapExprs Expr.executableHere))) ∧
    (∀ e ∈ s.subexprs, ¬ e.IsDifference → e.executable = e.mapInner Expr.executableHere) ∧
    s.executable.children = s.children.map Expr.executable ∧
    (∀ hole, s.executable.mapExprs (fun _ => hole) = s.mapExprs fun _ => hole) ∧
    ((∃ e ∈ s.subexprs, e.IsDifference) → change c r s .dateDiff = .ok (some s.executable)) ∧
    ((∀ e ∈ s.subexprs, ¬ e.IsDifference) →
      change c r s .dateDiff = .ok none ∧ s.executable = s) ∧
    s.executable.executable = s.executable ∧ change c r s.executable .dateDiff = .ok none := by
  have hiff : ∀ e ∈ s.subexprs, (e.isDateDifference = true ↔ e.IsDifference) := fun e he =>
    Expr.isDateDifference_iff (hs.isTimeUnit he)
  have hother : ∀ e ∈ s.subexprs, ¬ e.IsDifference → e.isDateDifference = false :=
    fun e he hnot => Bool.eq_false_iff.mpr (mt (hiff e he).mp hnot)
  refine ⟨?_, ?_, Statement.children_mapExprs s, fun hole => s.mapExprs_around _ hole, ?_, ?_,
    s.executable_executable, ?_⟩
  · intro call unit start stop hcall hdifference
    have hnumbers : ∀ digits long, .literal (.number digits long) ∈ call.subexprs →
        isTimeUnit digits = false := fun digits long hmem =>
      hs.isTimeUnit hcall digits long (List.mem_cons_of_mem _ hmem)
    have hexecutable : call.executable? = some (call.timestampDifference unit start stop) :=
      (Call.executable?_eq_some_iff hnumbers).mpr ⟨unit, start, stop, hdifference, rfl⟩
    rw [Expr.executable_call, hexecutable]
    cases call
    rfl
  · intro e he hnot
    exact Expr.executable_of_not_isDateDifference (hother e he hnot)
  · rintro ⟨e, he, hdifference⟩
    have hsome : s.hasDateDifference = true :=
      List.any_eq_true.mpr ⟨e, he, (hiff e he).mpr hdifference⟩
    rw [change_dateDiff_eq, if_pos hsome]
  · intro hnone
    have hall : ∀ e ∈ s.subexprs, e.isDateDifference = false := fun e he =>
      hother e he (hnone e he)
    rw [change_dateDiff_eq, Statement.hasDateDifference_eq_false_iff.mpr hall]
    exact ⟨rfl, Statement.executable_eq_self hall⟩
  · rw [change_dateDiff_eq, Statement.hasDateDifference_eq_false_iff.mpr
      s.not_isDateDifference_of_mem_executable]
    rfl

/-- The difference of dates in days between a column and a difference in months. -/
def daysToMonths : Call :=
  ⟨[.bare "db", ⟨"DateDiff", some '\x60'⟩], false, none,
    [.positional (.nested (.literal (.double " day "))), .positional (.name (.bare "a")),
      .positional (.call ⟨[.bare "datediff"], false, none,
        [.positional (.name (.bare "Month")), .positional (.name (.bare "b")),
          .positional (.literal (.number "3" false))], [], [], []⟩)], [], [], []⟩

/-- The condition that the difference is more than a number. -/
def daysToMonthsExceed : Statement :=
  .ofCondition (some (.binary (.compare .gt) (.call daysToMonths) (.literal (.number "3" false))))

set_option maxRecDepth 100000 in
/-- Both differences are made executable, the inner one as an argument of the outer one. -/
theorem Pass.change_dateDiff_nested :
    daysToMonthsExceed.HasNumerals ∧
    (∃ start stop, daysToMonths.IsDifference "DAY" start stop) ∧
    (Expr.call daysToMonths).executable.print =
      "TIMESTAMPDIFF(DAY, a, TIMESTAMPDIFF(MONTH, b, 3))" ∧
    ∀ c r, change c r daysToMonthsExceed .dateDiff = .ok (some daysToMonthsExceed.executable) := by
  have hnumerals : daysToMonthsExceed.HasNumerals := by
    intro digits long h
    have hthree : digits = "3" := by
      simp [daysToMonthsExceed, daysToMonths, Statement.ofCondition, Statement.subexprs,
        Query.subexprs, Body.subexprs, Select.subexprs, itemsSubexprs, SelectItem.subexprs,
        partsSubexprs, Part.subexprs, optionSubexprs, Expr.inner, Call.subexprs,
        argumentsSubexprs, Argument.subexprs] at h
      tauto
    exact ⟨'3', by rw [hthree]; rfl, .inl rfl⟩
  have hcall : .call daysToMonths ∈ daysToMonthsExceed.subexprs := by
    simp [daysToMonthsExceed, Statement.ofCondition, Statement.subexprs, Query.subexprs,
      Body.subexprs, Select.subexprs, optionSubexprs, Expr.inner]
  have hdifference : ∃ start stop, daysToMonths.IsDifference "DAY" start stop :=
    ⟨_, _, by decide +kernel, _, _, rfl, rfl, by decide +kernel, " day ", by decide +kernel,
      .inr rfl⟩
  refine ⟨hnumerals, hdifference, by decide +kernel, fun c r => ?_⟩
  obtain ⟨start, stop, h⟩ := hdifference
  exact (Pass.change_dateDiff hnumerals c r).2.2.2.2.1
    ⟨_, hcall, daysToMonths, "DAY", start, stop, rfl, h⟩

end SemanticQuery.Correction
