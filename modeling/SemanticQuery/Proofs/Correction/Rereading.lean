import SemanticQuery.Proofs.Correction.RemainingDifferences
import SemanticQuery.Proofs.Sql.Plain.Joining
import SemanticQuery.Proofs.Sql.Plain.Queries

/-!
# Corrected statements that are read back

A plain statement stays plain when it is corrected with plain conditions. So its text is read back
as the statement, provided that each of its strings is read back from its own text.
-/

namespace SemanticQuery.Sql

/-! ### Literals of executable trees -/

lemma Expr.literal_mem_executable {e : Expr} {v : Literal}
    (h : .literal v ∈ e.executable.subexprs) : .literal v ∈ e.subexprs := by
  induction e using Expr.induction_children with
  | step e ih =>
    rcases List.mem_cons.mp h with hself | h
    · cases e with
      | literal w =>
        rw [hself]
        exact mem_subexprs_self _
      | _ => simp [executable, mapExprs, executableHere] at hself
    · rw [inner_eq, List.mem_flatMap] at h
      obtain ⟨y, hy, hv⟩ := h
      rcases exists_of_mem_children_executable hy with ⟨ident, rfl⟩ | ⟨x, hx, rfl⟩
      · simp [subexprs, inner] at hv
      · exact mem_subexprs_of_child hx (ih x hx hv)

lemma Statement.literal_mem_executable {s : Statement} {v : Literal}
    (h : .literal v ∈ s.executable.subexprs) : .literal v ∈ s.subexprs := by
  rw [subexprs_eq, executable, children_mapExprs, List.mem_flatMap] at h
  obtain ⟨_, hmap, hv⟩ := h
  obtain ⟨x, hx, rfl⟩ := List.mem_map.mp hmap
  exact mem_subexprs_of_child hx (Expr.literal_mem_executable hv)

namespace Plain

/-! ### Maps of a correction -/

lemma keepsForms_renameHere (r : Renaming) : KeepsForms (Expr.renameHere r) where
  fixed e h := by
    cases e with
    | literal | call => cases h
    | _ => rfl
  literal v := by
    cases v with
    | single text => exact ⟨_, rfl, fun _ _ => ⟨_, .single _⟩⟩
    | double text => exact ⟨_, rfl, fun _ _ => ⟨_, .double _⟩⟩
    | _ => exact ⟨_, rfl, fun t h => ⟨t, h⟩⟩
  call h := ⟨_, h⟩

lemma isName_of_mem_timeUnits {unit : String} (h : unit ∈ "TIMESTAMPDIFF" :: timeUnits) :
    IsName (.bare unit) (.ofWord unit) := by
  have hall : ∀ unit ∈ "TIMESTAMPDIFF" :: timeUnits, Lexer.IsBareWord unit ∧
      Text.upper unit ∉ reserved ∧ Text.lower unit ≠ "from" := by
    decide +kernel
  obtain ⟨hword, hfree, hfrom⟩ := hall unit h
  exact isName_bare hword hfree hfrom

lemma mem_timeUnits {e : Expr} {unit : String} (h : e.timeUnit? = some unit) :
    unit ∈ timeUnits := by
  rw [Expr.timeUnit?_eq, Option.bind_eq_some_iff] at h
  obtain ⟨text, -, hunit⟩ := h
  obtain ⟨htime, hsome⟩ := Option.ite_none_right_eq_some.mp hunit
  obtain rfl := Option.some.inj hsome
  simpa [isTimeUnit] using htime

variable {d : Nat} {ts : List Token}

/-- The unit of a difference of dates is an argument, so there is a level below its call. -/
lemma listed_arguments_executable {unit start stop : Argument} {value : Expr} {name : String}
    (h : Listed (IsArgument (level d)) [unit, start, stop] ts) (hvalue : unit.value? = some value)
    (hname : name ∈ timeUnits) :
    ∃ us, Listed (IsArgument (level d)) [.positional (.name (.bare name)), start, stop] us := by
  cases h with
  | cons hunit hrest =>
    cases hunit with
    | wildcard => cases hvalue
    | positional he =>
      match d with
      | d + 1 =>
        have hunit : IsTerm (level d) (.name (.bare name)) [.ofWord name] :=
          .name (isName_of_mem_timeUnits (List.mem_cons_of_mem _ hname))
        exact ⟨_, .cons (.positional (.term hunit)) hrest⟩

lemma keepsForms_executableHere : KeepsForms Expr.executableHere where
  fixed e h := by
    cases e with
    | call => cases h
    | _ => rfl
  literal v := ⟨v, rfl, fun t h => ⟨t, h⟩⟩
  call {d c ts} h := by
    rw [Expr.executableHere_call]
    cases hc : c.executable? with
    | none => exact ⟨ts, h⟩
    | some c' =>
      obtain ⟨unit, start, stop, value, name, _, harguments, hvalue, hunit, rfl⟩ :=
        Call.executable?_eq_some hc
      have hname := isName_of_mem_timeUnits (List.mem_cons_self (a := "TIMESTAMPDIFF"))
      cases h with
      | call _ has htrailer =>
        cases has with
        | none => cases harguments
        | all has =>
          obtain rfl := harguments
          obtain ⟨us, has⟩ := listed_arguments_executable has hvalue (mem_timeUnits hunit)
          exact ⟨_, .call hname (.all has) htrailer⟩
        | distinct has =>
          obtain rfl := harguments
          obtain ⟨us, has⟩ := listed_arguments_executable has hvalue (mem_timeUnits hunit)
          exact ⟨_, .call hname (.distinct has) htrailer⟩

end Plain

end SemanticQuery.Sql

namespace SemanticQuery.Correction

open Sql Sql.Plain

variable {c : Config} {r : Request} {s : Statement} {d : Nat}

/-! ### Plain statements -/

/-- The conditions that a correction adds to a statement: the date's and the filters'. -/
def additions (c : Config) (r : Request) (s : Statement) : List Expr :=
  (dateCondition? c r s).toList ++ added c r s

/-- A statement keeps to plain forms, and so do the conditions that a correction adds to it. No form
stands deeper in the others than `d` allows. -/
structure IsPlain (d : Nat) (c : Config) (r : Request) (s : Statement) : Prop where
  statement : IsStatement (d + 1) s
  additions : ∀ e ∈ additions c r s, ∃ ts, (level d).expr 0 0 e ts

namespace IsPlain

variable (h : IsPlain d c r s)
include h

lemma isSome_selection? : s.selection?.isSome = true := h.statement.1

/-- What is added compares a column. -/
lemma isPlainTest {e : Expr} (he : e ∈ Correction.additions c r s) : IsPlainTest d e where
  compares := by
    rcases List.mem_append.mp he with he | he
    · obtain ⟨date, rfl⟩ := exists_columnIs_of_dateCondition? (Option.mem_toList.mp he)
      exact ⟨_, rfl⟩
    · exact exists_comparedName?_of_mem_wanted e (mem_of_mem_lacking he)
  plain := h.additions e he

lemma exists_expr_dated : ∀ k ∈ dated c r s, ∃ ts, (level (d + 1)).expr 0 0 k ts := by
  intro k hk
  have hcondition := h.statement.expr_of_mem_condition?
  unfold dated at hk
  split at hk
  next e he =>
    obtain rfl : alsoHolds s.condition? e = k := Option.some.inj hk
    exact exists_expr_alsoHolds hcondition (h.isPlainTest (by simp [Correction.additions, he]))
  next _ =>
    obtain ⟨ts, hk⟩ := hcondition k hk
    exact expr_level_add hk 1

lemma exists_expr_datedExecutable :
    ∀ k ∈ datedExecutable c r s, ∃ ts, (level (d + 1)).expr 0 0 k ts := by
  intro k hk
  obtain ⟨e, he, rfl⟩ := Option.map_eq_some_iff.mp hk
  obtain ⟨ts, he⟩ := h.exists_expr_dated e he
  exact (maps_level keepsForms_executableHere (d + 1) 0).expr he

lemma exists_expr_injected :
    ∀ k ∈ injected r.renamings (datedExecutable c r s) (r.wanted c.tenantBizName),
      ∃ ts, (level (d + 2)).expr 0 0 k ts := by
  intro k hk
  have hdated := h.exists_expr_datedExecutable
  unfold injected at hk
  split_ifs at hk
  · obtain ⟨ts, hk⟩ := hdated k hk
    exact expr_level_add hk 1
  · have hclosed : ∀ k ∈ (datedExecutable c r s).map Expr.closed,
        ∃ ts, (level (d + 2)).expr 0 Power.and k ts := by
      intro k hk
      obtain ⟨e, he, rfl⟩ := Option.map_eq_some_iff.mp hk
      obtain ⟨ts, he⟩ := hdated e he
      exact exists_expr_closed he
    have hadded : ∀ e ∈ added c r s, IsPlainTest (d + 1) e := by
      intro e he
      obtain ⟨hcompares, ts, hplain⟩ := h.isPlainTest (List.mem_append_right _ he)
      exact ⟨hcompares, expr_level_add hplain 1⟩
    obtain ⟨ts, hk⟩ := exists_expr_joined hclosed hadded k hk
    have hand : IsExpression (level (d + 1)) 0 Power.and k ts := hk
    exact ⟨ts, hand.precedes (precedes_level _) le_rfl (by decide)⟩

/-- A correction keeps a plain statement plain. -/
lemma isStatement_run_order : IsStatement (d + 3) (Pass.run c r Pass.order s) := by
  rw [run_order_eq_rename h.isSome_selection?]
  have hexecutable := h.statement.mapExprs keepsForms_executableHere
  have hinjected := hexecutable.withCondition (n := 2) h.exists_expr_injected
  exact hinjected.mapExprs (keepsForms_renameHere r.renamings)

end IsPlain

/-! ### Legible strings -/

/-- Every string of a statement, and of the conditions that a correction adds to it, is read back
from its text once it is renamed. -/
def KeepsStrings (c : Config) (r : Request) (s : Statement) : Prop :=
  ∀ v, (.literal v ∈ s.subexprs ∨ ∃ e ∈ additions c r s, .literal v ∈ e.subexprs) →
    ((Expr.literal v).renameHere r.renamings).IsLegible

lemma literal_mem_dated {v : Literal} {k : Expr} (hk : k ∈ dated c r s)
    (hv : .literal v ∈ k.subexprs) :
    .literal v ∈ s.subexprs ∨ ∃ e ∈ dateCondition? c r s, .literal v ∈ e.subexprs := by
  have hcondition : ∀ e ∈ s.condition?, .literal v ∈ e.subexprs → .literal v ∈ s.subexprs :=
    fun e he hv => Statement.mem_subexprs_of_child (Statement.mem_children_of_mem_condition? he) hv
  unfold dated at hk
  split at hk
  next e he =>
    obtain rfl : alsoHolds s.condition? e = k := Option.some.inj hk
    rcases (mem_subexprs_alsoHolds_iff rfl).mp hv with ⟨e, he, hv⟩ | hv
    · exact .inl (hcondition e he hv)
    · exact .inr ⟨e, he, hv⟩
  next _ => exact .inl (hcondition k hk hv)

/-- Before strings are renamed, the literals are those of the statement and of what is added. -/
lemma literal_mem_injected {v : Literal}
    (h : .literal v ∈ (s.executable.withCondition (injected r.renamings (datedExecutable c r s)
      (r.wanted c.tenantBizName))).subexprs) :
    .literal v ∈ s.subexprs ∨ ∃ e ∈ additions c r s, .literal v ∈ e.subexprs := by
  rcases Statement.mem_subexprs_withCondition h with h | h
  · exact .inl (Statement.literal_mem_executable h)
  rcases (within_injected_iff rfl).mp h with ⟨k, hk, hv⟩ | ⟨e, he, hv⟩
  · obtain ⟨k, hdated, rfl⟩ := Option.map_eq_some_iff.mp hk
    refine (literal_mem_dated hdated (Expr.literal_mem_executable hv)).imp_right ?_
    rintro ⟨e, he, hv⟩
    exact ⟨e, List.mem_append_left _ (Option.mem_toList.mpr he), hv⟩
  · exact .inr ⟨e, List.mem_append_right _ he, hv⟩

lemma isLegible_of_mem_run_order (hs : s.selection?.isSome = true) (h : KeepsStrings c r s) :
    ∀ x ∈ (Pass.run c r Pass.order s).subexprs, x.IsLegible := by
  intro x hx
  rw [run_order_eq_rename hs, Statement.rename,
    Statement.subexprs_mapExprs (Expr.inner_renameHere r.renamings), List.mem_map] at hx
  obtain ⟨y, hy, rfl⟩ := hx
  cases y with
  | literal v => exact h v (literal_mem_injected hy)
  | _ => trivial

/-- The text of a corrected statement is read back as the statement, if the statement and what is
added to it are plain and every string is read back. -/
theorem readSelection_run_order (hplain : IsPlain (depth - 3) c r s) (h : KeepsStrings c r s) :
    Statement.readSelection (Pass.run c r Pass.order s).print =
      .ok (Pass.run c r Pass.order s) := by
  refine readSelection_print hplain.isStatement_run_order fun e he x hx => ?_
  exact isLegible_of_mem_run_order hplain.isSome_selection? h x
    (Statement.mem_subexprs_of_child he hx)

end SemanticQuery.Correction
