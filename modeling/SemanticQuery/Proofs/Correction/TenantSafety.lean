import SemanticQuery.Proofs.Correction.Equation
import SemanticQuery.Proofs.Correction.Pass
import SemanticQuery.Proofs.Correction.Rereading
import SemanticQuery.Proofs.Sql.Equality
import SemanticQuery.Proofs.Sql.Parser.SoundQuery

/-!
# The tenant's condition

Where every filter is accepted, a corrected statement has the condition on the tenant who asks among
its conjuncts, whatever joins it and whatever the other filters are. The text of the statement need
not be read back as the statement: a backslash that a string holds is printed as it is and read as
an escape, so a string may swallow what stands behind it.
-/

namespace SemanticQuery.Correction

open Sql Sql.Plain

/-! ### Texts with blanks -/

/-- Texts without blanks end at the first blank. -/
lemma append_blank_inj {xs ys us vs : List Char} (hx : ' ' ∉ xs) (hy : ' ' ∉ ys)
    (h : xs ++ ' ' :: us = ys ++ ' ' :: vs) : xs = ys ∧ us = vs := by
  induction xs generalizing ys with
  | nil =>
    cases ys with
    | nil => simpa using h
    | cons y ys =>
      obtain ⟨rfl, -⟩ := List.cons.inj h
      simp at hy
  | cons x xs ih =>
    cases ys with
    | nil =>
      obtain ⟨rfl, -⟩ := List.cons.inj h
      simp at hx
    | cons y ys =>
      obtain ⟨rfl, hrest⟩ := List.cons.inj h
      obtain ⟨rfl, rfl⟩ := ih (fun hmem => hx (List.mem_cons_of_mem x hmem))
        (fun hmem => hy (List.mem_cons_of_mem x hmem)) hrest
      exact ⟨rfl, rfl⟩

/-- The text of the condition that a column has a number. -/
def equationText (name : String) (i : Int) : String := name ++ " = " ++ toString i

lemma toList_equationText (name : String) (i : Int) :
    (equationText name i).toList = name.toList ++ ' ' :: '=' :: ' ' :: (toString i).toList := by
  simp [equationText, String.toList_append]

section

variable {name : String} {i : Int} (hname : ' ' ∉ name.toList)
include hname

/-- No `OR` prints like the condition that a column has a number. -/
lemma print_or_ne_equationText (left right : Expr) :
    (Expr.binary .or left right).print ≠ equationText name i := by
  intro h
  have htext := congrArg String.toList h
  rw [toList_equationText] at htext
  have hor : (Expr.binary .or left right).print.toList =
      left.print.toList ++ ' ' :: 'O' :: 'R' :: ' ' :: right.print.toList := by
    simp [Expr.print, BinaryOp.symbol, String.toList_append]
  rw [hor] at htext
  -- Both texts have two blanks at least, and the right one has no third.
  have hcount := congrArg (List.count ' ') htext
  simp only [List.count_append, List.count_cons, List.count_eq_zero.mpr hname,
    List.count_eq_zero.mpr (Number.not_mem_toString i (a := ' ') rfl (by decide))] at hcount
  have hleft : ' ' ∉ left.print.toList := List.count_eq_zero.mp (by simp at hcount; omega)
  have hrest := (append_blank_inj hleft hname htext).2
  simp at hrest

/-- A comparison that prints like the condition that a column has a number has no strings. -/
lemma rename_of_print_eq_equationText {r : Renaming} {a : Expr} {column : String}
    (hcompared : a.comparedName? = some column) (hcolumn : ' ' ∉ column.toList)
    (h : a.print = equationText name i) : a.rename r = a := by
  have hsplit : ∀ tail, a.print.toList = column.toList ++ ' ' :: tail →
      tail = '=' :: ' ' :: (toString i).toList := by
    intro tail htail
    rw [h, toList_equationText] at htail
    exact (append_blank_inj hname hcolumn htail).2.symm
  match a with
  | .binary (.compare op) (.name ⟨value, none⟩) right =>
    obtain rfl : value = column := Option.some.inj hcompared
    have htail := hsplit (op.symbol.toList ++ ' ' :: right.print.toList)
      (by simp [Expr.print, Ident.print, BinaryOp.symbol, String.toList_append])
    have hop : ' ' ∉ op.symbol.toList := by cases op <;> decide
    have hsign : ' ' ∉ ['='] := by decide
    have hright : right.print.toList = (toString i).toList :=
      (append_blank_inj hop hsign htail).2
    have hrenamed : right.rename r = right := by
      refine Expr.rename_eq_self_of_print ?_ ?_ <;> rw [hright]
      · exact Number.not_mem_toString i rfl (by decide)
      · exact Number.not_mem_toString i rfl (by decide)
    calc
      (Expr.binary (.compare op) (.name ⟨value, none⟩) right).rename r
        = .binary (.compare op) ((Expr.name ⟨value, none⟩).rename r) (right.rename r) :=
          (Expr.keepsJoints_renameHere r).mapExprs_binary _ _ _
      _ = .binary (.compare op) (.name ⟨value, none⟩) right := by rw [hrenamed]; rfl
  | .inList negated (.name ⟨value, none⟩) items =>
    obtain rfl : value = column := Option.some.inj hcompared
    have htail := hsplit ((negation negated).toList ++ 'I' :: 'N' :: ' ' :: '(' ::
      ((printExprs items).toList ++ [')']))
      (by simp [Expr.print, Ident.print, String.toList_append])
    cases negated <;> simp [negation] at htail
  | .like negated any (.name ⟨value, none⟩) pattern escape =>
    obtain rfl : value = column := Option.some.inj hcompared
    obtain ⟨tail, hprint⟩ :
        ∃ tail, (Expr.like negated any (.name ⟨value, none⟩) pattern escape).print.toList =
          value.toList ++ ' ' :: ((negation negated).toList ++ 'L' :: tail) := by
      cases escape <;> simp [Expr.print, Ident.print, String.toList_append]
    have htail := hsplit _ hprint
    cases negated <;> simp [negation] at htail

/-- A condition that prints like the equation of a column and a number stays a conjunct, or one is
added that prints like it. -/
lemma equationText_mem_injected {rn : Renaming} {condition : Option Expr} {wanted : List Expr}
    {w : Expr} (hwell : ∀ k ∈ condition, k.isWellJoined = true) (hw : w ∈ wanted)
    (hprint : w.print = equationText name i)
    (hwanted : ∀ a ∈ wanted, ∃ column, a.comparedName? = some column ∧ ' ' ∉ column.toList) :
    ∃ k ∈ conjunctsOf (injected rn condition wanted),
      (k.rename rn).print = equationText name i := by
  have hcompared : ∀ a ∈ wanted, ∃ column, a.comparedName? = some column := fun a ha =>
    (hwanted a ha).imp fun _ => And.left
  have hor : ∀ left right, condition = some (.binary .or left right) →
      ((Expr.binary .or left right).rename rn).print ≠ w.print := by
    intro left right _
    rw [hprint, Expr.rename, (Expr.keepsJoints_renameHere rn).mapExprs_binary]
    exact print_or_ne_equationText hname _ _
  obtain ⟨k, hk, hkprint | ⟨hmem, hkprint⟩⟩ := exists_conjunct_injected hcompared hwell hw hor
  · exact ⟨k, hk, hkprint.trans hprint⟩
  · obtain ⟨column, hcolumn, hblank⟩ := hwanted k hmem
    have htext : k.print = equationText name i := hkprint.trans hprint
    refine ⟨k, hk, ?_⟩
    rw [rename_of_print_eq_equationText hname hcolumn hblank htext, htext]

end

/-! ### Accepted filters -/

/-- No blank stands in a name that a filter compares. -/
lemma blank_not_mem_name {f : Filter} {e : Expr} (h : f.condition = .ok e) :
    ' ' ∉ f.name.toList := by
  obtain ⟨hread, hname⟩ := Filter.condition_eq_ok h
  have hsql : f.sql = f.name ++ (" " ++ f.operator.sql ++ " " ++ sqlValue f.value) := by
    simp [Filter.sql, String.append_assoc]
  rw [hsql] at hread
  exact (exists_rest_of_readCondition hread hname).1

lemma Filter.eq_numberIs_of_condition {bizName name : String} {i : Int} {id : Option Int} {e : Expr}
    (h : Filter.condition ⟨bizName, name, .equals, .int i, id⟩ = .ok e) : e = .numberIs name i := by
  obtain ⟨hread, hname⟩ := Filter.condition_eq_ok h
  have hsql : Filter.sql ⟨bizName, name, .equals, .int i, id⟩ = name ++ (" = " ++ toString i) := by
    simp [Filter.sql, FilterOperator.sql, sqlValue, String.append_assoc]
  rw [hsql] at hread
  exact Expr.eq_numberIs_of_readCondition hread hname

variable {c : Config} {r : Request} {tenant : Int} {d : Element}

/-- The condition on a tenant who is someone in particular is wanted. -/
lemma numberIs_mem_wanted (haccepted : r.AcceptsFilters c.tenantBizName)
    (htenant : r.tenant = some tenant) (hreal : tenant ∉ noTenants)
    (hd : r.schema.dimension? r.models c.tenantBizName = some d) :
    ' ' ∉ d.name.toList ∧ Expr.numberIs d.name tenant ∈ r.wanted c.tenantBizName := by
  let f : Filter := ⟨d.bizName, d.name, .equals, .int tenant, some d.id⟩
  have hf : f ∈ r.allFilters c.tenantBizName := by
    simp [Request.allFilters, Request.tenantFilter?, htenant, hreal, hd, f]
  obtain ⟨e, he⟩ : ∃ e, f.condition = .ok e := by
    have hok := haccepted f hf
    cases hcondition : f.condition with
    | error failure => simp [hcondition, Except.isOk, Except.toBool] at hok
    | ok e => exact ⟨e, rfl⟩
  obtain rfl : e = .numberIs d.name tenant := Filter.eq_numberIs_of_condition he
  refine ⟨blank_not_mem_name he, (mem_wanted_iff haccepted _).mpr ⟨f, hf, _, he, ?_⟩⟩
  exact (Expr.rename_numberIs r.renamings d.name tenant).symm

/-- The texts of the conjuncts of a statement's condition. -/
def conjunctTexts (s : Statement) : List String := (conjunctsOf s.condition?).map Expr.print

/-- Behind a correction, the condition on the tenant is among the conjuncts. -/
lemma equationText_mem_run_order {s : Statement} (haccepted : r.AcceptsFilters c.tenantBizName)
    (htenant : r.tenant = some tenant) (hreal : tenant ∉ noTenants)
    (hd : r.schema.dimension? r.models c.tenantBizName = some d) (hwell : s.IsWellJoined)
    (hs : s.selection?.isSome = true) :
    equationText d.name tenant ∈ conjunctTexts (Pass.run c r Pass.order s) := by
  obtain ⟨hblank, hw⟩ := numberIs_mem_wanted haccepted htenant hreal hd
  have hprint : (Expr.numberIs d.name tenant).print = equationText d.name tenant :=
    Expr.print_numberIs d.name tenant
  have hwanted : ∀ a ∈ r.wanted c.tenantBizName,
      ∃ column, a.comparedName? = some column ∧ ' ' ∉ column.toList := by
    intro a ha
    obtain ⟨f, _, e, he, rfl⟩ := exists_filter_of_mem_wanted ha
    exact ⟨f.name, Expr.comparedName?_rename r.renamings (Filter.condition_eq_ok he).2,
      blank_not_mem_name he⟩
  have hdated : ∀ k ∈ datedExecutable c r s, k.isWellJoined = true :=
    isWellJoined_datedExecutable hwell
  obtain ⟨k, hk, hkprint⟩ :
      ∃ k ∈ conjunctsOf (injected r.renamings (datedExecutable c r s) (r.wanted c.tenantBizName)),
        (k.rename r.renamings).print = equationText d.name tenant :=
    equationText_mem_injected hblank hdated hw hprint hwanted
  have hrenamed : conjunctsOf (corrected c r s) =
      (conjunctsOf (injected r.renamings (datedExecutable c r s)
        (r.wanted c.tenantBizName))).map (Expr.rename r.renamings) :=
    (Expr.keepsJoints_renameHere r.renamings).conjunctsOf_map _
  rw [conjunctTexts, condition?_run_order hs, hrenamed, List.map_map, List.mem_map]
  exact ⟨k, hk, hkprint⟩

/-! ### The printed statement -/

/-- Where every filter is accepted and the tenant is someone in particular, a corrected statement
has the condition on the tenant among its conjuncts. Its text is read back as the statement, if
plain forms are all that is corrected and added, and every string is read back from its text. -/
theorem tenant_mem_reread {text out : String}
    (haccepted : r.AcceptsFilters c.tenantBizName) (htenant : r.tenant = some tenant)
    (hreal : tenant ∉ noTenants) (hd : r.schema.dimension? r.models c.tenantBizName = some d)
    (h : correct? c r text = .ok out) :
    ∃ s s', Statement.readSelection text = .ok s ∧ s' = Pass.run c r Pass.order s ∧
      out = s'.print ∧ equationText d.name tenant ∈ conjunctTexts s' ∧
      (IsPlain (depth - 3) c r s → KeepsStrings c r s → Statement.readSelection out = .ok s') := by
  obtain ⟨s, hread, rfl⟩ : ∃ s, Statement.readSelection text = .ok s ∧
      (Pass.run c r Pass.order s).print = out := by
    unfold correct? at h
    cases hread : Statement.readSelection text with
    | error failure => simp [hread, Except.map] at h
    | ok s => exact ⟨s, rfl, by simpa [hread, Except.map] using h⟩
  obtain ⟨hwell, hs⟩ := Statement.isWellJoined_of_readSelection hread
  exact ⟨s, _, hread, rfl, rfl, equationText_mem_run_order haccepted htenant hreal hd hwell hs,
    readSelection_run_order⟩

/-- A request of the tenant 7 without filters of its own. -/
def tenantRequest : Request := { requestFor "u" "v" with tenant := some 7, filters := [] }

/-- The dimension that holds tenants. -/
def tenantDimension : Element := ⟨9, 1, "tenant", "tenant_id", [], .dimension, []⟩

lemma acceptsFilters_tenantRequest :
    tenantRequest.AcceptsFilters Config.standard.tenantBizName := by
  unfold Request.AcceptsFilters
  decide +kernel

/-- The selection of `a` from `t` where `b` is `it's` or `c` is two. -/
def alternatives : Statement :=
  .query ⟨[], .select ⟨[], [.expr (.name (.bare "a")) none], [.text " FROM ", .text "t", .text ""],
    some (.binary .or (.columnIs "b" "it's") (.numberIs "c" 2)), []⟩, []⟩

lemma eq_numberIs_of_mem_additions {e : Expr}
    (he : e ∈ additions .standard tenantRequest alternatives) : e = .numberIs "tenant" 7 := by
  have hdate : dateCondition? .standard tenantRequest alternatives = none := by
    unfold dateCondition?
    split <;> rfl
  have hfilters : tenantRequest.allFilters Config.standard.tenantBizName =
      [⟨"tenant_id", "tenant", .equals, .int 7, some 9⟩] := by
    rfl
  rw [additions, hdate, Option.toList_none, List.nil_append] at he
  obtain ⟨f, hf, k, hk, rfl⟩ := exists_filter_of_mem_wanted (mem_of_mem_lacking he)
  rw [hfilters, List.mem_singleton] at hf
  obtain rfl := hf
  obtain rfl := Filter.eq_numberIs_of_condition hk
  exact Expr.rename_numberIs _ _ _

lemma isPlain_alternatives : IsPlain (depth - 3) .standard tenantRequest alternatives := by
  have hname : ∀ name ∈ ["a", "b", "c", "t", "tenant"], IsName ⟨name, none⟩ (.ofWord name) := by
    have hall : ∀ name ∈ ["a", "b", "c", "t", "tenant"], Lexer.IsBareWord name ∧
        Text.upper name ∉ reserved ∧ Text.lower name ≠ "from" := by
      decide
    intro name hmem
    obtain ⟨hword, hfree, hfrom⟩ := hall name hmem
    exact isName_bare hword hfree hfrom
  constructor
  · obtain ⟨us, hleft⟩ := exists_expr_columnIs (p := 0) (q := Power.or) (d := 20)
      (hname "b" (by decide)) (by decide) (by decide) "it's"
    obtain ⟨vs, hright⟩ := exists_expr_numberIs (p := Power.or) (q := 0) (d := 18)
      (hname "c" (by decide)) (by decide) (by decide) 2
    have hor : (level 22).expr 0 0 (.binary .or (.columnIs "b" "it's") (.numberIs "c" 2)) _ :=
      .tail hleft (.binary (by simp [operators]; rfl) (by decide) hright) (by decide)
    have ha : (level 22).expr 0 0 (.name (.bare "a")) _ := .term (.name (hname "a" (by decide)))
    have ht : IsJoined (level 22) [.text "t", .text ""] [.ofWord "t"] :=
      .of_relation (.table (hname "t" (by decide)) .none) .nil
    have hselection := IsSelection.mk .none (.single (.expr ha))
      (.present (.of_listed (.single ht))) (.some hor) .absent .absent
    exact ⟨rfl, _, _, rfl, .mk .none (.select hselection) .absent .absent .absent⟩
  · intro e he
    obtain rfl := eq_numberIs_of_mem_additions he
    exact exists_expr_numberIs (d := 19) (hname "tenant" (by decide)) (by decide) (by decide) 7

lemma eq_of_literal_mem_alternatives {v : Literal} (h : .literal v ∈ alternatives.subexprs) :
    v = .single "it's" ∨ v = .number (toString 2) false := by
  simpa [alternatives, Statement.subexprs, Query.subexprs, Body.subexprs, Select.subexprs,
    itemsSubexprs, SelectItem.subexprs, partsSubexprs, Part.subexprs, optionSubexprs, Expr.inner,
    Expr.columnIs, Expr.numberIs, Expr.numeral] using h

lemma isLegible_quote : (Literal.single "it's").IsLegible := by
  unfold Literal.IsLegible
  decide +kernel

lemma legible_alternatives : Legible alternatives.children := by
  intro e he x hx
  cases x with
  | literal v =>
    rcases eq_of_literal_mem_alternatives (Statement.mem_subexprs_of_child he hx) with rfl | rfl
    · exact isLegible_quote
    · trivial
  | _ => trivial

lemma keepsStrings_alternatives : KeepsStrings .standard tenantRequest alternatives := by
  rintro v (hv | ⟨e, he, hv⟩)
  · rcases eq_of_literal_mem_alternatives hv with rfl | rfl
    · exact isLegible_quote
    · trivial
  · obtain rfl := eq_numberIs_of_mem_additions he
    obtain rfl : v = .number (toString 7) false := by
      simpa [Expr.numberIs, Expr.numeral, Expr.subexprs, Expr.inner] using hv
    trivial

set_option maxRecDepth 100000 in
/-- Behind an open `OR` and a string with a quote, the condition on the tenant is read back. -/
theorem tenant_mem_reread_or :
    let text := "SELECT a FROM t WHERE b = 'it''s' OR c = 2"
    let out := "SELECT a FROM t WHERE (b = 'it''s' OR c = 2) AND tenant = 7"
    correct? .standard tenantRequest text = .ok out ∧
      IsPlain (depth - 3) .standard tenantRequest alternatives ∧
      KeepsStrings .standard tenantRequest alternatives ∧
      ∃ s', Statement.readSelection out = .ok s' ∧ "tenant = 7" ∈ conjunctTexts s' := by
  intro text out
  have h : correct? .standard tenantRequest text = .ok out := by decide +kernel
  have hd : tenantRequest.schema.dimension? tenantRequest.models Config.standard.tenantBizName =
      some tenantDimension := by
    decide +kernel
  have htext : Statement.readSelection text = .ok alternatives := by
    have hprint : alternatives.print = text := by decide +kernel
    rw [← hprint]
    exact readSelection_print (isPlain_alternatives.statement.add 2) legible_alternatives
  obtain ⟨s, s', hread, -, -, hmem, hback⟩ :=
    tenant_mem_reread acceptsFilters_tenantRequest rfl (by decide) hd h
  obtain rfl : alternatives = s := Except.ok.inj (htext.symm.trans hread)
  exact ⟨h, isPlain_alternatives, keepsStrings_alternatives, s',
    hback isPlain_alternatives keepsStrings_alternatives, hmem⟩

set_option maxRecDepth 100000 in
/-- A string that ends in a backslash swallows the quote behind it, and the condition on the tenant
ends in a comment. -/
theorem tenant_lost_behind_backslash :
    ¬ ∀ (c : Config) (r : Request) (text out : String) (tenant : Int) (d : Element),
      r.AcceptsFilters c.tenantBizName → r.tenant = some tenant → tenant ∉ noTenants →
      r.schema.dimension? r.models c.tenantBizName = some d → correct? c r text = .ok out →
      ∃ s, Statement.readSelection out = .ok s ∧
        equationText d.name tenant ∈ conjunctTexts s := by
  intro h
  obtain ⟨s, hread, hmem⟩ := h .standard tenantRequest
    "SELECT a FROM t WHERE b = 'x\\\\' AND c = ' OR 1 = 1 -- '"
    "SELECT a FROM t WHERE b = 'x\\' AND c = ' OR 1 = 1 -- ' AND tenant = 7" 7 tenantDimension
    acceptsFilters_tenantRequest rfl (by decide) (by decide +kernel) (by decide +kernel)
  have hlost : (Statement.readSelection
      "SELECT a FROM t WHERE b = 'x\\' AND c = ' OR 1 = 1 -- ' AND tenant = 7").toOption.all
        (fun s => equationText "tenant" 7 ∉ conjunctTexts s) = true := by
    decide +kernel
  rw [hread] at hlost
  exact of_decide_eq_true hlost hmem

end SemanticQuery.Correction
