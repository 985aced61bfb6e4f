import SemanticQuery.Correction.DateDifference
import SemanticQuery.Proofs.Correction.Renaming
import SemanticQuery.Proofs.Text.Blank

/-!
# Laws of differences of dates

Making differences of dates executable leaves none, and keeps operators, parentheses and every
column that is not named like a unit of time. Renaming makes no new difference of dates, provided
that no stored value is a unit of time.
-/

namespace SemanticQuery.Sql

variable {r : Renaming}

/-! ### Units of time -/

/-- Whether a text is a unit of time, without the blanks around it and in capitals. -/
def isTimeUnit (text : String) : Bool := timeUnits.contains (Text.upper (Text.trim text))

/-- The text by which an expression may name a unit of time. -/
def Expr.unitText? : Expr → Option String
  | .name ident => some ident.value
  | e => e.literalText?

lemma Expr.timeUnit?_eq (e : Expr) :
    e.timeUnit? = e.unitText?.bind fun text =>
      if isTimeUnit text then some (Text.upper (Text.trim text)) else none := by
  fun_cases Expr.timeUnit? e with
  | case1 text? text htext unit hunit =>
    have hnamed : e.unitText? = some text := htext
    rw [hnamed, Option.bind_some, isTimeUnit, if_pos hunit]
  | case2 text? text htext unit hunit =>
    have hnamed : e.unitText? = some text := htext
    rw [hnamed, Option.bind_some, isTimeUnit, if_neg hunit]
  | case3 text? htext =>
    have hnamed : e.unitText? = none := htext
    rw [hnamed, Option.bind_none]

lemma Expr.exists_of_timeUnit? {e : Expr} {unit : String} (h : e.timeUnit? = some unit) :
    ∃ text, e.unitText? = some text ∧ isTimeUnit text = true := by
  rw [Expr.timeUnit?_eq, Option.bind_eq_some_iff] at h
  obtain ⟨text, htext, hunit⟩ := h
  refine ⟨text, htext, ?_⟩
  by_contra hnot
  simp [hnot] at hunit

lemma Expr.isSome_timeUnit? {e : Expr} {text : String} (htext : e.unitText? = some text)
    (hunit : isTimeUnit text = true) : e.timeUnit?.isSome = true := by
  simp [Expr.timeUnit?_eq, htext, hunit]

/-- The first character of a text, if it stays as it is, is the first one of the unit that the
text names. -/
lemma exists_timeUnit_head {c : Char} {text : String} (hblank : Text.isBlank c = false)
    (hupper : Text.upperChar c = [c]) (htext : text.toList.head? = some c)
    (h : isTimeUnit text = true) : ∃ unit ∈ timeUnits, unit.toList.head? = some c := by
  simp only [isTimeUnit, List.contains_iff_mem] at h
  refine ⟨_, h, ?_⟩
  obtain ⟨cs, hcs⟩ := List.head?_eq_some_iff.mp htext
  obtain ⟨rest, hrest⟩ := Text.trimChars_cons hblank cs
  simp [Text.upper, Text.trim, Text.upperChars, hcs, hrest, hupper]

/-- An operator before a text keeps it from being a unit of time. -/
lemma isTimeUnit_unary (op : UnaryOp) (text : String) :
    isTimeUnit (op.symbol ++ text) = false := by
  by_contra h
  rw [Bool.not_eq_false] at h
  cases op with
  | plus =>
    obtain ⟨unit, hmem, hhead⟩ :=
      exists_timeUnit_head (c := '+') (by decide) (by decide) (by simp [UnaryOp.symbol]) h
    revert unit
    decide
  | minus =>
    obtain ⟨unit, hmem, hhead⟩ :=
      exists_timeUnit_head (c := '-') (by decide) (by decide) (by simp [UnaryOp.symbol]) h
    revert unit
    decide
  | not =>
    obtain ⟨unit, hmem, hhead⟩ :=
      exists_timeUnit_head (c := 'N') (by decide) (by decide) (by simp [UnaryOp.symbol]) h
    revert unit
    decide

/-! ### One call -/

namespace Call

lemma executable?_eq_some {c c' : Call} (h : c.executable? = some c') :
    ∃ unit start stop value name,
      c.normalizedName = "datediff" ∧ c.arguments = [unit, start, stop] ∧
      unit.value? = some value ∧ value.timeUnit? = some name ∧
      c' = { c with
        name := [.bare "TIMESTAMPDIFF"]
        arguments := [.positional (.name (.bare name)), start, stop] } := by
  unfold executable? at h
  split at h
  next hname =>
    split at h
    next unit start stop harguments =>
      split at h
      next name hunit =>
        obtain ⟨value, hvalue, hname'⟩ := Option.bind_eq_some_iff.mp hunit
        exact ⟨unit, start, stop, value, name, by simpa using hname, harguments, hvalue, hname',
          (Option.some_inj.mp h).symm⟩
      next _ => simp at h
    next _ => simp at h
  next _ => simp at h

/-- The call is one of `DATEDIFF` with three arguments, of which the first one is as given. -/
def MeasuresIn (p : Expr → Prop) (c : Call) : Prop :=
  c.normalizedName = "datediff" ∧ ∃ first start stop e, c.arguments = [first, start, stop] ∧
    first.value? = some e ∧ p e

variable {p q : Expr → Prop} {c : Call}

lemma MeasuresIn.mono (h : c.MeasuresIn p) (hpq : ∀ e, p e → q e) : c.MeasuresIn q := by
  obtain ⟨hname, first, start, stop, e, harguments, he, hp⟩ := h
  exact ⟨hname, first, start, stop, e, harguments, he, hpq e hp⟩

lemma isSome_executable?_iff :
    c.executable?.isSome = true ↔ c.MeasuresIn fun e => e.timeUnit?.isSome = true := by
  constructor
  · intro h
    obtain ⟨c', hc⟩ := Option.isSome_iff_exists.mp h
    obtain ⟨first, start, stop, e, unit, hname, harguments, he, hunit, -⟩ := executable?_eq_some hc
    exact ⟨hname, first, start, stop, e, harguments, he, Option.isSome_of_eq_some hunit⟩
  · rintro ⟨hname, first, start, stop, e, harguments, he, hsome⟩
    obtain ⟨unit, hunit⟩ := Option.isSome_iff_exists.mp hsome
    simp [executable?, hname, harguments, he, hunit]

lemma normalizedName_timestampdiff (c : Call) (arguments : List Argument) :
    normalizedName { c with name := [.bare "TIMESTAMPDIFF"], arguments } ≠ "datediff" := by
  have hname : Name.normalized (Name.lastComponent (printPath [.bare "TIMESTAMPDIFF"])) ≠
      "datediff" := by decide +kernel
  exact hname

/-- The call that executes a difference of dates is none itself. -/
lemma executable?_timestampdiff (c : Call) (arguments : List Argument) :
    executable? { c with name := [.bare "TIMESTAMPDIFF"], arguments } = none := by
  rw [executable?, if_neg (by simpa using normalizedName_timestampdiff c arguments)]

lemma mem_children_of_executable? {c c' : Call} (h : c.executable? = some c') :
    ∀ x ∈ c'.children, (∃ ident, x = .name ident) ∨ x ∈ c.children := by
  intro x hx
  obtain ⟨unit, start, stop, value, name, _, harguments, _, _, rfl⟩ := executable?_eq_some h
  simp only [children, harguments, List.flatMap_cons, List.flatMap_nil, Argument.children,
    List.mem_append, List.mem_cons, List.not_mem_nil, or_false] at hx ⊢
  clear h
  rcases hx with (((rfl | hx) | hx) | hx) | hx
  · exact .inl ⟨_, rfl⟩
  all_goals exact .inr (by tauto)

end Call

namespace Expr

/-! ### One expression -/

lemma keepsJoints_executableHere : KeepsJoints executableHere where
  joint e h := by
    cases e with
    | binary | nested => rfl
    | _ => simp [isJoint] at h
  leaf e h := by
    cases e with
    | binary | nested => simp [isJoint] at h
    | _ => rfl

lemma isDateDifference_call (c : Call) :
    (Expr.call c).isDateDifference = c.executable?.isSome := rfl

lemma executableHere_call (c : Call) :
    (Expr.call c).executableHere = .call (c.executable?.getD c) := rfl

lemma executableHere_of_not_isDateDifference {e : Expr} (h : e.isDateDifference = false) :
    e.executableHere = e := by
  cases e with
  | call c =>
    rw [isDateDifference_call, Option.isSome_eq_false_iff, Option.isNone_iff_eq_none] at h
    rw [executableHere_call, h, Option.getD_none]
  | _ => rfl

lemma exists_call_of_isDateDifference {e : Expr} (h : e.isDateDifference = true) :
    ∃ c c', e = .call c ∧ c.executable? = some c' := by
  cases e with
  | call c =>
    rw [isDateDifference_call, Option.isSome_iff_exists] at h
    obtain ⟨c', hc⟩ := h
    exact ⟨c, c', rfl, hc⟩
  | _ => simp only [isDateDifference, Bool.false_eq_true] at h

lemma establishes_not_isDateDifference :
    Establishes executableHere (fun _ => True) (fun e => e.isDateDifference = false) := by
  intro e _ hinner x hx
  generalize e.mapInner executableHere = e at hinner hx
  cases hdiff : e.isDateDifference with
  | false =>
    rw [executableHere_of_not_isDateDifference hdiff, subexprs, List.mem_cons] at hx
    rcases hx with rfl | hx
    · exact hdiff
    · exact hinner x hx
  | true =>
    obtain ⟨c, c', rfl, hc⟩ := exists_call_of_isDateDifference hdiff
    rw [executableHere_call, hc, Option.getD_some, subexprs, List.mem_cons] at hx
    rcases hx with rfl | hx
    · obtain ⟨_, _, _, _, _, _, _, _, _, rfl⟩ := Call.executable?_eq_some hc
      rw [isDateDifference_call, Call.executable?_timestampdiff, Option.isSome_none]
    · rw [inner_eq, List.mem_flatMap] at hx
      obtain ⟨y, hy, hx⟩ := hx
      rcases Call.mem_children_of_executable? hc y hy with ⟨ident, rfl⟩ | hy
      · obtain rfl : x = .name ident := by simpa [subexprs, inner] using hx
        rfl
      · exact hinner x (mem_inner_of_child hy hx)

end Expr

/-! ### Whole trees -/

/-- The expression with every difference of dates made executable. -/
def Expr.executable (e : Expr) : Expr := e.mapExprs Expr.executableHere

lemma Expr.executable_eq (e : Expr) :
    e.executable = (e.mapInner executableHere).executableHere := mapExprs_eq executableHere e

lemma Statement.hasDateDifference_eq_false_iff {s : Statement} :
    s.hasDateDifference = false ↔ ∀ x ∈ s.subexprs, x.isDateDifference = false := by
  simp [hasDateDifference]

/-- An executable statement has no difference of dates left. -/
lemma Statement.not_isDateDifference_of_mem_executable (s : Statement) :
    ∀ x ∈ s.executable.subexprs, x.isDateDifference = false :=
  forall_subexprs_mapExprs Expr.establishes_not_isDateDifference s fun _ _ => trivial

lemma Statement.executable_eq_self {s : Statement}
    (h : ∀ x ∈ s.subexprs, x.isDateDifference = false) : s.executable = s :=
  mapExprs_eq_self s fun x hx => Expr.executableHere_of_not_isDateDifference (h x hx)

/-! ### Renamed units -/

/-- No stored value is a unit of time. -/
def AvoidsUnits (r : Renaming) : Prop :=
  ∀ name stored, r.lookup name = some stored → isTimeUnit stored = false

lemma Argument.value?_mapExprs (f : Expr → Expr) (a : Argument) :
    (a.mapExprs f).value? = a.value?.map (Expr.mapExprs f) := by
  cases a <;> simp [Argument.mapExprs, Argument.value?]

namespace Expr

/-- The text of a renamed literal is the old one or no unit of time. -/
lemma literalText?_rename (hr : AvoidsUnits r) (e : Expr) {text : String}
    (h : (e.rename r).literalText? = some text) :
    ∃ old, e.literalText? = some old ∧ (text = old ∨ isTimeUnit text = false) := by
  match e with
  | .literal (.single old) | .literal (.double old) =>
    simp only [rename, mapExprs, renameHere, literalText?, Option.some_inj] at h
    refine ⟨old, rfl, ?_⟩
    cases hlookup : r.lookup old with
    | none => exact .inl (by rw [← h, hlookup, Option.getD_none])
    | some stored =>
      rw [hlookup, Option.getD_some] at h
      exact .inr (h ▸ hr old stored hlookup)
  | .literal (.number _ _) | .literal (.boolean _) => exact ⟨text, h, .inl rfl⟩
  | .unary op operand =>
    simp only [rename, mapExprs, renameHere, literalText?, Option.map_eq_some_iff] at h
    obtain ⟨inside, hinside, rfl⟩ := h
    obtain ⟨old, hold, _⟩ := literalText?_rename hr operand hinside
    exact ⟨op.symbol ++ old, by simp [literalText?, hold], .inr (isTimeUnit_unary op inside)⟩
  | .nested inner => exact literalText?_rename hr inner h
  | .literal (.national _) | .literal (.hex _) | .literal (.bytes _ _) | .literal .null
  | .literal (.placeholder _) | .name _ | .path _ | .binary _ _ _ | .inList _ _ _
  | .like _ _ _ _ _ | .between _ _ _ _ | .cast _ _ _ | .trim _ _ _ | .call _ | .phrase _ =>
    simp [rename, mapExprs, renameHere, literalText?] at h

lemma unitText?_rename (hr : AvoidsUnits r) (e : Expr) {text : String}
    (h : (e.rename r).unitText? = some text) :
    ∃ old, e.unitText? = some old ∧ (text = old ∨ isTimeUnit text = false) := by
  match e with
  | .name ident => exact ⟨text, h, .inl rfl⟩
  | .literal value => cases value <;> exact literalText?_rename hr _ h
  | .path _ | .nested _ | .unary _ _ | .binary _ _ _ | .inList _ _ _ | .like _ _ _ _ _
  | .between _ _ _ _ | .cast _ _ _ | .trim _ _ _ | .call _ | .phrase _ =>
    exact literalText?_rename hr _ h

lemma isSome_timeUnit?_of_rename (hr : AvoidsUnits r) {e : Expr} {unit : String}
    (h : (e.rename r).timeUnit? = some unit) : e.timeUnit?.isSome = true := by
  obtain ⟨text, htext, hunit⟩ := exists_of_timeUnit? h
  obtain ⟨old, hold, rfl | hnot⟩ := unitText?_rename hr e htext
  · exact isSome_timeUnit? hold hunit
  · rw [hnot] at hunit
    exact absurd hunit Bool.false_ne_true

end Expr

namespace Call

lemma arguments_mapExprs (f : Expr → Expr) (c : Call) :
    (c.mapExprs f).arguments = c.arguments.map (Argument.mapExprs f) := by
  cases c
  exact mapExprsOfArguments_eq f _

lemma measuresIn_mapExprs {p : Expr → Prop} {f : Expr → Expr} {c : Call} :
    (c.mapExprs f).MeasuresIn p ↔ c.MeasuresIn fun e => p (e.mapExprs f) := by
  have hname : (c.mapExprs f).normalizedName = c.normalizedName := by
    cases c
    rfl
  rw [MeasuresIn, MeasuresIn, hname, arguments_mapExprs]
  refine and_congr_right fun _ => ⟨?_, ?_⟩
  · rintro ⟨_, _, _, e', harguments, he', hp⟩
    simp only [List.map_eq_cons_iff, List.map_eq_nil_iff] at harguments
    obtain ⟨first, _, hc, rfl, start, _, rfl, _, stop, _, rfl, _, rfl⟩ := harguments
    rw [Argument.value?_mapExprs, Option.map_eq_some_iff] at he'
    obtain ⟨e, he, rfl⟩ := he'
    exact ⟨first, start, stop, e, hc, he, hp⟩
  · rintro ⟨first, start, stop, e, harguments, he, hp⟩
    refine ⟨_, _, _, e.mapExprs f, by rw [harguments]; rfl, ?_, hp⟩
    rw [Argument.value?_mapExprs, he, Option.map_some]

/-- A call whose arguments were renamed into a difference of dates was one before. -/
lemma isSome_executable?_of_rename (hr : AvoidsUnits r) {c : Call}
    (h : (c.mapExprs (Expr.renameHere r)).executable?.isSome = true) :
    c.executable?.isSome = true := by
  rw [isSome_executable?_iff, measuresIn_mapExprs] at h
  refine isSome_executable?_iff.mpr (h.mono fun e he => ?_)
  obtain ⟨unit, hunit⟩ := Option.isSome_iff_exists.mp he
  exact Expr.isSome_timeUnit?_of_rename hr hunit

end Call

namespace Expr

lemma isDateDifference_renameHere (r : Renaming) (e : Expr) :
    (e.renameHere r).isDateDifference = e.isDateDifference := by
  cases e with
  | literal value => cases value <;> rfl
  | _ => rfl

lemma isDateDifference_mapInner_renameHere (hr : AvoidsUnits r) {e : Expr}
    (h : e.isDateDifference = false) : (e.mapInner (renameHere r)).isDateDifference = false := by
  cases e with
  | call c =>
    have hcall : (Expr.call c).mapInner (renameHere r) = .call (c.mapExprs (renameHere r)) := rfl
    rw [hcall, isDateDifference_call]
    rw [isDateDifference_call] at h
    by_contra hdiff
    rw [Bool.not_eq_false] at hdiff
    rw [Call.isSome_executable?_of_rename hr hdiff] at h
    exact absurd h (by decide)
  | _ => rfl

lemma establishes_not_isDateDifference_rename (hr : AvoidsUnits r) :
    Establishes (renameHere r) (fun e => e.isDateDifference = false)
      (fun e => e.isDateDifference = false) := by
  intro e he hinner x hx
  rw [subexprs, inner_renameHere, List.mem_cons] at hx
  rcases hx with rfl | hx
  · rw [isDateDifference_renameHere]
    exact isDateDifference_mapInner_renameHere hr he
  · exact hinner x hx

end Expr

/-- Renaming makes no new difference of dates. -/
lemma Statement.not_isDateDifference_of_mem_rename (hr : AvoidsUnits r) {s : Statement}
    (h : ∀ x ∈ s.subexprs, x.isDateDifference = false) :
    ∀ x ∈ (s.rename r).subexprs, x.isDateDifference = false :=
  forall_subexprs_mapExprs (Expr.establishes_not_isDateDifference_rename hr) s h

/-! ### Columns -/

lemma Argument.children_of_value? {a : Argument} {value : Expr} (h : a.value? = some value) :
    a.children = [value] := by
  cases a <;> simp_all [value?, children]

/-- What a difference of dates holds is its unit or stays in the call that executes it. -/
lemma Call.unitText?_or_mem_of_executable? {c c' : Call} (h : c.executable? = some c') :
    ∀ x ∈ c.children,
      (∃ text, x.unitText? = some text ∧ isTimeUnit text = true) ∨ x ∈ c'.children := by
  intro x hx
  obtain ⟨unit, start, stop, value, name, -, harguments, hvalue, hunit, rfl⟩ :=
    executable?_eq_some h
  have hname := Expr.exists_of_timeUnit? hunit
  clear h hunit
  simp only [children, harguments, List.flatMap_cons, List.flatMap_nil,
    Argument.children_of_value? hvalue, List.mem_append, List.mem_singleton, List.not_mem_nil,
    or_false] at hx ⊢
  rcases hx with (((rfl | hx) | hx) | hx) | hx
  · exact .inl hname
  · exact .inr (.inl (.inl (.inl (.inr hx))))
  · exact .inr (.inl (.inl (.inr hx)))
  · exact .inr (.inl (.inr hx))
  · exact .inr (.inr hx)

namespace Expr

/-- Signs and parentheses are all that stands around a literal. -/
lemma isSome_literalText?_of_mem (e : Expr) (h : e.literalText?.isSome = true) :
    ∀ x ∈ e.subexprs, x.literalText?.isSome = true := by
  match e with
  | .literal _ => simpa [subexprs, inner] using h
  | .unary _ operand =>
    have hoperand : operand.literalText?.isSome = true := by simpa [literalText?] using h
    simpa [subexprs, inner, literalText?, hoperand] using isSome_literalText?_of_mem operand hoperand
  | .nested inside =>
    have hinside : inside.literalText?.isSome = true := h
    simpa [subexprs, inner, literalText?, hinside] using isSome_literalText?_of_mem inside hinside
  | .name _ | .path _ | .binary _ _ _ | .inList _ _ _ | .like _ _ _ _ _ | .between _ _ _ _
  | .cast _ _ _ | .trim _ _ _ | .call _ | .phrase _ => simp [literalText?] at h

lemma column?_of_literalText? (e : Expr) {text : String} (h : e.literalText? = some text) :
    ∀ x ∈ e.subexprs, x.column? = none := by
  intro x hx
  have hliteral := isSome_literalText?_of_mem e (Option.isSome_of_eq_some h) x hx
  cases x with
  | name | path => simp [literalText?] at hliteral
  | _ => rfl

/-- The only column in an expression that names a unit is the one that names it. -/
lemma eq_of_unitText? {e x : Expr} {text name : String} (htext : e.unitText? = some text)
    (hx : x ∈ e.subexprs) (hcolumn : x.column? = some name) : text = name := by
  cases e with
  | name ident =>
    obtain rfl : x = .name ident := by simpa [subexprs, inner] using hx
    simp_all [unitText?, column?]
  | _ =>
    rw [column?_of_literalText? _ htext x hx] at hcolumn
    exact absurd hcolumn (by simp)

lemma mapExprs_of_column? {f : Expr → Expr} {x : Expr} {name : String}
    (hcolumn : x.column? = some name) (hf : f x = x) : x.mapExprs f = x := by
  cases x <;> simp_all [column?, mapExprs]

/-- A column that is not named like a unit of time stays where it is. -/
lemma mem_subexprs_executable {e x : Expr} {name : String} (hcolumn : x.column? = some name)
    (hunit : isTimeUnit name = false) (hx : x ∈ e.subexprs) : x ∈ e.executable.subexprs := by
  refine mem_subexprs_mapExprs ?_ ?_ e hx
  · rw [mapExprs_of_column? hcolumn (by cases x <;> simp_all [column?, executableHere])]
    exact mem_subexprs_self x
  · intro e hinner
    cases hdiff : e.isDateDifference with
    | false =>
      rw [executableHere_of_not_isDateDifference hdiff, subexprs]
      exact List.mem_cons_of_mem e hinner
    | true =>
      obtain ⟨c, c', rfl, hc⟩ := exists_call_of_isDateDifference hdiff
      rw [inner_eq, List.mem_flatMap] at hinner
      obtain ⟨y, hy, hxy⟩ := hinner
      rw [executableHere_call, hc, Option.getD_some]
      rcases Call.unitText?_or_mem_of_executable? hc y hy with ⟨text, htext, htime⟩ | hy
      · rw [eq_of_unitText? htext hxy hcolumn, hunit] at htime
        exact absurd htime Bool.false_ne_true
      · exact mem_subexprs_of_child hy hxy

end Expr

end SemanticQuery.Sql
