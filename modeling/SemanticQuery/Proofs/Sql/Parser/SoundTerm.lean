import SemanticQuery.Proofs.Sql.Parser.Reading
import SemanticQuery.Proofs.Sql.Parser.Reads

/-!
# Expressions are read sound

What the parser of a form reads is sound, given that the forms inside it are read so. Only operators
join, and an `AND` finds no open `OR` beside it.
-/

namespace SemanticQuery.Sql

/-! ### Grammars -/

/-- What the parsers of the forms inside others read is sound. -/
structure Grammar.IsSound (g : Grammar) : Prop where
  subexpr : ∀ power ts, Parser.Reads (g.subexpr power) ts fun e _ => e.IsSound
  body : ∀ power ts, Parser.Reads (g.body power) ts fun b _ => Sound b.children
  query : ∀ ts, Parser.Reads g.query ts fun q _ => Sound q.children
  joined : ∀ ts, Parser.Reads g.joined ts fun j _ => Sound (partsChildren j.parts)

lemma Grammar.IsSound.expr {g : Grammar} (hg : g.IsSound) (ts : List Token) :
    Parser.Reads g.expr ts fun e _ => e.IsSound :=
  hg.subexpr 0 ts

namespace Parser

variable {g : Grammar} (hg : g.IsSound) {ts : List Token}
include hg

lemma sound_exprs : Reads (commaSeparated g.expr) ts fun es _ => Sound es :=
  reads_commaSeparated hg.expr

lemma sound_exprList : Reads (exprList g) ts fun ps _ => Sound (partsChildren ps) :=
  reads_bind_of (sound_exprs hg) fun _ _ hes => reads_pure (by simpa using hes)

lemma sound_orderItems : Reads (orderItems g) ts fun ps _ => Sound (partsChildren ps) := by
  have hitem : ∀ ts, Reads (orderItem g) ts fun ps _ => Sound (partsChildren ps) := by
    intro ts
    refine reads_bind_of (hg.expr _) fun e _ he => ?_
    repeat' first
      | exact reads_pure (by simpa using he)
      | refine reads_ite (fun _ => ?_) (fun _ => ?_)
      | refine reads_bind fun _ _ => ?_
  exact reads_bind_of (reads_commaSeparated hitem) fun _ _ hpss => reads_pure (by simpa using hpss)

/-- The expression of what stands where a star may stand. -/
lemma sound_starred : Reads (starred g) ts fun x _ => ∀ e, x = .expr e → e.IsSound := by
  have hexpr : ∀ ts, Reads (do return Starred.expr (← g.expr)) ts
      fun x _ => ∀ e, x = .expr e → e.IsSound := by
    intro ts
    refine reads_bind_of (hg.expr _) fun e _ he => reads_pure ?_
    rintro _ ⟨⟩
    exact he
  unfold starred
  refine reads_bind_of reads_ahead fun tokens _ htokens => ?_
  split
  · exact reads_bind_of (reads_goTo htokens.1.tail) fun _ _ _ => reads_pure (by simp)
  · split
    all_goals first
      | exact hexpr _
      | refine reads_bind fun first _ => reads_bind_of (R := fun _ _ => True) ?_ fun _ _ _ => ?_
        · refine reads_loop (I := fun _ _ => True) (fun _ _ _ => ?_) trivial
          repeat' first
            | exact reads_pure trivial
            | exact reads_fail
            | refine reads_ite (fun _ => ?_) (fun _ => ?_)
            | refine reads_bind fun _ _ => ?_
            | split
        · split
          · exact reads_pure (by simp)
          -- no star followed the names, so the reading starts over where they stand
          · exact reads_bind_of (reads_goTo htokens.1) fun _ _ _ => hexpr _
  · exact hexpr _

/-! ### Calls -/

lemma sound_argument : Reads (argument g) ts fun a _ => Sound a.children := by
  have hnamed : ∀ (x : Starred) parameter sign, (∀ e, x = .expr e → e.IsSound) →
      Sound (x.toNamed parameter sign).children := by
    intro x parameter sign h
    cases x with
    | star text => simp [Starred.toNamed]
    | expr e => simpa [Starred.toNamed] using h e rfl
  have hpositional : ∀ x : Starred, (∀ e, x = .expr e → e.IsSound) →
      Sound x.toArgument.children := by
    intro x h
    cases x with
    | star text => simp [Starred.toArgument]
    | expr e => simpa [Starred.toArgument] using h e rfl
  refine reads_bind_of (R := fun a _ => ∀ x ∈ a, Sound x.children)
    (reads_attempt ?_ (by simp)) fun named _ h => ?_
  · refine reads_bind fun _ _ => reads_bind fun _ _ => ?_
    exact reads_bind_of (sound_starred hg) fun x _ hx => reads_pure (by simpa using hnamed x _ _ hx)
  · split
    · exact reads_pure (h _ rfl)
    · exact reads_bind_of (sound_starred hg) fun x _ hx => reads_pure (hpositional x hx)

omit hg in
@[simp] lemma sound_spaced (pss : List (List Part)) :
    Sound (partsChildren (spaced pss)) ↔ ∀ ps ∈ pss, Sound (partsChildren ps) := by
  fun_induction spaced pss <;> simp_all

omit hg in
lemma sound_nullClause : Reads nullClause ts fun pss _ => ∀ ps ∈ pss, Sound (partsChildren ps) := by
  unfold nullClause
  repeat' first
    | exact reads_pure (by simp)
    | refine reads_ite (fun _ => ?_) (fun _ => ?_)
    | refine reads_bind fun _ _ => ?_

/-- The arguments and the clauses behind them. -/
lemma sound_argumentList : Reads (argumentList g) ts fun x _ =>
    (∀ a ∈ x.2.1, Sound a.children) ∧ Sound (partsChildren x.2.2) := by
  refine reads_bind_of sound_nullClause fun opening _ hopening => reads_bind fun _ _ => ?_
  refine reads_ite (fun _ => reads_pure ?_) (fun _ => ?_)
  · simpa using hopening
  refine reads_bind fun all _ => reads_bind fun distinct _ => reads_bind fun _ _ => ?_
  refine reads_bind_of (reads_commaSeparated fun ts => sound_argument hg) fun args _ hargs => ?_
  refine reads_bind fun _ _ => ?_
  extract_lets behindOrder
  have horder : ∀ order ts, (∀ ps ∈ order, Sound (partsChildren ps)) →
      Reads (behindOrder order) ts fun x _ =>
        (∀ a ∈ x.2.1, Sound a.children) ∧ Sound (partsChildren x.2.2) := by
    intro order ts horder
    refine reads_bind fun _ _ => ?_
    extract_lets behindLimit
    have hlimit : ∀ limit ts, (∀ ps ∈ limit, Sound (partsChildren ps)) →
        Reads (behindLimit limit) ts fun x _ =>
          (∀ a ∈ x.2.1, Sound a.children) ∧ Sound (partsChildren x.2.2) := by
      intro limit ts hlimit
      refine reads_bind fun _ _ => ?_
      extract_lets behindSeparator
      have hseparator : ∀ separator ts, (∀ ps ∈ separator, Sound (partsChildren ps)) →
          Reads (behindSeparator separator) ts fun x _ =>
            (∀ a ∈ x.2.1, Sound a.children) ∧ Sound (partsChildren x.2.2) := by
        intro separator ts hseparator
        refine reads_bind_of sound_nullClause fun closing _ hclosing => reads_bind fun _ _ => ?_
        refine reads_pure ⟨hargs, ?_⟩
        simp only [sound_spaced, List.forall_mem_append]
        exact ⟨⟨⟨⟨hopening, horder⟩, hlimit⟩, hseparator⟩, hclosing⟩
      refine reads_ite (fun _ => reads_bind fun _ _ => ?_) (fun _ => ?_)
      all_goals exact reads_pure_bind (hseparator _ _ (by simp))
    refine reads_ite (fun _ => ?_) (fun _ => reads_pure_bind (hlimit _ _ (by simp)))
    refine reads_bind_of (hg.expr _) fun e _ he => ?_
    exact reads_pure_bind (hlimit _ _ (by simpa using he))
  refine reads_ite (fun _ => ?_) (fun _ => reads_pure_bind (horder _ _ (by simp)))
  refine reads_bind_of (sound_orderItems hg) fun items _ hitems => ?_
  exact reads_pure_bind (horder _ _ (by simpa using hitems))

/-! ### Windows -/

section

variable {interval : Parser Expr} (hinterval : ∀ ts, Reads interval ts fun e _ => e.IsSound)
include hinterval

lemma sound_frameBound :
    Reads (frameBound g interval) ts fun ps _ => Sound (partsChildren ps) := by
  refine reads_bind fun _ _ => reads_ite (fun _ => reads_pure (by simp)) (fun _ => ?_)
  refine reads_bind fun _ _ => ?_
  extract_lets behindRows
  have hrows : ∀ rows ts, Sound (partsChildren rows) →
      Reads (behindRows rows) ts fun ps _ => Sound (partsChildren ps) := fun rows ts hrows =>
    reads_bind fun _ _ => reads_pure (by simpa using hrows)
  refine reads_ite (fun _ => reads_pure_bind (hrows _ _ (by simp))) (fun _ => ?_)
  refine reads_bind fun _ _ => ?_
  split
  · refine reads_bind_of (hinterval _) fun e _ he => ?_
    exact reads_pure_bind (hrows _ _ (by simpa using he))
  · refine reads_bind_of (hg.expr _) fun e _ he => ?_
    exact reads_pure_bind (hrows _ _ (by simpa using he))

lemma sound_frame : Reads (frame g interval) ts fun ps _ => Sound (partsChildren ps) := by
  refine reads_bind fun _ _ => reads_bind fun _ _ => reads_ite (fun _ => ?_) (fun _ => ?_)
  · refine reads_bind_of (sound_frameBound hg hinterval) fun first _ hfirst => ?_
    refine reads_bind fun _ _ => ?_
    refine reads_bind_of (sound_frameBound hg hinterval) fun last _ hlast => reads_pure ?_
    simpa using ⟨hfirst, hlast⟩
  · refine reads_bind_of (sound_frameBound hg hinterval) fun bound _ hbound => reads_pure ?_
    simpa using hbound

lemma sound_window : Reads (window g interval) ts fun ps _ => Sound (partsChildren ps) := by
  refine reads_bind fun _ _ => ?_
  extract_lets behindBase
  have hbase : ∀ base ts, (∀ ps ∈ base, Sound (partsChildren ps)) →
      Reads (behindBase base) ts fun ps _ => Sound (partsChildren ps) := by
    intro base ts hbase
    refine reads_bind fun _ _ => ?_
    extract_lets behindPartition
    have hpartition : ∀ partition ts, (∀ ps ∈ partition, Sound (partsChildren ps)) →
        Reads (behindPartition partition) ts fun ps _ => Sound (partsChildren ps) := by
      intro partition ts hpartition
      refine reads_bind fun _ _ => ?_
      extract_lets behindOrder
      have horder : ∀ order ts, (∀ ps ∈ order, Sound (partsChildren ps)) →
          Reads (behindOrder order) ts fun ps _ => Sound (partsChildren ps) := by
        intro order ts horder
        refine reads_bind fun _ _ => ?_
        extract_lets behindRows
        have hrows : ∀ rows ts, (∀ ps ∈ rows, Sound (partsChildren ps)) →
            Reads (behindRows rows) ts fun ps _ => Sound (partsChildren ps) := by
          intro rows ts hrows
          refine reads_pure ?_
          simp only [sound_spaced, List.forall_mem_append]
          exact ⟨⟨⟨hbase, hpartition⟩, horder⟩, hrows⟩
        refine reads_ite (fun _ => reads_pure_bind (hrows _ _ (by simp))) (fun _ => ?_)
        refine reads_bind_of (sound_frame hg hinterval) fun f _ hf => reads_bind fun _ _ => ?_
        exact reads_pure_bind (hrows _ _ (by simpa using hf))
      refine reads_ite (fun _ => ?_) (fun _ => reads_pure_bind (horder _ _ (by simp)))
      refine reads_bind_of (sound_orderItems hg) fun items _ hitems => ?_
      exact reads_pure_bind (horder _ _ (by simpa using hitems))
    refine reads_ite (fun _ => ?_) (fun _ => reads_pure_bind (hpartition _ _ (by simp)))
    refine reads_bind_of (sound_exprList hg) fun items _ hitems => ?_
    exact reads_pure_bind (hpartition _ _ (by simpa using hitems))
  split
  · refine reads_ite (fun _ => reads_pure_bind (hbase _ _ (by simp))) (fun _ => ?_)
    exact reads_bind fun _ _ => reads_pure_bind (hbase _ _ (by simp))
  · exact reads_bind fun _ _ => reads_pure_bind (hbase _ _ (by simp))
  · exact reads_pure_bind (hbase _ _ (by simp))

lemma sound_callOf (name : List Ident) (braced : Bool) :
    Reads (callOf g interval name braced) ts fun c _ => Sound c.children := by
  refine reads_bind fun _ _ => reads_bind_of (sound_argumentList hg) fun list _ hlist => ?_
  obtain ⟨quantifier, args, clauses⟩ := list
  obtain ⟨hargs, hclauses⟩ :
    (∀ a ∈ args, Sound a.children) ∧ Sound (partsChildren clauses) := hlist
  refine reads_bind fun _ _ => ?_
  extract_lets behindGroup
  have hgroup : ∀ group ts, Sound (partsChildren group) →
      Reads (behindGroup group) ts fun c _ => Sound c.children := by
    intro group ts hgroup
    refine reads_bind fun _ _ => ?_
    extract_lets behindNulls
    have hnulls : ∀ nulls ts, Sound (partsChildren nulls) →
        Reads (behindNulls nulls) ts fun c _ => Sound c.children := by
      intro nulls ts hnulls
      refine reads_bind fun _ _ => ?_
      extract_lets behindWindow
      have hwindow : ∀ window ts, Sound (partsChildren window) →
          Reads (behindWindow window) ts fun c _ => Sound c.children := by
        intro window ts hwindow
        refine reads_pure ?_
        simpa using ⟨hargs, hclauses, hnulls, hwindow, hgroup⟩
      refine reads_ite (fun _ => ?_) (fun _ => reads_pure_bind (hwindow _ _ (by simp)))
      refine reads_bind fun _ _ => reads_ite (fun _ => ?_) (fun _ => ?_)
      · refine reads_bind_of (sound_window hg hinterval) fun ps _ hps => ?_
        exact reads_pure_bind (hwindow _ _ (by simpa using hps))
      · exact reads_bind fun _ _ => reads_pure_bind (hwindow _ _ (by simp))
    split
    · exact reads_bind fun _ _ => reads_pure_bind (hnulls _ _ (by simp))
    · exact reads_pure_bind (hnulls _ _ (by simp))
  refine reads_ite (fun _ => ?_) (fun _ => reads_pure_bind (hgroup _ _ (by simp)))
  refine reads_bind fun _ _ => reads_bind fun _ _ => ?_
  refine reads_bind_of (sound_orderItems hg) fun items _ hitems => reads_bind fun _ _ => ?_
  exact reads_pure_bind (hgroup _ _ (by simpa using hitems))

end

/-! ### Forms with a keyword -/

lemma sound_interval : Reads (interval g) ts fun e _ => e.IsSound := by
  refine reads_bind_of (hg.expr _) fun value _ hvalue => ?_
  dsimp only
  repeat' first
    | exact reads_pure (by simpa using hvalue)
    | refine reads_ite (fun _ => ?_) (fun _ => ?_)
    | refine reads_bind fun _ _ => ?_
    | split

lemma sound_typedLiteral : Reads (typedLiteral g) ts fun e _ => e.IsSound := by
  refine reads_bind fun t _ => ?_
  split
  · exact sound_interval hg
  · exact reads_fail
  · exact reads_bind fun _ _ => reads_pure (by simp)

lemma sound_caseForm : Reads (caseForm g) ts fun e _ => e.IsSound := by
  refine reads_bind fun _ _ => ?_
  extract_lets behindOperand
  have hoperand : ∀ operand ts, Sound (partsChildren operand) →
      Reads (behindOperand operand) ts fun e _ => e.IsSound := by
    intro operand ts hoperand
    refine reads_bind_of (R := fun ps _ => Sound (partsChildren ps)) ?_
      fun branches _ hbranches => ?_
    · refine reads_loop (I := fun ps _ => Sound (partsChildren ps)) ?_ (by simp)
      intro found ts hfound
      refine reads_bind_of (hg.expr _) fun condition _ hcondition => reads_bind fun _ _ => ?_
      refine reads_bind_of (hg.expr _) fun result _ hresult => reads_bind fun _ _ => ?_
      exact reads_ite (fun _ => reads_pure (by simpa using ⟨hfound, hcondition, hresult⟩))
        (fun _ => reads_pure (by simpa using ⟨hfound, hcondition, hresult⟩))
    · refine reads_bind fun _ _ => reads_ite (fun _ => ?_) (fun _ => ?_)
      · refine reads_bind_of (hg.expr _) fun e _ he => reads_pure_bind (reads_bind fun _ _ => ?_)
        exact reads_pure (by simpa using ⟨hoperand, hbranches, he⟩)
      · refine reads_pure_bind (reads_bind fun _ _ => ?_)
        exact reads_pure (by simpa using ⟨hoperand, hbranches⟩)
  refine reads_ite (fun _ => reads_pure_bind (hoperand _ _ (by simp))) (fun _ => ?_)
  refine reads_bind_of (hg.expr _) fun e _ he => reads_bind fun _ _ => ?_
  exact reads_pure_bind (hoperand _ _ (by simpa using he))

lemma sound_convertForm : Reads (convertForm g) ts fun e _ => e.IsSound := by
  refine reads_bind fun _ _ => reads_bind_of (hg.expr _) fun value _ hvalue => ?_
  dsimp only
  repeat' first
    | exact reads_pure (by simpa using hvalue)
    | refine reads_ite (fun _ => ?_) (fun _ => ?_)
    | refine reads_bind fun _ _ => ?_

lemma sound_castForm (key : String) : Reads (castForm g key) ts fun e _ => e.IsSound := by
  refine reads_bind fun _ _ => reads_bind_of (hg.expr _) fun value _ hvalue => ?_
  dsimp only
  repeat' first
    | exact reads_pure (by simpa using hvalue)
    | refine reads_ite (fun _ => ?_) (fun _ => ?_)
    | refine reads_bind fun _ _ => ?_

lemma sound_existsForm (negated : Bool) : Reads (existsForm g negated) ts fun e _ => e.IsSound := by
  refine reads_bind fun _ _ => reads_bind_of (hg.query _) fun q _ hq => ?_
  exact reads_bind fun _ _ => reads_pure (by simpa using hq)

lemma sound_extractForm : Reads (extractForm g) ts fun e _ => e.IsSound := by
  refine reads_bind fun _ _ => reads_bind fun _ _ => reads_bind fun _ _ => ?_
  refine reads_bind_of (hg.expr _) fun e _ he => ?_
  exact reads_bind fun _ _ => reads_pure (by simpa using he)

lemma sound_roundingForm (key : String) : Reads (roundingForm g key) ts fun e _ => e.IsSound := by
  refine reads_bind fun _ _ => reads_bind_of (hg.expr _) fun value _ hvalue => ?_
  dsimp only
  repeat' first
    | exact reads_pure (by simpa using hvalue)
    | refine reads_ite (fun _ => ?_) (fun _ => ?_)
    | refine reads_bind fun _ _ => ?_
    | split

lemma sound_positionForm : Reads (positionForm g) ts fun e _ => e.IsSound := by
  refine reads_bind fun _ _ => reads_bind_of (hg.subexpr _ _) fun e _ he => ?_
  refine reads_bind fun _ _ => reads_bind_of (hg.expr _) fun within _ hwithin => ?_
  exact reads_bind fun _ _ => reads_pure (by simpa using ⟨he, hwithin⟩)

lemma sound_substringForm : Reads (substringForm g) ts fun e _ => e.IsSound := by
  refine reads_bind fun _ _ => reads_bind_of (hg.expr _) fun value _ hvalue => ?_
  refine reads_bind fun commas _ => ?_
  extract_lets behindStart
  have hstart : ∀ start ts, Sound (partsChildren start) →
      Reads (behindStart start) ts fun e _ => e.IsSound := by
    intro start ts hstart
    refine reads_bind fun _ _ => ?_
    extract_lets behindLength behindBound
    have hlength : ∀ length ts, Sound (partsChildren length) →
        Reads (behindLength length) ts fun e _ => e.IsSound := fun length ts hlength =>
      reads_bind fun _ _ => reads_pure (by simpa using ⟨hvalue, hstart, hlength⟩)
    have hbound : ∀ bounded ts, Reads (behindBound bounded) ts fun e _ => e.IsSound := by
      intro bounded ts
      refine reads_ite (fun _ => ?_) (fun _ => reads_pure_bind (hlength _ _ (by simp)))
      refine reads_bind_of (hg.expr _) fun e _ he => ?_
      exact reads_pure_bind (hlength _ _ (by simpa using he))
    exact reads_ite (fun _ => reads_pure_bind (hbound _ _))
      (fun _ => reads_bind fun _ _ => hbound _ _)
  refine reads_ite (fun _ => ?_) (fun _ => reads_bind fun _ _ => reads_ite (fun _ => ?_) ?_)
  · refine reads_bind_of (hg.expr _) fun e _ he => ?_
    exact reads_pure_bind (hstart _ _ (by simpa using he))
  · refine reads_bind_of (hg.expr _) fun e _ he => ?_
    exact reads_pure_bind (hstart _ _ (by simpa using he))
  · exact fun _ => reads_pure_bind (hstart _ _ (by simp))

lemma sound_overlayForm : Reads (overlayForm g) ts fun e _ => e.IsSound := by
  refine reads_bind fun _ _ => reads_bind_of (hg.expr _) fun value _ hvalue => ?_
  refine reads_bind fun _ _ => reads_bind_of (hg.expr _) fun what _ hwhat => ?_
  refine reads_bind fun _ _ => reads_bind_of (hg.expr _) fun start _ hstart => ?_
  refine reads_bind fun _ _ => reads_ite (fun _ => ?_) (fun _ => ?_)
  · refine reads_bind_of (hg.expr _) fun e _ he => reads_pure_bind (reads_bind fun _ _ => ?_)
    exact reads_pure (by simpa using ⟨hvalue, hwhat, hstart, he⟩)
  · refine reads_pure_bind (reads_bind fun _ _ => ?_)
    exact reads_pure (by simpa using ⟨hvalue, hwhat, hstart⟩)

lemma sound_trimForm : Reads (trimForm g) ts fun e _ => e.IsSound := by
  refine reads_bind fun _ _ => reads_bind fun _ _ => ?_
  refine reads_bind_of (hg.expr _) fun removed _ hremoved => reads_bind fun _ _ => ?_
  refine reads_ite (fun _ => ?_) (fun _ => ?_)
  · refine reads_bind_of (hg.expr _) fun e _ he => reads_bind fun _ _ => ?_
    exact reads_pure (by simpa using ⟨he, hremoved⟩)
  · exact reads_bind fun _ _ => reads_pure (by simpa using hremoved)

lemma sound_notForm : Reads (notForm g) ts fun e _ => e.IsSound := by
  refine reads_bind fun _ _ => reads_ite (fun _ => sound_existsForm hg true) (fun _ => ?_)
  exact reads_bind_of (hg.subexpr _ _) fun e _ he => reads_pure (by simpa using he)

omit hg in
lemma sound_matchForm : Reads matchForm ts fun e _ => e.IsSound := by
  unfold matchForm
  dsimp only
  repeat' first
    | exact reads_pure (by simp)
    | refine reads_ite (fun _ => ?_) (fun _ => ?_)
    | refine reads_bind fun _ _ => ?_

lemma sound_arrayForm (start : String) : Reads (arrayForm g start) ts fun e _ => e.IsSound := by
  refine reads_bind fun _ _ => reads_ite (fun _ => reads_pure (by simp)) (fun _ => ?_)
  refine reads_bind_of (sound_exprList hg) fun ps _ hps => reads_bind fun _ _ => ?_
  exact reads_pure (by simpa using hps)

lemma sound_clockForm (text : String) : Reads (clockForm g text) ts fun e _ => e.IsSound := by
  refine reads_bind fun _ _ => reads_ite (fun _ => ?_) (fun _ => reads_pure (by simp))
  refine reads_bind_of (sound_argumentList hg) fun list _ hlist => reads_pure ?_
  simpa using hlist

lemma sound_keywordForm (text key : String) :
    Reads (keywordForm g text key) ts fun e _ => ∀ x ∈ e, x.IsSound := by
  have hsome : ∀ {p : Parser Expr} {ts}, Reads p ts (fun e _ => e.IsSound) →
      Reads (do return some (← p)) ts fun e _ => ∀ x ∈ e, x.IsSound := fun hp =>
    reads_bind_of hp fun e _ he => reads_pure (by simpa using he)
  unfold keywordForm
  split
  case h_1 | h_2 | h_3 => exact reads_pure (by simp)
  case h_4 | h_5 | h_6 | h_7 | h_8 => exact hsome (sound_clockForm hg text)
  case h_9 => exact hsome (sound_caseForm hg)
  case h_10 => exact hsome (sound_convertForm hg)
  case h_11 | h_12 | h_13 => exact hsome (sound_castForm hg _)
  case h_14 => exact hsome (sound_existsForm hg false)
  case h_15 => exact hsome (sound_extractForm hg)
  case h_16 | h_17 => exact hsome (sound_roundingForm hg _)
  case h_18 =>
    refine reads_bind fun _ _ => reads_ite (fun _ => ?_) (fun _ => reads_pure (by simp))
    refine reads_bind_of (R := fun e _ => ∀ x ∈ e, x.IsSound)
      (reads_attempt ?_ (by simp)) fun e _ he => ?_
    · exact (sound_positionForm hg).mono fun e _ he => by simpa using he
    · split
      · exact reads_pure he
      · exact reads_bind_of (sound_callOf hg (fun _ => sound_interval hg) _ _) fun c _ hc =>
          reads_pure (by simpa using hc)
  case h_19 => exact hsome (sound_substringForm hg)
  case h_20 => exact hsome (sound_overlayForm hg)
  case h_21 => exact hsome (sound_trimForm hg)
  case h_22 => exact hsome (sound_interval hg)
  case h_23 =>
    refine reads_bind fun _ _ => reads_ite (fun _ => hsome (sound_arrayForm hg "ARRAY")) fun _ => ?_
    refine reads_bind fun _ _ => reads_ite (fun _ => ?_) (fun _ => reads_pure (by simp))
    refine reads_bind_of (hg.query _) fun q _ hq => reads_bind fun _ _ => ?_
    exact reads_pure (by simpa using hq)
  case h_24 => exact hsome (sound_notForm hg)
  case h_25 => exact hsome sound_matchForm
  case h_26 => exact reads_pure (by simp)

/-! ### Terms -/

lemma sound_wordTerm (name : Ident) : Reads (wordTerm g name) ts fun e _ => e.IsSound := by
  refine reads_bind fun _ _ => ?_
  split
  · exact reads_bind_of (sound_callOf hg (fun _ => sound_interval hg) _ _) fun c _ hc =>
      reads_pure (by simpa using hc)
  all_goals first
    | exact reads_pure (by simp)
    | exact reads_ite (fun _ => reads_bind fun _ _ => reads_pure (by simp))
        (fun _ => reads_pure (by simp))

lemma sound_groupForm : Reads (groupForm g) ts fun e _ => e.IsSound := by
  refine reads_bind fun _ _ => reads_ite (fun _ => ?_) (fun _ => ?_)
  · refine reads_bind_of (hg.query _) fun q _ hq => reads_bind fun _ _ => ?_
    exact reads_pure (by simpa using hq)
  · refine reads_bind_of (sound_exprs hg) fun es _ hes => ?_
    split
    · exact reads_bind fun _ _ => reads_pure (by simpa using hes)
    · exact reads_bind fun _ _ => reads_pure (by simpa using hes)

lemma sound_bracedForm : Reads (bracedForm g) ts fun e _ => e.IsSound := by
  refine reads_bind fun _ _ => reads_bind fun _ _ => ?_
  refine reads_bind_of (sound_callOf hg (fun _ => sound_interval hg) _ _) fun c _ hc => ?_
  exact reads_bind fun _ _ => reads_pure (by simpa using hc)

omit hg in
lemma sound_collated {e : Expr} (he : e.IsSound) : Reads (collated e) ts fun e _ => e.IsSound := by
  refine reads_bind fun _ _ => reads_ite (fun _ => ?_) (fun _ => reads_pure he)
  exact reads_bind fun _ _ => reads_pure (by simpa using he)

/-- A name that is read because the form of its keyword failed takes no collation. -/
lemma sound_wordForm (text : String) (form : Option (Expr × Bool))
    (hform : ∀ x ∈ form, x.1.IsSound) :
    Reads
      (match form with
        | some (e, true) => collated e
        | some (e, false) => pure e
        | none => do collated (← wordTerm g (.bare text)))
      ts fun e _ => e.IsSound := by
  split
  · exact sound_collated (hform _ rfl)
  · exact reads_pure (hform _ rfl)
  · exact reads_bind_of (sound_wordTerm hg _) fun e _ he => sound_collated he

lemma sound_plainTerm : Reads (plainTerm g) ts fun e _ => e.IsSound := by
  have hcollated : ∀ {p : Parser Expr} {ts}, Reads p ts (fun e _ => e.IsSound) →
      Reads (do collated (← p)) ts fun e _ => e.IsSound := fun hp =>
    reads_bind_of hp fun e _ he => sound_collated he
  have hliteral : ∀ {start ts}, AreWritten start → Reads (do
      goTo start
      collated (.literal (← literal))) ts fun e _ => e.IsSound := fun hstart =>
    reads_bind_of (reads_goTo hstart) fun _ _ _ => reads_bind_of reads_literal fun value _ hvalue =>
      sound_collated (by simpa using hvalue)
  refine reads_bind_of reads_ahead fun start _ hstart => reads_bind fun token _ => ?_
  split
  case h_1 text key =>
    have hkeyword : ∀ ts, Reads (do return (← keywordForm g text key).map (·, true)) ts
        fun (form : Option (Expr × Bool)) _ => ∀ x ∈ form, x.1.IsSound := fun ts =>
      reads_bind_of (sound_keywordForm hg text key) fun e _ he => reads_pure (by
        cases e <;> simp_all)
    refine reads_ite (fun _ => ?_) (fun _ => ?_)
    · refine reads_bind_of (sound_keywordForm hg text key) fun e _ he => ?_
      exact reads_pure_bind (sound_wordForm hg text _ (by cases e <;> simp_all))
    · refine reads_bind_of (reads_orElse (hkeyword _) ?_) fun form _ => sound_wordForm hg text form
      exact reads_bind_of (sound_wordTerm hg _) fun e _ he => reads_pure (by simpa using he)
  case h_2 => exact hcollated (sound_wordTerm hg _)
  case h_3 => exact hcollated (sound_arrayForm hg "")
  case h_4 | h_5 =>
    exact reads_bind_of (hg.subexpr _ _) fun e _ he => sound_collated (by simpa using he)
  case h_6 => exact hcollated (sound_groupForm hg)
  case h_7 => exact hcollated (sound_bracedForm hg)
  case h_8 => exact reads_bind fun _ _ => hliteral hstart.1
  case h_9 => exact hliteral hstart.1
  case h_10 => exact reads_fail

lemma sound_typedOr (typed : Option Expr) (htyped : ∀ e ∈ typed, e.IsSound) :
    Reads
      (match typed with
        | some e => pure e
        | none => plainTerm g)
      ts fun e _ => e.IsSound := by
  split
  · exact reads_pure (htyped _ rfl)
  · exact sound_plainTerm hg

lemma sound_term : Reads (term g) ts fun e _ => e.IsSound := by
  refine reads_bind fun _ _ => ?_
  split
  · refine reads_ite (fun _ => ?_) (fun _ => ?_)
    · refine reads_bind_of (reads_attempt ?_ (by simp)) fun typed _ => sound_typedOr hg typed
      exact (sound_typedLiteral hg).mono fun e _ he => by simpa using he
    · exact reads_pure_bind (sound_typedOr hg none (by simp))
  · exact reads_pure_bind (sound_typedOr hg none (by simp))

/-! ### Access -/

lemma sound_subscriptParts : Reads (subscriptParts g) ts fun ps _ => Sound (partsChildren ps) := by
  refine reads_bind fun _ _ => ?_
  extract_lets behindLower
  have hlower : ∀ lower ts, (∀ e ∈ lower, e.IsSound) →
      Reads (behindLower lower) ts fun ps _ => Sound (partsChildren ps) := by
    intro lower ts hlower
    rcases lower with _ | lower
    all_goals
      refine reads_bind fun _ _ => reads_ite (fun _ => reads_pure (by simp_all)) (fun _ => ?_)
      extract_lets behindFirst
      have hfirst : ∀ u ts, Reads (behindFirst u) ts fun ps _ => Sound (partsChildren ps) := by
        intro u ts
        refine reads_bind fun _ _ => reads_ite (fun _ => reads_pure (by simp_all)) (fun _ => ?_)
        refine reads_bind_of (hg.expr _) fun upper _ hupper => ?_
        refine reads_bind fun _ _ => reads_ite (fun _ => ?_) (fun _ => reads_bind fun _ _ => ?_)
        · exact reads_pure (by simp_all)
        refine reads_bind fun _ _ => reads_ite (fun _ => reads_pure (by simp_all)) (fun _ => ?_)
        refine reads_bind_of (hg.expr _) fun stride _ hstride => reads_bind fun _ _ => ?_
        exact reads_pure (by simp_all)
      exact reads_ite (fun _ => reads_bind fun u _ => hfirst u _) (fun _ => hfirst () _)
  refine reads_ite (fun _ => reads_pure_bind (hlower _ _ (by simp))) (fun _ => ?_)
  refine reads_bind_of (hg.expr _) fun e _ he => ?_
  exact reads_pure_bind (hlower _ _ (by simpa using he))

omit hg in
lemma isSound_withAccess {root : Expr} {steps : List Access} (hroot : root.IsSound)
    (hsteps : ∀ step ∈ steps, Sound (partsChildren step.parts)) :
    (withAccess root steps).IsSound := by
  have hall : Sound (partsChildren (steps.flatMap Access.parts)) := by
    induction steps with
    | nil => simp
    | cons step steps ih => simp_all
  unfold withAccess
  split
  · exact hroot
  next i last before hreverse =>
    split
    · simp
    next is c _ =>
      have hmem : Access.member (.call c) ∈ steps := by
        rw [← List.mem_reverse, hreverse]
        exact List.mem_cons_self
      simpa [Access.parts] using hsteps _ hmem
    · simpa using hall
  · simpa using ⟨hroot, hall⟩

lemma sound_accessed {root : Expr} (hroot : root.IsSound) :
    Reads (accessed g root) ts fun e _ => e.IsSound := by
  refine reads_bind_of
    (R := fun steps _ => ∀ step ∈ steps, Sound (partsChildren (Access.parts step))) ?_ ?_
  · refine reads_loop
      (I := fun steps _ => ∀ step ∈ steps, Sound (partsChildren (Access.parts step))) ?_ (by simp)
    intro found ts hfound
    refine reads_bind fun _ _ => reads_ite (fun _ => ?_) (fun _ => ?_)
    · refine reads_bind_of reads_ahead fun tokens _ htokens => ?_
      have hbehind := htokens.1.drop 1
      split
      · exact reads_pure hfound
      next heq =>
        rw [heq] at hbehind
        refine reads_bind_of (reads_goTo hbehind.tail) fun _ _ _ => reads_pure ?_
        simpa [Access.parts, or_imp, forall_and] using hfound
      · refine reads_bind_of (reads_goTo hbehind) fun _ _ _ => ?_
        refine reads_bind_of (hg.subexpr _ _) fun e _ he => ?_
        split
        · refine reads_pure ?_
          simpa [Access.parts, or_imp, forall_and] using hfound
        · refine reads_pure ?_
          simpa [Access.parts, or_imp, forall_and] using ⟨hfound, he⟩
    · refine reads_bind fun _ _ => reads_ite (fun _ => ?_) (fun _ => reads_pure hfound)
      refine reads_bind_of (sound_subscriptParts hg) fun ps _ hps => reads_pure ?_
      simpa [Access.parts, or_imp, forall_and] using ⟨hfound, hps⟩
  · exact fun steps _ hsteps => reads_pure (isSound_withAccess hroot hsteps)

/-! ### Operators -/

section

variable {e : Expr} (he : e.IsSound)
include he

lemma sound_isTest : Reads (isTest g e) ts fun x _ => x.IsSound := by
  refine reads_bind fun _ _ => ?_
  split
  · exact reads_pure (by simpa using he)
  · refine reads_bind fun _ _ => reads_ite (fun _ => ?_) (fun _ => ?_)
    · exact reads_bind_of (hg.expr _) fun x _ hx => reads_pure (by simpa using ⟨he, hx⟩)
    refine reads_bind fun _ _ => reads_ite (fun _ => ?_) (fun _ => ?_)
    · exact reads_bind_of (hg.expr _) fun x _ hx => reads_pure (by simpa using ⟨he, hx⟩)
    · exact reads_bind fun _ _ => reads_bind fun _ _ => reads_bind fun _ _ =>
        reads_pure (by simpa using he)

lemma sound_membership (negated : Bool) :
    Reads (membership g e negated) ts fun x _ => x.IsSound := by
  refine reads_bind fun _ _ => reads_ite (fun _ => ?_) (fun _ => reads_bind fun _ _ => ?_)
  · refine reads_bind_of (R := fun x _ => x.IsSound) ?_ fun x _ hx => ?_
    · exact reads_bind fun _ _ => reads_bind_of (hg.expr _) fun x _ hx =>
        reads_bind fun _ _ => reads_pure hx
    · exact reads_pure (by simpa using ⟨he, hx⟩)
  · refine reads_bind_of (R := fun b _ => ∀ x ∈ b, Sound x.children)
      (reads_attempt ?_ (by simp)) fun b _ hb => ?_
    · exact (hg.body _ _).mono fun b _ hb => by simpa using hb
    · split
      · exact reads_bind fun _ _ => reads_pure (by simpa using ⟨he, hb _ rfl⟩)
      · refine reads_bind_of (sound_exprs hg) fun items _ hitems => reads_bind fun _ _ => ?_
        exact reads_pure (by simpa using ⟨he, hitems⟩)

lemma sound_patternTest (negated : Bool) (word : String) (any escapes : Bool) :
    Reads (patternTest g e negated word any escapes) ts fun x _ => x.IsSound := by
  have hchoice : ∀ (behindAny : Bool → Parser Expr), (∀ any ts,
      Reads (behindAny any) ts fun x _ => x.IsSound) →
        Reads (if any then keyword "ANY" >>= behindAny else pure false >>= behindAny) ts
          fun x _ => x.IsSound := fun behindAny h =>
    reads_ite (fun _ => reads_bind fun _ _ => h _ _) (fun _ => reads_pure_bind (h _ _))
  refine hchoice _ fun any ts => ?_
  refine reads_bind_of (hg.subexpr _ _) fun pattern _ hpattern => ?_
  exact reads_ite
    (fun _ => reads_bind fun _ _ => reads_pure (by simpa using ⟨he, hpattern⟩))
    (fun _ => reads_pure_bind (reads_pure (by simpa using ⟨he, hpattern⟩)))

lemma sound_negatableTest : Reads (negatableTest g e) ts fun x _ => x.IsSound := by
  refine reads_bind fun negated _ => ?_
  refine reads_bind fun _ _ => reads_ite (fun _ => reads_bind fun _ _ => ?_) fun _ => ?_
  · exact sound_patternTest hg he negated _ _ _
  refine reads_bind fun _ _ =>
    reads_ite (fun _ => sound_patternTest hg he negated _ _ _) fun _ => ?_
  refine reads_bind fun _ _ => reads_ite (fun _ => sound_membership hg he negated) fun _ => ?_
  refine reads_bind fun _ _ => reads_ite (fun _ => ?_) fun _ => ?_
  · refine reads_bind_of (hg.subexpr _ _) fun low _ hlow => reads_bind fun _ _ => ?_
    exact reads_bind_of (hg.subexpr _ _) fun high _ hhigh =>
      reads_pure (by simpa using ⟨he, hlow, hhigh⟩)
  refine reads_bind fun _ _ => reads_ite (fun _ => reads_bind fun _ _ => ?_) fun _ => ?_
  · refine reads_bind_of (hg.subexpr _ _) fun pattern _ hpattern => reads_bind fun _ _ => ?_
    exact reads_pure (by simpa using ⟨he, hpattern⟩)
  refine reads_bind fun _ _ =>
    reads_ite (fun _ => sound_patternTest hg he negated _ _ _) fun _ => ?_
  exact reads_bind fun _ _ => sound_patternTest hg he negated _ _ _

/-- What stands on both sides of an operator is sound. -/
lemma sound_rightSide (op : BinaryOp) (power : Nat) :
    Reads (rightSide g e op power) ts fun x _ => x.IsWritten ∧ Sound x.children := by
  refine reads_bind fun _ _ => ?_
  split
  · refine reads_bind_of (hg.subexpr _ _) fun right _ hright => reads_pure ⟨trivial, ?_⟩
    simpa [Expr.children] using ⟨he, hright⟩
  · refine reads_bind_of reads_ahead fun start _ hstart => reads_bind fun _ _ => ?_
    refine reads_bind fun _ _ => reads_ite (fun _ => ?_) (fun _ => ?_)
    · refine reads_bind_of (reads_goTo hstart.1) fun _ _ _ => ?_
      refine reads_bind_of (hg.subexpr _ _) fun right _ hright => reads_bind fun _ _ => ?_
      split <;> exact reads_pure ⟨trivial, by simp_all [Expr.children]⟩
    · refine reads_bind_of (hg.subexpr _ _) fun right _ hright => ?_
      exact reads_bind fun _ _ => reads_bind fun _ _ =>
        reads_pure ⟨trivial, by simpa [Expr.children] using ⟨he, hright⟩⟩

lemma sound_infixed (power : Nat) :
    Reads (infixed g e power) ts fun x _ => x.IsWritten ∧ Sound x.children := by
  have hparts : ∀ {x : Expr}, x.IsSound → x.IsWritten ∧ Sound x.children := fun h =>
    ⟨(Expr.isSound_iff.mp h).1.2, (Expr.isSound_iff.mp h).2⟩
  refine reads_bind fun _ _ => reads_ite (fun _ => ?_) (fun _ => ?_)
  · exact reads_bind_of (hg.expr _) fun right _ hright =>
      reads_pure ⟨trivial, by simpa [Expr.children] using ⟨he, hright⟩⟩
  refine reads_bind_of reads_ahead fun tokens _ htokens => ?_
  split
  · exact reads_fail
  next t rest =>
    have hgoTo : ∀ ts, Reads (goTo rest) ts fun _ _ => True := fun _ => reads_goTo htokens.1.tail
    split
    · exact reads_bind_of (hgoTo _) fun _ _ _ => sound_rightSide hg he _ _
    · split
      · exact reads_bind_of (hgoTo _) fun _ _ _ => (sound_isTest hg he).mono fun _ _ => hparts
      · refine reads_bind_of (hgoTo _) fun _ _ _ => reads_bind fun _ _ => ?_
        exact reads_bind_of (hg.subexpr _ _) fun zone _ hzone =>
          reads_pure ⟨trivial, by simpa [Expr.children] using ⟨he, hzone⟩⟩
      · exact (sound_negatableTest hg he).mono fun _ _ => hparts
      · exact reads_bind_of (hgoTo _) fun _ _ _ => reads_bind fun _ _ =>
          reads_pure ⟨trivial, by simpa [Expr.children] using he⟩
      · exact reads_fail

end

/-- An expression is sound: an operator that would join an open `OR` finds none on its left. -/
lemma sound_expression (hwithin : ∀ power ts, Yields (g.subexpr power) ts (IsReadWithin power))
    (power : Nat) : Reads (expression g power) ts fun e _ => e.IsSound := by
  refine reads_bind_of ((sound_term hg).and_yields (yields_termFrom hwithin))
    fun root middle hroot => ?_
  refine reads_bind_of
    ((sound_accessed hg hroot.1).and_yields (yields_accessedFrom hwithin hroot.2))
    fun first rest hfirst => ?_
  refine reads_loop (I := fun e ts => e.IsSound ∧ IsReadSoFar power e ts) ?_
    ⟨hfirst.1, isReadSoFar_of_isTerm hfirst.2.isTerm⟩
  intro e ts he
  refine reads_bind_of reads_ahead fun tokens middle hmiddle => ?_
  obtain ⟨-, rfl, rfl⟩ := hmiddle
  refine reads_ite (fun _ => reads_pure he.1) fun hpower => ?_
  refine reads_ite (fun _ => reads_pure he.1) fun hpoint => ?_
  refine reads_bind_of ((sound_infixed hg he.1 _).and_yields (yields_infixed hwithin e))
    fun built rest hbuilt => reads_pure ?_
  -- both sides are sound by themselves; that no `OR` is open beside an `AND` is told by the powers
  have hread := he.2.built (Nat.not_le.mp hpower) (by simpa using hpoint) hbuilt.2
  exact ⟨Expr.isSound_of_isWellJoined hread.isWellJoined hbuilt.1.1 hbuilt.1.2, hread⟩

end Parser

end SemanticQuery.Sql
