import SemanticQuery.Proofs.Sql.Conjunct
import SemanticQuery.Proofs.Sql.Parser.Yields
import SemanticQuery.Sql.Parser.Term

/-!
# What terms are

No term is joined by an operator, and what stands in the parentheses of a term is an expression of
the grammar below. Of all terms only a bare word is a bare name, so a term that is a bare name has
read one word.
-/

namespace SemanticQuery.Sql

/-- Whether an expression is a literal or one of the forms that are read from their first word or
sign on. -/
def Expr.isForm : Expr → Bool
  | .literal _ | .unary _ _ | .cast _ _ _ | .trim _ _ _ | .call _ | .phrase _ => true
  | _ => false

/-- Whether an expression is joined by no operator, and well joined inside its parentheses. -/
def Expr.isTerm : Expr → Bool
  | .binary _ _ _ | .inList _ _ _ | .like _ _ _ _ _ | .between _ _ _ _ => false
  | .nested inner => inner.isWellJoined
  | .path parts => !parts.isEmpty
  | _ => true

namespace Parser

variable {g : Grammar} {ts : List Token}

/-! ### Forms with a keyword -/

lemma yields_interval : Yields (interval g) ts fun e _ => e.isForm = true := by
  unfold interval
  dsimp only
  repeat' first
    | exact yields_pure rfl
    | refine yields_ite (fun _ => ?_) (fun _ => ?_)
    | refine yields_bind fun _ _ => ?_
    | split

lemma yields_typedLiteral : Yields (typedLiteral g) ts fun e _ => e.isForm = true := by
  refine yields_bind fun t _ => ?_
  split
  · exact yields_interval
  · exact yields_fail
  · exact yields_bind fun _ _ => yields_pure rfl

lemma yields_caseForm : Yields (caseForm g) ts fun e _ => e.isForm = true := by
  unfold caseForm
  dsimp only
  repeat' first
    | exact yields_pure rfl
    | refine yields_ite (fun _ => ?_) (fun _ => ?_)
    | refine yields_bind fun _ _ => ?_

lemma yields_convertForm : Yields (convertForm g) ts fun e _ => e.isForm = true := by
  unfold convertForm
  dsimp only
  repeat' first
    | exact yields_pure rfl
    | refine yields_ite (fun _ => ?_) (fun _ => ?_)
    | refine yields_bind fun _ _ => ?_

lemma yields_castForm (key : String) : Yields (castForm g key) ts fun e _ => e.isForm = true := by
  unfold castForm
  dsimp only
  repeat' first
    | exact yields_pure rfl
    | refine yields_ite (fun _ => ?_) (fun _ => ?_)
    | refine yields_bind fun _ _ => ?_

lemma yields_existsForm (negated : Bool) :
    Yields (existsForm g negated) ts fun e _ => e.isForm = true :=
  yields_bind fun _ _ => yields_bind fun _ _ => yields_bind fun _ _ => yields_pure rfl

lemma yields_extractForm : Yields (extractForm g) ts fun e _ => e.isForm = true :=
  yields_bind fun _ _ => yields_bind fun _ _ => yields_bind fun _ _ => yields_bind fun _ _ =>
    yields_bind fun _ _ => yields_pure rfl

lemma yields_roundingForm (key : String) :
    Yields (roundingForm g key) ts fun e _ => e.isForm = true := by
  unfold roundingForm
  dsimp only
  repeat' first
    | exact yields_pure rfl
    | refine yields_ite (fun _ => ?_) (fun _ => ?_)
    | refine yields_bind fun _ _ => ?_
    | split

lemma yields_positionForm : Yields (positionForm g) ts fun e _ => e.isForm = true :=
  yields_bind fun _ _ => yields_bind fun _ _ => yields_bind fun _ _ => yields_bind fun _ _ =>
    yields_bind fun _ _ => yields_pure rfl

lemma yields_substringForm : Yields (substringForm g) ts fun e _ => e.isForm = true := by
  unfold substringForm
  dsimp only
  repeat' first
    | exact yields_pure rfl
    | refine yields_ite (fun _ => ?_) (fun _ => ?_)
    | refine yields_bind fun _ _ => ?_

lemma yields_overlayForm : Yields (overlayForm g) ts fun e _ => e.isForm = true := by
  unfold overlayForm
  dsimp only
  repeat' first
    | exact yields_pure rfl
    | refine yields_ite (fun _ => ?_) (fun _ => ?_)
    | refine yields_bind fun _ _ => ?_

lemma yields_trimForm : Yields (trimForm g) ts fun e _ => e.isForm = true := by
  unfold trimForm
  repeat' first
    | exact yields_pure rfl
    | refine yields_ite (fun _ => ?_) (fun _ => ?_)
    | refine yields_bind fun _ _ => ?_

lemma yields_notForm : Yields (notForm g) ts fun e _ => e.isForm = true := by
  refine yields_bind fun negatesExists _ => yields_ite (fun _ => ?_) (fun _ => ?_)
  · exact yields_existsForm true
  · exact yields_bind fun _ _ => yields_pure rfl

lemma yields_matchForm : Yields matchForm ts fun e _ => e.isForm = true := by
  unfold matchForm
  dsimp only
  repeat' first
    | exact yields_pure rfl
    | refine yields_ite (fun _ => ?_) (fun _ => ?_)
    | refine yields_bind fun _ _ => ?_

lemma yields_arrayForm (start : String) :
    Yields (arrayForm g start) ts fun e _ => e.isForm = true := by
  refine yields_bind fun empty _ => yields_ite (fun _ => ?_) (fun _ => ?_)
  · exact yields_pure rfl
  · exact yields_bind fun _ _ => yields_bind fun _ _ => yields_pure rfl

lemma yields_clockForm (text : String) :
    Yields (clockForm g text) ts fun e _ => e.isForm = true := by
  refine yields_bind fun parenthesis _ => yields_ite (fun _ => ?_) (fun _ => ?_)
  · exact yields_bind fun _ _ => yields_pure rfl
  · exact yields_pure rfl

/-- What a keyword opened, or nothing and nothing was read. -/
def Opened (ts : List Token) (e : Option Expr) (rest : List Token) : Prop :=
  (∃ x, e = some x ∧ x.isForm = true) ∨ (e = none ∧ rest = ts)

lemma yields_opened {p : Parser Expr} (hp : Yields p ts fun e _ => e.isForm = true)
    (start : List Token) : Yields (do return some (← p)) ts (Opened start) :=
  yields_bind_of hp fun e _ he => yields_pure (.inl ⟨e, rfl, he⟩)

/-- A keyword opens one of the forms, or nothing is read. -/
lemma yields_keywordForm (text key : String) :
    Yields (keywordForm g text key) ts (Opened ts) := by
  unfold keywordForm
  split
  case h_1 | h_2 | h_3 => exact yields_pure (.inl ⟨_, rfl, rfl⟩)
  case h_4 | h_5 | h_6 | h_7 | h_8 => exact yields_opened (yields_clockForm text) ts
  case h_9 => exact yields_opened yields_caseForm ts
  case h_10 => exact yields_opened yields_convertForm ts
  case h_11 | h_12 | h_13 => exact yields_opened (yields_castForm _) ts
  case h_14 => exact yields_opened (yields_existsForm false) ts
  case h_15 => exact yields_opened yields_extractForm ts
  case h_16 | h_17 => exact yields_opened (yields_roundingForm _) ts
  case h_18 =>
    refine yields_bind_of (yields_seesSymbol "(") fun _ middle hmiddle => ?_
    subst hmiddle
    refine yields_ite (fun _ => ?_) (fun _ => yields_pure (.inr ⟨rfl, rfl⟩))
    have hposition : Yields (attempt (positionForm g)) middle fun e _ =>
        ∀ x ∈ e, x.isForm = true :=
      yields_attempt (yields_positionForm.mono fun e _ he => by simpa using he) (by simp)
    refine yields_bind_of hposition fun e rest he => ?_
    split
    · exact yields_pure (.inl ⟨_, rfl, he _ rfl⟩)
    · exact yields_bind fun _ _ => yields_pure (.inl ⟨_, rfl, rfl⟩)
  case h_19 => exact yields_opened yields_substringForm ts
  case h_20 => exact yields_opened yields_overlayForm ts
  case h_21 => exact yields_opened yields_trimForm ts
  case h_22 => exact yields_opened yields_interval ts
  case h_23 =>
    refine yields_bind_of (yields_symbol "[") fun bracket middle hbracket => ?_
    refine yields_ite (fun _ => yields_opened (yields_arrayForm "ARRAY") ts) (fun hno => ?_)
    obtain rfl : middle = ts := by simpa [hno] using hbracket
    refine yields_bind_of (yields_symbol "(") fun parenthesis rest hparenthesis => ?_
    refine yields_ite (fun _ => ?_) (fun hno => yields_pure (.inr ⟨rfl, ?_⟩))
    · exact yields_bind fun _ _ => yields_bind fun _ _ => yields_pure (.inl ⟨_, rfl, rfl⟩)
    · simpa [hno] using hparenthesis
  case h_24 => exact yields_opened yields_notForm ts
  case h_25 => exact yields_opened yields_matchForm ts
  case h_26 => exact yields_pure (.inr ⟨rfl, rfl⟩)

/-! ### Names and parentheses -/

/-- A form, or the expression `e` and nothing was read. -/
def FormOr (e : Expr) (ts : List Token) (x : Expr) (rest : List Token) : Prop :=
  x.isForm = true ∨ (x = e ∧ rest = ts)

lemma yields_wordTerm (name : Ident) :
    Yields (wordTerm g name) ts (FormOr (.name name) ts) := by
  refine yields_bind_of yields_peek fun _ middle hmiddle => ?_
  obtain ⟨-, rfl⟩ := hmiddle
  split
  · exact yields_bind fun _ _ => yields_pure (.inl rfl)
  all_goals first
    | exact yields_ite (fun _ => yields_bind fun _ _ => yields_pure (.inl rfl))
        (fun _ => yields_pure (.inr ⟨rfl, rfl⟩))
    | exact yields_pure (.inr ⟨rfl, rfl⟩)

lemma yields_collated (e : Expr) : Yields (collated e) ts (FormOr e ts) := by
  refine yields_bind_of (yields_keyword "COLLATE") fun collates middle hcollates => ?_
  refine yields_ite (fun _ => yields_bind fun _ _ => yields_pure (.inl rfl)) (fun hno => ?_)
  exact yields_pure (.inr ⟨rfl, by simpa [hno] using hcollates⟩)

lemma yields_collated_wordTerm (name : Ident) :
    Yields (do collated (← wordTerm g name)) ts (FormOr (.name name) ts) := by
  refine yields_bind_of (yields_wordTerm name) fun e middle he => ?_
  refine (yields_collated e).mono fun x rest hx => ?_
  rcases hx with hform | ⟨rfl, rfl⟩
  · exact .inl hform
  · exact he

lemma yields_bracedForm : Yields (bracedForm g) ts fun e _ => e.isForm = true :=
  yields_bind fun _ _ => yields_bind fun _ _ => yields_bind fun _ _ => yields_bind fun _ _ =>
    yields_pure rfl

/-- What is read from `ts` as a term. -/
structure IsTermFrom (ts : List Token) (e : Expr) (rest : List Token) : Prop where
  isTerm : e.isTerm = true
  name : ∀ value, e = .name ⟨value, none⟩ → ∃ key, ts = .word value key :: rest

lemma isTermFrom_of_isForm {e : Expr} {rest : List Token} (h : e.isForm = true) :
    IsTermFrom ts e rest := by
  refine ⟨?_, ?_⟩
  · cases e <;> simp_all [Expr.isForm, Expr.isTerm]
  · rintro value rfl
    simp [Expr.isForm] at h

lemma isTermFrom_of_formOr {e : Expr} {text key : String} {rest rest' : List Token}
    (h : FormOr (.name (.bare text)) rest e rest') :
    IsTermFrom (.word text key :: rest) e rest' := by
  rcases h with hform | ⟨rfl, rfl⟩
  · exact isTermFrom_of_isForm hform
  · refine ⟨rfl, fun value hname => ?_⟩
    obtain rfl : text = value := by simpa [Ident.bare] using hname
    exact ⟨key, rfl⟩

/-- How a word was read: as a form, as a call or a name, or not at all. -/
def WordRead (text : String) (ts : List Token) (form : Option (Expr × Bool))
    (rest : List Token) : Prop :=
  match form with
  | some (e, true) => e.isForm = true
  | some (e, false) => FormOr (.name (.bare text)) ts e rest
  | none => rest = ts

lemma wordRead_of_opened {text : String} {e : Option Expr} {rest : List Token}
    (h : Opened ts e rest) : WordRead text ts (e.map (·, true)) rest := by
  rcases h with ⟨x, rfl, hx⟩ | ⟨rfl, rfl⟩
  · exact hx
  · rfl

variable (hg : ∀ ts, Yields g.expr ts fun e _ => e.isWellJoined = true)
include hg

lemma yields_groupForm : Yields (groupForm g) ts fun e _ =>
    e.isTerm = true ∧ ∀ ident, e ≠ .name ident := by
  refine yields_bind fun isQuery middle => yields_ite (fun _ => ?_) (fun _ => ?_)
  · exact yields_bind fun _ _ => yields_bind fun _ _ => yields_pure ⟨rfl, by simp⟩
  · refine yields_bind_of (yields_commaSeparated hg) fun es rest hes => ?_
    split
    · exact yields_bind fun _ _ => yields_pure ⟨by simpa [Expr.isTerm] using hes, by simp⟩
    · exact yields_bind fun _ _ => yields_pure ⟨rfl, by simp⟩

lemma yields_plainTerm : Yields (plainTerm g) ts (IsTermFrom ts) := by
  have hcollated : ∀ {e : Expr} {start middle : List Token},
      (e.isTerm = true ∧ ∀ ident, e ≠ .name ident) →
        Yields (collated e) middle (IsTermFrom start) := by
    intro e start middle he
    refine (yields_collated e).mono fun x rest hx => ?_
    rcases hx with hform | ⟨rfl, -⟩
    · exact isTermFrom_of_isForm hform
    · exact ⟨he.1, fun value hname => absurd hname (he.2 _)⟩
  have hform : ∀ {e : Expr}, e.isForm = true → e.isTerm = true ∧ ∀ ident, e ≠ .name ident := by
    intro e he
    refine ⟨(isTermFrom_of_isForm he : IsTermFrom [] e []).isTerm, ?_⟩
    rintro ident rfl
    simp [Expr.isForm] at he
  unfold plainTerm
  refine yields_bind_of yields_ahead fun start middle hstart => ?_
  obtain ⟨rfl, rfl⟩ := hstart
  refine yields_bind_of yields_next fun token rest htoken => ?_
  obtain ⟨htoken, rfl⟩ := htoken
  split
  case h_1 text key =>
    obtain ⟨rest, rfl⟩ := List.head?_eq_some_iff.mp htoken.symm
    dsimp only [List.tail_cons]
    have hread : ∀ form rest', WordRead text rest form rest' →
        Yields
          (match form with
            | some (e, true) => collated e
            | some (e, false) => pure e
            | none => do collated (← wordTerm g (.bare text)))
          rest' (IsTermFrom (.word text key :: rest)) := by
      intro form rest' hread
      split
      · exact hcollated (hform hread)
      · exact yields_pure (isTermFrom_of_formOr hread)
      · obtain rfl : rest' = rest := hread
        exact (yields_collated_wordTerm (.bare text)).mono fun _ _ => isTermFrom_of_formOr
    refine yields_ite (fun _ => ?_) (fun _ => ?_)
    · refine yields_bind_of (yields_keywordForm text key) fun e middle he => ?_
      exact yields_bind_of (yields_pure (wordRead_of_opened he)) hread
    · refine yields_bind_of (yields_orElse ?_ ?_) hread
      · exact yields_bind_of (yields_keywordForm text key) fun e middle he =>
          yields_pure (wordRead_of_opened he)
      · exact yields_bind_of (yields_wordTerm (.bare text)) fun e middle he => yields_pure he
  case h_2 text =>
    refine (yields_collated_wordTerm ⟨text, some '`'⟩).mono fun e rest he => ?_
    rcases he with hform | ⟨rfl, -⟩
    · exact isTermFrom_of_isForm hform
    · exact ⟨rfl, by simp⟩
  case h_3 => exact yields_bind_of (yields_arrayForm "") fun e _ he => hcollated (hform he)
  case h_4 | h_5 => exact yields_bind fun _ _ => hcollated (hform rfl)
  case h_6 => exact yields_bind_of (yields_groupForm hg) fun e _ he => hcollated he
  case h_7 => exact yields_bind_of yields_bracedForm fun e _ he => hcollated (hform he)
  case h_8 =>
    exact yields_bind fun _ _ => yields_bind fun _ _ => yields_bind fun _ _ =>
      hcollated (hform rfl)
  case h_9 => exact yields_bind fun _ _ => yields_bind fun _ _ => hcollated (hform rfl)
  case h_10 => exact yields_fail

lemma yields_term : Yields (term g) ts (IsTermFrom ts) := by
  refine yields_bind_of yields_peek fun token middle hmiddle => ?_
  obtain ⟨-, rfl⟩ := hmiddle
  have htyped : ∀ k : Option Expr → Parser Expr, (∀ e, k (some e) = pure e) →
      k none = plainTerm g → ∀ typed rest, Opened middle typed rest →
        Yields (k typed) rest (IsTermFrom middle) := by
    rintro k hform hplain typed rest (⟨e, rfl, he⟩ | ⟨rfl, rfl⟩)
    · rw [hform]
      exact yields_pure (isTermFrom_of_isForm he)
    · rw [hplain]
      exact yields_plainTerm hg
  have hnone : ∀ {rest}, rest = middle → Yields (pure none) rest (Opened middle) :=
    fun hrest => yields_pure (.inr ⟨rfl, hrest⟩)
  split
  · refine yields_ite (fun _ => ?_) (fun _ => ?_)
    · refine yields_bind_of (yields_attempt ?_ (.inr ⟨rfl, rfl⟩)) (htyped _ (fun _ => rfl) rfl)
      exact yields_typedLiteral.mono fun e _ he => .inl ⟨e, rfl, he⟩
    · exact yields_bind_of (hnone rfl) (htyped _ (fun _ => rfl) rfl)
  · exact yields_bind_of (hnone rfl) (htyped _ (fun _ => rfl) rfl)

omit hg

/-! ### Access -/

/-- Steps behind a value make a form or a qualified name of it. -/
lemma withAccess_cases (root : Expr) (steps : List Access) :
    (steps = [] ∧ withAccess root steps = root) ∨ (withAccess root steps).isForm = true ∨
      ∃ first others, withAccess root steps = .path (first :: others) := by
  unfold withAccess
  split
  next hsteps => exact .inl ⟨by simpa using hsteps, rfl⟩
  next i last before _ =>
    split
    · exact .inr (.inr ⟨_, _, rfl⟩)
    · exact .inr (.inl rfl)
    · exact .inr (.inl rfl)
  next _ => exact .inr (.inl rfl)

/-- A term with the steps behind it is a form or a qualified name, or the term without steps. -/
lemma yields_accessed
    (hpath : ∀ power ts, Yields (g.subexpr power) ts fun e _ => e ≠ .path []) (root : Expr) :
    Yields (accessed g root) ts fun e rest =>
      e.isForm = true ∨ (∃ first others, e = .path (first :: others)) ∨
        (e = root ∧ rest = ts) := by
  let Unread := fun (steps : List Access) (rest : List Token) => steps = [] → rest = ts
  refine yields_bind_of (R := Unread) (yields_loop (I := Unread) ?_ fun _ => rfl) ?_
  · intro found middle hfound
    refine yields_bind_of (yields_seesSymbol ".") fun point rest hrest => ?_
    subst hrest
    refine yields_ite (fun _ => ?_) (fun _ => ?_)
    · refine yields_bind_of yields_ahead fun tokens rest' hrest' => ?_
      obtain ⟨rfl, rfl⟩ := hrest'
      split
      · exact yields_pure hfound
      · exact yields_bind fun _ _ => yields_pure (by simp [Unread])
      · refine yields_bind fun _ _ => yields_bind_of (hpath _ _) fun e _ he => ?_
        split
        next parts =>
          refine yields_pure fun hnil => ?_
          obtain ⟨-, hparts⟩ := List.append_eq_nil_iff.mp hnil
          exact absurd (congrArg Expr.path (List.map_eq_nil_iff.mp hparts)) he
        next _ => exact yields_pure (by simp [Unread])
    · refine yields_bind_of (yields_symbol "[") fun bracket rest' hrest' => ?_
      refine yields_ite (fun _ => ?_) (fun hno => yields_pure ?_)
      · exact yields_bind fun _ _ => yields_pure (by simp [Unread])
      · obtain rfl : rest' = rest := by simpa [hno] using hrest'
        exact hfound
  · intro steps rest hrest
    refine yields_pure ?_
    rcases withAccess_cases root steps with ⟨hnil, heq⟩ | hform | hpath
    · exact .inr (.inr ⟨heq, hrest hnil⟩)
    · exact .inl hform
    · exact .inr (.inl hpath)

end Parser

end SemanticQuery.Sql
