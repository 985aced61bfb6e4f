import SemanticQuery.Proofs.Sql.Plain.Grammar
import SemanticQuery.Proofs.Sql.Sound

/-!
# The texts of plain terms

A plain term whose strings are read back spells its tokens: its text is split into them wherever it
stands.
-/

namespace SemanticQuery.Sql

/-! ### Strings that are read back -/

/-- The string is read back from its text, unless the literal is none. -/
def Literal.IsLegible : Literal → Prop
  | .single text => tokenize (quoteText '\'' text) = .ok [.single text]
  | .double text => tokenize (quoteText '"' text) = .ok [.double text]
  | _ => True

/-- The expression is no literal, or one that is read back from its text. -/
def Expr.IsLegible : Expr → Prop
  | .literal value => value.IsLegible
  | _ => True

/-- Every string in the expressions is read back from its text. -/
def Legible (es : List Expr) : Prop := ∀ e ∈ es, ∀ x ∈ e.subexprs, x.IsLegible

@[simp] lemma legible_nil : Legible [] := by simp [Legible]

@[simp] lemma legible_append {es es' : List Expr} :
    Legible (es ++ es') ↔ Legible es ∧ Legible es' := by
  simp only [Legible, List.forall_mem_append]

lemma legible_cons {e : Expr} {es : List Expr} : Legible (e :: es) ↔ Legible [e] ∧ Legible es :=
  @legible_append [e] es

lemma legible_single {e : Expr} : Legible [e] ↔ e.IsLegible ∧ Legible e.children := by
  rw [Legible, List.forall_mem_singleton, Expr.forall_subexprs_iff]
  rfl

end SemanticQuery.Sql

namespace SemanticQuery.Sql.Plain

open Lexer

variable {cs rest : List Char} {ts us : List Token}

/-! ### Keywords -/

lemma spells_word_key {text : String} (h : text ∈ keywords ++ castTypes ++ spanUnits) :
    Spells text.toList [key text] := by
  have hall : ∀ text ∈ keywords ++ castTypes ++ spanUnits,
      IsBareWord text ∧ Token.ofWord text = key text := by
    decide +kernel
  obtain ⟨hword, htoken⟩ := hall text h
  rw [← htoken]
  exact spells_word hword

lemma spells_key {text : String} (h : text ∈ keywords) : Spells text.toList [key text] :=
  spells_word_key (List.mem_append_left _ (List.mem_append_left _ h))

/-- Words with a blank behind each of them. -/
def before (texts : List String) : List Char := texts.flatMap fun text => text.toList ++ [' ']

/-- Words with a blank before each of them. -/
def behind (texts : List String) : List Char := texts.flatMap fun text => ' ' :: text.toList

lemma spells_before (texts : List String) (hkeys : ∀ text ∈ texts, text ∈ keywords)
    (h : Spells cs ts) : Spells (before texts ++ cs) (texts.map key ++ ts) := by
  induction texts with
  | nil => exact h
  | cons text texts ih =>
    obtain ⟨htext, hkeys⟩ := List.forall_mem_cons.mp hkeys
    simpa [before] using (spells_key htext).append (ih hkeys).blank

lemma adjoins_behind (texts : List String) (hkeys : ∀ text ∈ texts, text ∈ keywords) :
    Adjoins (behind texts) (texts.map key) := by
  induction texts with
  | nil => exact adjoins_nil
  | cons text texts ih =>
    obtain ⟨htext, hkeys⟩ := List.forall_mem_cons.mp hkeys
    simpa [behind] using ((spells_key htext).append (ih hkeys)).blank

/-! ### Names -/

variable {i : Ident} {t : Token} {is : List Ident}

lemma IsIdent.splits (h : IsIdent i t) {afterWord : Bool} (hrest : EndsWord rest)
    (hticks : rest.head? ≠ some '\x60') (hsplits : Splits true rest us) :
    Splits afterWord (i.print.toList ++ rest) (t :: us) := by
  cases h with
  | bare hword => exact hword.splits hrest hsplits
  | ticked htext => exact splits_backticks htext hticks hsplits

lemma spells_ident (h : IsIdent i t) : Spells i.print.toList [t] where
  splits hbound hsplits _ := h.splits hbound.endsWord (hbound.ne_quote (by decide)) (hsplits true)

/-- No name starts with a digit. -/
lemma IsIdent.head (h : IsIdent i t) (cs : List Char) :
    ∀ c ∈ (i.print.toList ++ cs).head?, startsWord c = true ∨ c = '\x60' := by
  cases h with
  | @bare text hword =>
    obtain ⟨c, rest, heq⟩ := List.exists_cons_of_ne_nil hword.ne_nil
    have hc := (hword.head c (by simp [heq])).1
    simpa [Ident.print, heq] using .inl hc
  | ticked htext => simp [Ident.print, quoteText]

lemma printPath_single (i : Ident) : printPath [i] = i.print := String.intercalate_singleton

lemma toList_printPath_cons (i : Ident) {is : List Ident} (h : is ≠ []) :
    (printPath (i :: is)).toList = i.print.toList ++ '.' :: (printPath is).toList := by
  rw [printPath, List.map_cons, String.intercalate_cons_of_ne_nil (by simpa using h), printPath]
  simp [String.toList_append]

lemma IsDotted.head (h : IsDotted is ts) (cs : List Char) :
    ∀ c ∈ ((printPath is).toList ++ cs).head?, startsWord c = true ∨ c = '\x60' := by
  cases h with
  | single hi => simpa only [printPath_single] using hi.head cs
  | cons hi hrest =>
    rw [toList_printPath_cons _ hrest.ne_nil, List.append_assoc]
    exact hi.head _

lemma isDigit_eq_false_of_head {c : Char} (h : startsWord c = true ∨ c = '\x60') :
    c.isDigit = false := by
  rcases h with h | rfl
  · exact isDigit_eq_false_of_startsWord h
  · rfl

/-- A name before a point and more names. -/
lemma spells_path (hi : IsIdent i t) (his : IsDotted is ts)
    (h : Spells (printPath is).toList ts) :
    Spells (printPath (i :: is)).toList (t :: .symbol "." :: ts) where
  splits {rest us} hbound hsplits afterWord := by
    have hpoint :
        Splits true ('.' :: ((printPath is).toList ++ rest)) (.symbol "." :: (ts ++ us)) :=
      splits_point (fun c hc => isDigit_eq_false_of_head (his.head rest c hc))
        (h.splits hbound hsplits false)
    rw [toList_printPath_cons _ his.ne_nil, List.append_assoc, List.cons_append]
    refine hi.splits ?_ (by simp) hpoint
    simpa [EndsWord] using (by decide : continuesWord '.' = false)

lemma spells_dotted (h : IsDotted is ts) : Spells (printPath is).toList ts := by
  induction h with
  | single hi => simpa only [printPath_single] using spells_ident hi
  | cons hi hrest ih => exact spells_path hi hrest ih

/-! ### Literals -/

lemma spells_literal {v : Literal} (h : IsLiteral v t) (hlegible : v.IsLegible) :
    Spells v.print.toList [t] := by
  cases h with
  | number hdigits => exact spells_decimal hdigits
  | single text => exact spells_quoteText .single hlegible
  | double text => exact spells_quoteText .double hlegible
  | boolTrue => exact spells_word (by decide +kernel : IsBareWord "true")
  | boolFalse => exact spells_word (by decide +kernel : IsBareWord "false")
  | null => exact spells_key (by decide)

/-! ### Lists -/

lemma Listed.ne_nil {α : Type} {R : α → List Token → Prop} {as : List α} (h : Listed R as ts) :
    as ≠ [] := by
  cases h <;> simp

/-- Things with commas between them spell their tokens if each thing does. -/
lemma Listed.spells {α : Type} {R : α → List Token → Prop} {as : List α} {print : α → String}
    (h : Listed R as ts) (printAll : List α → String) (hone : ∀ a, printAll [a] = print a)
    (hmore : ∀ a as, as ≠ [] → printAll (a :: as) = print a ++ ", " ++ printAll as)
    (hR : ∀ a ∈ as, ∀ ts, R a ts → Spells (print a).toList ts) :
    Spells (printAll as).toList ts := by
  induction h with
  | single ha => simpa only [hone] using hR _ List.mem_cons_self _ ha
  | cons ha has ih =>
    have hfirst := hR _ List.mem_cons_self _ ha
    have hrest := ih fun a hmem => hR a (List.mem_cons_of_mem _ hmem)
    have htext := hfirst.append hrest.blank.spells.comma
    simpa [hmore _ _ has.ne_nil, String.toList_append] using htext

lemma printParts_append (ps ps' : List Part) :
    printParts (ps ++ ps') = printParts ps ++ printParts ps' := by
  induction ps with
  | nil => simp [printParts]
  | cons p ps ih => simp [printParts, ih, String.append_assoc]

lemma printParts_commaParts_cons (ps : List Part) {pss : List (List Part)} (h : pss ≠ []) :
    printParts (commaParts (ps :: pss)) = printParts ps ++ ", " ++ printParts (commaParts pss) := by
  obtain ⟨ps', pss, rfl⟩ := List.exists_cons_of_ne_nil h
  simp [commaParts, printParts_append, printParts, Part.print, String.append_assoc]

lemma legible_commaParts {pss : List (List Part)} (h : Legible (partsChildren (commaParts pss))) :
    ∀ ps ∈ pss, Legible (partsChildren ps) := by
  fun_induction commaParts pss <;> simp_all

lemma IsList.spells {R : List Part → List Token → Prop} {ps : List Part} (h : IsList R ps ts)
    (hR : ∀ ps ts, R ps ts → Legible (partsChildren ps) → Spells (printParts ps).toList ts)
    (hlegible : Legible (partsChildren ps)) : Spells (printParts ps).toList ts := by
  obtain ⟨hlisted⟩ := h
  have hall := legible_commaParts hlegible
  refine hlisted.spells (fun pss => printParts (commaParts pss)) (fun _ => rfl)
    (fun ps pss hne => printParts_commaParts_cons ps hne) fun ps hps ts h => ?_
  exact hR ps ts h (hall ps hps)

/-- A clause is printed behind other text. -/
lemma IsClause.adjoins {text : String} {keys : List String} {R : List Part → List Token → Prop}
    {ps : List Part} (h : IsClause text keys R ps ts)
    (htext : text.toList = ' ' :: before keys) (hkeys : ∀ k ∈ keys, k ∈ keywords)
    (hR : ∀ ps ts, R ps ts → Legible (partsChildren ps) → Spells (printParts ps).toList ts)
    (hlegible : Legible (partsChildren ps)) : Adjoins (printParts ps).toList ts := by
  cases h with
  | absent => exact adjoins_nil
  | present h =>
    have hrest := hR _ _ h (by simpa using hlegible)
    simp only [printParts, Part.print, String.toList_append, htext, List.cons_append]
    exact (spells_before _ hkeys hrest).blank

/-! ### Forms inside others -/

lemma spells_parenthesized (h : Spells cs ts) :
    Adjoins ('(' :: (cs ++ [')'])) (.symbol "(" :: ts ++ [.symbol ")"]) :=
  (h.append spells_nil.closing).opening

/-- What stands inside other forms spells its tokens. -/
structure Forms.Prints (F : Forms) : Prop where
  expr : ∀ {p q e ts}, F.expr p q e ts → Legible [e] → Spells e.print.toList ts
  query : ∀ {x ts}, F.query x ts → Legible x.children → Spells x.print.toList ts
  /-- No term starts with what goes on behind a minus. -/
  head : ∀ {e ts}, F.term e ts → ∀ c ∈ e.print.toList.head?, c ≠ '-' ∧ c ≠ '>'

variable {F : Forms}

lemma IsExprPart.spells (hF : F.Prints) {ps : List Part} (h : IsExprPart F ps ts)
    (hlegible : Legible (partsChildren ps)) : Spells (printParts ps).toList ts := by
  obtain ⟨he⟩ := h
  simpa [printParts, Part.print] using hF.expr he (by simpa using hlegible)

lemma IsOrderItem.spells (hF : F.Prints) {ps : List Part} (h : IsOrderItem F ps ts)
    (hlegible : Legible (partsChildren ps)) : Spells (printParts ps).toList ts := by
  have hdirection : ∀ (keys : List String) {text : String} {e : Expr} {ts : List Token},
      F.expr 0 0 e ts → Legible [e] → text.toList = behind keys →
      (∀ text ∈ keys, text ∈ keywords) →
      Spells (printParts [.expr e, .text text]).toList (ts ++ keys.map key) := by
    intro keys text e ts he hlegible htext hkeys
    simpa [printParts, Part.print, String.toList_append, htext] using
      (hF.expr he hlegible).append (adjoins_behind _ hkeys)
  cases h with
  | plain he =>
    simpa using hdirection [] he (by simpa using hlegible) (by decide) (by simp)
  | asc he => exact hdirection ["ASC"] he (by simpa using hlegible) (by decide) (by decide)
  | desc he =>
    exact hdirection ["DESC"] he (by simpa using hlegible) (by decide) (by decide)

/-! ### Calls -/

lemma spells_star : Spells ['*'] [.symbol "*"] := .sign (fun _ _ => rfl) spells_nil

lemma IsArgument.spells (hF : F.Prints) {a : Argument} (h : IsArgument F a ts)
    (hlegible : Legible a.children) : Spells a.print.toList ts := by
  cases h with
  | positional he => exact hF.expr he hlegible
  | wildcard => exact spells_star

lemma spells_arguments (hF : F.Prints) {as : List Argument} (h : Listed (IsArgument F) as ts)
    (hlegible : Legible (as.flatMap Argument.children)) :
    Spells (printArguments as).toList ts := by
  refine h.spells printArguments (fun _ => rfl) (fun a as hne => ?_) fun a ha ts h => h.spells hF ?_
  · obtain ⟨b, as, rfl⟩ := List.exists_cons_of_ne_nil hne
    rfl
  · exact fun e he => hlegible e (List.mem_flatMap.mpr ⟨a, ha, he⟩)

/-- The text of a quantifier before arguments. -/
def quantifierText : Option String → String
  | none => ""
  | some quantifier => quantifier ++ " "

lemma IsArguments.spells (hF : F.Prints) {quantifier : Option String} {as : List Argument}
    (h : IsArguments F quantifier as ts) (hlegible : Legible (as.flatMap Argument.children)) :
    Spells (quantifierText quantifier ++ printArguments as).toList ts := by
  cases h with
  | none => exact spells_nil
  | all has => simpa [quantifierText] using spells_arguments hF has hlegible
  | distinct has =>
    have htext := spells_before ["DISTINCT"] (by decide) (spells_arguments hF has hlegible)
    simpa [quantifierText, String.toList_append, before] using htext

lemma IsWindow.spells (hF : F.Prints) {ps : List Part} (h : IsWindow F ps ts)
    (hlegible : Legible (partsChildren ps)) : Spells (printParts ps).toList ts := by
  have hexpr := fun ps ts (h : IsExprPart F ps ts) => h.spells hF
  have hitem := fun ps ts (h : IsOrderItem F ps ts) => h.spells hF
  cases h with
  | all => exact spells_nil
  | partition hps =>
    have hlist := hps.spells hexpr (by simpa using hlegible)
    have htext := spells_before ["PARTITION", "BY"] (by decide) hlist
    simpa [printParts, Part.print, String.toList_append, before] using htext
  | order hps =>
    have hlist := hps.spells hitem (by simpa using hlegible)
    have htext := spells_before ["ORDER", "BY"] (by decide) hlist
    simpa [printParts, Part.print, String.toList_append, before] using htext
  | ordered hps hqs =>
    obtain ⟨hpsLegible, hqsLegible⟩ : Legible (partsChildren _) ∧ Legible (partsChildren _) := by
      simpa [partsChildren_append] using hlegible
    have hlast := spells_before ["ORDER", "BY"] (by decide) (hqs.spells hitem hqsLegible)
    have hlists := (hps.spells hexpr hpsLegible).append hlast.blank
    have htext := spells_before ["PARTITION", "BY"] (by decide) hlists
    simpa [printParts, printParts_append, Part.print, String.toList_append, before] using htext

lemma IsTrailer.adjoins (hF : F.Prints) {ps : List Part} (h : IsTrailer F ps ts)
    (hlegible : Legible (partsChildren ps)) : Adjoins (printParts ps).toList ts := by
  cases h with
  | none => exact adjoins_nil
  | windowed hps =>
    have hwindow := hps.spells hF (by simpa [partsChildren_append] using hlegible)
    have htext := (spells_before ["OVER"] (by decide) (spells_parenthesized hwindow).spells).blank
    simpa [printParts, printParts_append, Part.print, String.toList_append, before] using htext

/-- A name before arguments in parentheses and what stands behind them. -/
lemma spells_call {cs' : List Char} (hi : IsIdent i t) (h : Spells cs ts) (hrest : Adjoins cs' us) :
    Spells (i.print.toList ++ '(' :: (cs ++ ')' :: cs'))
      (t :: .symbol "(" :: (ts ++ .symbol ")" :: us)) :=
  (spells_ident hi).append (h.append hrest.spells.closing).opening

/-! ### Terms -/

lemma spells_cast {type : String} (htype : type ∈ castTypes) (h : Spells cs ts) :
    Spells ("CAST(".toList ++ (cs ++ ' ' :: (before ["AS"] ++ (type.toList ++ [')']))))
      (key "CAST" :: .symbol "(" :: ts ++ [key "AS", key type, .symbol ")"]) := by
  have htext : Spells type.toList [key type] := spells_word_key (by simp [htype])
  have htarget := htext.append spells_nil.closing
  have hinner := h.append (spells_before ["AS"] (by decide) htarget).blank
  exact (spells_key (by decide : "CAST" ∈ keywords)).append hinner.opening

lemma spells_interval {unit : String} (hunit : unit ∈ spanUnits) (h : Spells cs ts) :
    Spells (before ["INTERVAL"] ++ (cs ++ ' ' :: unit.toList))
      (key "INTERVAL" :: ts ++ [key unit]) := by
  have htext : Spells unit.toList [key unit] := spells_word_key (by simp [hunit])
  exact spells_before ["INTERVAL"] (by decide) (h.append htext.blank)

/-- A condition and the value that stands for it. -/
lemma adjoins_branch {cs' : List Char} (he : Spells cs ts) (hvalue : Spells cs' us) :
    Adjoins (' ' :: (before ["WHEN"] ++ (cs ++ ' ' :: (before ["THEN"] ++ cs'))))
      (key "WHEN" :: ts ++ key "THEN" :: us) := by
  have hthen := (spells_before ["THEN"] (by decide) hvalue).blank
  exact (spells_before ["WHEN"] (by decide) (he.append hthen)).blank

lemma IsBranches.adjoins (hF : F.Prints) {ps : List Part} (h : IsBranches F ps ts)
    (hlegible : Legible (partsChildren ps)) : Adjoins (printParts ps).toList ts := by
  induction h with
  | single he hvalue =>
    obtain ⟨heLegible, hvalueLegible⟩ := legible_cons.mp (by simpa using hlegible)
    have htext := adjoins_branch (hF.expr he heLegible) (hF.expr hvalue hvalueLegible)
    simpa [printParts, Part.print, String.toList_append, before] using htext
  | cons he hvalue _ ih =>
    obtain ⟨heLegible, hothers⟩ := legible_cons.mp (by simpa using hlegible)
    obtain ⟨hvalueLegible, hpsLegible⟩ := legible_cons.mp hothers
    have htext := adjoins_branch (hF.expr he heLegible) (hF.expr hvalue hvalueLegible)
    simpa [printParts, Part.print, String.toList_append, before] using htext.append (ih hpsLegible)

/-- A choice between branches. -/
lemma spells_choice (hF : F.Prints) {operand branches otherwise : List Part} {vs : List Token}
    (hoperand : IsClause " " [] (IsExprPart F) operand ts) (hbranches : IsBranches F branches us)
    (hotherwise : IsClause " ELSE " ["ELSE"] (IsExprPart F) otherwise vs)
    (hlegible : Legible (partsChildren (operand ++ (branches ++ otherwise)))) :
    Spells ("CASE".toList ++ ((printParts operand).toList ++ ((printParts branches).toList ++
      ((printParts otherwise).toList ++ behind ["END"]))))
        (key "CASE" :: (ts ++ (us ++ (vs ++ [key "END"])))) := by
  simp only [partsChildren_append, legible_append] at hlegible
  obtain ⟨hoperandLegible, hbranchesLegible, hotherwiseLegible⟩ := hlegible
  have hexpr := fun ps ts (h : IsExprPart F ps ts) => h.spells hF
  have hfirst := hoperand.adjoins (by decide) (by simp) hexpr hoperandLegible
  have hlast := hotherwise.adjoins (by decide) (by decide) hexpr hotherwiseLegible
  have hend := adjoins_behind ["END"] (by decide)
  have hclauses := (hbranches.adjoins hF hbranchesLegible).append (hlast.append hend)
  exact (spells_key (by decide : "CASE" ∈ keywords)).append (hfirst.append hclauses)

lemma IsTerm.spells (hF : F.Prints) {e : Expr} (h : IsTerm F e ts) (hlegible : Legible [e]) :
    Spells e.print.toList ts := by
  have hchildren : Legible e.children := (legible_single.mp hlegible).2
  cases h with
  | name hi => exact spells_ident hi.isIdent
  | path hi his _ => exact spells_path hi.isIdent his (spells_dotted his)
  | literal hv => exact spells_literal hv (legible_single.mp hlegible).1
  | nested he =>
    have htext := (spells_parenthesized (hF.expr he hchildren)).spells
    simpa [Expr.print, String.toList_append] using htext
  | subquery hx =>
    have hquery := hF.query hx (by simpa [Expr.children] using hchildren)
    have htext := (spells_parenthesized hquery).spells
    simpa [Expr.print, printParts, Part.print, String.toList_append] using htext
  | @call i _ quantifier as _ trailer _ hi has htrailer =>
    simp only [Expr.children, Call.children, partsChildren, List.append_nil, legible_append]
      at hchildren
    have htext := spells_call hi.isIdent (has.spells hF hchildren.1)
      (htrailer.adjoins hF hchildren.2)
    have hprint : (Expr.call ⟨[i], false, quantifier, as, [], trailer, []⟩).print =
        i.print ++ "(" ++ (quantifierText quantifier ++ printArguments as) ++ ")" ++
          printParts trailer := by
      cases quantifier <;>
        simp [Expr.print, Call.print, quantifierText, printPath_single, printParts,
          String.append_assoc]
    rw [hprint]
    simpa [String.toList_append] using htext
  | cast he htype =>
    have htext := spells_cast htype (hF.expr he hchildren)
    simpa [Expr.print, String.toList_append, before] using htext
  | interval he hunit =>
    have htext := spells_interval hunit (hF.expr he (by simpa [Expr.children] using hchildren))
    simpa [Expr.print, printParts, Part.print, String.toList_append, before] using htext
  | choice hoperand hbranches hotherwise =>
    have htext := spells_choice hF hoperand hbranches hotherwise
      (by simpa [Expr.children, partsChildren_append] using hchildren)
    simpa [Expr.print, printParts, printParts_append, Part.print, String.toList_append, behind]
      using htext

/-- No name starts with what goes on behind a minus. -/
lemma ne_of_head {c : Char} (h : startsWord c = true ∨ c = '\x60') : c ≠ '-' ∧ c ≠ '>' := by
  rcases h with h | rfl
  · constructor <;> rintro rfl <;> exact absurd h (by decide)
  · exact ⟨by decide, by decide⟩

lemma IsIdent.head_ne (hi : IsIdent i t) (rest : String) :
    ∀ c ∈ (i.print ++ rest).toList.head?, c ≠ '-' ∧ c ≠ '>' := by
  rw [String.toList_append]
  exact fun c hc => ne_of_head (hi.head _ c hc)

lemma IsLiteral.head {v : Literal} (h : IsLiteral v t) :
    ∀ c ∈ v.print.toList.head?, c ≠ '-' ∧ c ≠ '>' := by
  cases h with
  | number hdigits =>
    obtain ⟨whole, point, htext, hne, hwhole, -⟩ := hdigits
    obtain ⟨d, ds, rfl⟩ := List.exists_cons_of_ne_nil hne
    have hd : d.isDigit = true := hwhole d List.mem_cons_self
    have hhead : d ≠ '-' ∧ d ≠ '>' := ⟨ne_of_isDigit hd rfl, ne_of_isDigit hd rfl⟩
    simpa [Literal.print, htext] using hhead
  | single text => simp [Literal.print, quoteText]
  | double text => simp [Literal.print, quoteText]
  | boolTrue => simp [Literal.print]
  | boolFalse => simp [Literal.print]
  | null => simp [Literal.print]

lemma IsTerm.head {e : Expr} (h : IsTerm F e ts) :
    ∀ c ∈ e.print.toList.head?, c ≠ '-' ∧ c ≠ '>' := by
  cases h with
  | name hi => simpa [Expr.print] using hi.isIdent.head_ne ""
  | @path i _ is _ hi his _ =>
    rw [Expr.print, toList_printPath_cons i his.ne_nil]
    exact fun c hc => ne_of_head (hi.isIdent.head _ c hc)
  | literal hv => exact hv.head
  | nested _ => simp [Expr.print]
  | subquery _ => simp [Expr.print, printParts, Part.print]
  | call hi _ _ =>
    simp only [Expr.print, Call.print, printPath_single, Bool.false_eq_true, if_false,
      String.empty_append, String.append_assoc]
    exact hi.isIdent.head_ne _
  | cast | interval | choice => simp [Expr.print, printParts, Part.print, String.toList_append]

end SemanticQuery.Sql.Plain
