import SemanticQuery.Proofs.Sql.Plain.Printing.Terms

/-!
# The texts of plain queries

A clause, an operator or a join is printed behind other text and adds its own tokens to those of
what stands before it. So every plain query whose strings are read back spells its tokens.
-/

namespace SemanticQuery.Sql.Plain

open Lexer

variable {F : Forms} {cs rest : List Char} {ts us : List Token} {t : Token}

/-! ### Relations -/

lemma IsAlias.adjoins {label : String} (h : IsAlias label ts) : Adjoins label.toList ts := by
  cases h with
  | none => exact adjoins_nil
  | some hi =>
    have htext := (spells_before ["AS"] (by decide) (spells_ident hi)).blank
    rw [String.toList_append]
    exact htext

lemma IsRelation.spells (hF : F.Prints) {ps : List Part} (h : IsRelation F ps ts)
    (hlegible : Legible (partsChildren ps)) : Spells (printParts ps).toList ts := by
  cases h with
  | table hi hlabel =>
    have htext := (spells_ident hi.isIdent).append hlabel.adjoins
    simpa [printParts, Part.print, printPath_single, String.toList_append] using htext
  | qualified hi his hlabel =>
    have htext := (spells_path hi.isIdent his (spells_dotted his)).append hlabel.adjoins
    simpa [printParts, Part.print, String.toList_append] using htext
  | derived hx hlabel =>
    have hquery := hF.query hx (by simpa using hlegible)
    have htext := (hquery.append hlabel.adjoins.spells.closing).opening.spells
    simpa [printParts, Part.print, String.toList_append] using htext

lemma joinForm_text {form : String × List String} (h : form ∈ joinForms) :
    form.1.toList = ' ' :: before form.2 ∧ ∀ text ∈ form.2, text ∈ keywords := by
  have hall : ∀ form ∈ joinForms,
      form.1.toList = ' ' :: before form.2 ∧ ∀ text ∈ form.2, text ∈ keywords := by
    decide
  exact hall form h

lemma IsJoins.adjoins (hF : F.Prints) {ps : List Part} (h : IsJoins F ps ts)
    (hlegible : Legible (partsChildren ps)) : Adjoins (printParts ps).toList ts := by
  induction h with
  | nil => exact adjoins_nil
  | @on form right ts e us ps vs hform hright he _ ih =>
    simp only [List.cons_append, partsChildren, Part.children, partsChildren_append,
      legible_append, List.nil_append] at hlegible
    obtain ⟨hrightLegible, hothers⟩ := hlegible
    obtain ⟨heLegible, hpsLegible⟩ := legible_cons.mp hothers
    obtain ⟨htext, hkeys⟩ := joinForm_text hform
    have hcondition := (hF.expr he heLegible).append (ih hpsLegible)
    have hon := (spells_before ["ON"] (by decide) hcondition).blank
    have hjoin := (hright.spells hF hrightLegible).append hon
    have hall := (spells_before _ hkeys hjoin).blank
    have hprint : (printParts (.text form.1 :: right ++ .text " ON " :: .expr e :: ps)).toList =
        ' ' :: (before form.2 ++ ((printParts right).toList ++ ' ' :: (before ["ON"] ++
          (e.print.toList ++ (printParts ps).toList)))) := by
      simp [printParts, printParts_append, Part.print, String.toList_append, htext, before]
    rw [hprint]
    simpa using hall
  | @cross right ts ps vs hright _ ih =>
    simp only [List.cons_append, partsChildren, Part.children, partsChildren_append,
      legible_append, List.nil_append] at hlegible
    have hjoin := (hright.spells hF hlegible.1).append (ih hlegible.2)
    have hall := (spells_before ["CROSS", "JOIN"] (by decide) hjoin).blank
    have hprint : (printParts (.text " CROSS JOIN " :: right ++ ps)).toList =
        ' ' :: (before ["CROSS", "JOIN"] ++ ((printParts right).toList ++
          (printParts ps).toList)) := by
      simp [printParts, printParts_append, Part.print, String.toList_append, before]
    rw [hprint]
    simpa using hall

lemma IsJoined.spells (hF : F.Prints) {ps : List Part} (h : IsJoined F ps ts)
    (hlegible : Legible (partsChildren ps)) : Spells (printParts ps).toList ts := by
  obtain ⟨hfirst, hjoins⟩ := h
  simp only [partsChildren_append, legible_append] at hlegible
  rw [printParts_append, String.toList_append]
  exact (hfirst.spells hF hlegible.1).append (hjoins.adjoins hF hlegible.2)

/-! ### Selections -/

lemma IsItem.spells (hF : F.Prints) {item : SelectItem} (h : IsItem F item ts)
    (hlegible : Legible item.children) : Spells item.print.toList ts := by
  cases h with
  | wildcard => exact spells_star
  | expr he => simpa [SelectItem.print] using hF.expr he hlegible
  | labelled he hi =>
    have hlabel := (spells_before ["AS"] (by decide) (spells_ident hi)).blank
    have htext := (hF.expr he hlegible).append hlabel
    simpa [SelectItem.print, String.toList_append, before] using htext

lemma spells_items (hF : F.Prints) {items : List SelectItem} (h : Listed (IsItem F) items ts)
    (hlegible : Legible (itemsChildren items)) : Spells (printItems items).toList ts := by
  refine h.spells printItems (fun _ => rfl) (fun i is hne => ?_) fun i hi ts h => h.spells hF ?_
  · obtain ⟨j, is, rfl⟩ := List.exists_cons_of_ne_nil hne
    rfl
  · rw [itemsChildren_eq] at hlegible
    exact fun e he => hlegible e (List.mem_flatMap.mpr ⟨i, hi, he⟩)

lemma IsQuantifier.spells {ps : List Part} (h : IsQuantifier ps us) (hrest : Spells rest ts) :
    Spells ((printParts ps).toList ++ rest) (us ++ ts) := by
  cases h with
  | none => simpa [printParts] using hrest
  | distinct =>
    simpa [printParts, Part.print, before] using spells_before ["DISTINCT"] (by decide) hrest

/-- The text of a condition behind its keyword. -/
def conditionText : Option Expr → String
  | none => ""
  | some e => " WHERE " ++ e.print

lemma IsCondition.adjoins (hF : F.Prints) {condition : Option Expr} (h : IsCondition F condition ts)
    (hlegible : Legible condition.toList) : Adjoins (conditionText condition).toList ts := by
  cases h with
  | none => exact adjoins_nil
  | some he =>
    rw [conditionText, String.toList_append]
    exact (spells_before ["WHERE"] (by decide) (hF.expr he hlegible)).blank

lemma IsSelection.spells (hF : F.Prints) {s : Select} (h : IsSelection F s ts)
    (hlegible : Legible s.children) : Spells s.print.toList ts := by
  obtain @⟨quantifier, _, items, _, source, _, condition, _, group, _, having, _, hquantifier,
    hitems, hsource, hcondition, hgroup, hhaving⟩ := h
  simp only [Select.children, legible_append, partsChildren_append] at hlegible
  obtain ⟨⟨⟨⟨-, hitemsLegible⟩, hsourceLegible⟩, hconditionLegible⟩, hgroupLegible,
    hhavingLegible⟩ := hlegible
  have hjoined := fun ps ts (h : IsJoined F ps ts) => h.spells hF
  have hexpr := fun ps ts (h : IsExprPart F ps ts) => h.spells hF
  have hsource := hsource.adjoins (by decide) (by decide) (fun ps ts h => h.spells hjoined)
    hsourceLegible
  have hgroup := hgroup.adjoins (by decide) (by decide) (fun ps ts h => h.spells hexpr)
    hgroupLegible
  have hhaving := hhaving.adjoins (by decide) (by decide) hexpr hhavingLegible
  have hclauses := ((hsource.append (hcondition.adjoins hF hconditionLegible)).append
    hgroup).append hhaving
  have htext := spells_before ["SELECT"] (by decide)
    (hquantifier.spells ((spells_items hF hitems hitemsLegible).append hclauses))
  have hprint : Select.print ⟨quantifier, items, source, condition, group ++ having⟩ =
      "SELECT " ++ (printParts quantifier ++ (printItems items ++ (printParts source ++
        conditionText condition ++ printParts group ++ printParts having))) := by
    cases condition <;>
      simp [Select.print, conditionText, printParts_append, String.append_assoc]
  rw [hprint]
  simpa [String.toList_append, before] using htext

/-! ### Cores -/

lemma setForm_text {form : String × List String} (h : form ∈ setForms) :
    form.1.toList = ' ' :: before form.2 ∧ ∀ text ∈ form.2, text ∈ keywords := by
  have hall : ∀ form ∈ setForms,
      form.1.toList = ' ' :: before form.2 ∧ ∀ text ∈ form.2, text ∈ keywords := by
    decide
  exact hall form h

lemma IsBody.spells (hF : F.Prints) {body : Body} (h : IsBody F body ts)
    (hlegible : Legible body.children) : Spells body.print.toList ts := by
  induction h with
  | select hs => exact hs.spells hF hlegible
  | combined hform _ hs ih =>
    obtain ⟨hleftLegible, hsLegible⟩ : Legible (Body.children _) ∧ Legible (Select.children _) := by
      simpa [Body.children, Query.children] using hlegible
    obtain ⟨htext, hkeys⟩ := setForm_text hform
    have hright := (spells_before _ hkeys (hs.spells hF hsLegible)).blank
    simpa [Body.print, Query.print, printParts, Part.print, String.toList_append, htext] using
      (ih hleftLegible).append hright

/-! ### Operators -/

lemma spells_negation (negated : Bool) (h : Spells cs ts) :
    Spells ((negation negated).toList ++ cs) (negationTokens negated ++ ts) := by
  cases negated with
  | false => exact h
  | true =>
    exact spells_before ["NOT"] (by decide) h

/-- An operator with blanks around it. -/
lemma adjoins_operator {op : BinaryOp} {power : Nat} {t : Token} (hop : (op, power, t) ∈ operators)
    (h : Spells cs ts) : Adjoins (' ' :: (op.symbol.toList ++ ' ' :: cs)) (t :: ts) := by
  have hword : ∀ text ∈ keywords, Adjoins (' ' :: (text.toList ++ ' ' :: cs)) (key text :: ts) := by
    intro text htext
    have hkey : ∀ word ∈ [text], word ∈ keywords := by simpa using htext
    simpa [before] using (spells_before _ hkey h).blank
  simp only [operators, List.mem_cons, Prod.mk.injEq, List.not_mem_nil, or_false] at hop
  rcases hop with ⟨rfl, -, rfl⟩ | ⟨rfl, -, rfl⟩ | ⟨rfl, -, rfl⟩ | ⟨rfl, -, rfl⟩ | ⟨rfl, -, rfl⟩ |
    ⟨rfl, -, rfl⟩ | ⟨rfl, -, rfl⟩ | ⟨rfl, -, rfl⟩ | ⟨rfl, -, rfl⟩ | ⟨rfl, -, rfl⟩ | ⟨rfl, -, rfl⟩ |
    ⟨rfl, -, rfl⟩ | ⟨rfl, -, rfl⟩ | ⟨rfl, -, rfl⟩
  · exact hword "OR" (by decide)
  · exact hword "AND" (by decide)
  all_goals exact h.operator fun _ _ => rfl

lemma IsTail.children {q power : Nat} {left e : Expr} (h : IsTail F q left power e ts) :
    ∃ es, e.children = left :: es := by
  cases h <;> exact ⟨_, rfl⟩

lemma isForm_text {form : List String × String} (h : form ∈ Parser.isForms) :
    form.2.toList = behind ("IS" :: form.1) ∧ ∀ text ∈ "IS" :: form.1, text ∈ keywords := by
  have hall : ∀ form ∈ Parser.isForms,
      form.2.toList = behind ("IS" :: form.1) ∧ ∀ text ∈ "IS" :: form.1, text ∈ keywords := by
    decide
  exact hall form h

lemma adjoins_in (negated : Bool) (h : Spells cs ts) :
    Adjoins (' ' :: ((negation negated).toList ++ (before ["IN"] ++ '(' :: (cs ++ [')']))))
      (negationTokens negated ++ key "IN" :: .symbol "(" :: (ts ++ [.symbol ")"])) := by
  have hmembers := spells_before ["IN"] (by decide) (spells_parenthesized h).spells
  exact (spells_negation negated hmembers).blank

/-- What an operator adds to the text of the expression before it. -/
lemma IsTail.adjoins (hF : F.Prints) {q power : Nat} {left e : Expr}
    (h : IsTail F q left power e ts) (hlegible : Legible [e]) :
    ∃ cs, e.print.toList = left.print.toList ++ cs ∧ Adjoins cs ts := by
  have hchildren : Legible e.children := (legible_single.mp hlegible).2
  cases h with
  | binary hop _ hright =>
    have htext := adjoins_operator hop (hF.expr hright (legible_cons.mp hchildren).2)
    exact ⟨_, by simp [Expr.print, String.toList_append], htext⟩
  | @inList negated items ts hitems =>
    have hlisted := hitems.spells printExprs (fun _ => rfl) (fun e es hne => ?_)
      fun e he ts h => hF.expr h.1 ?_
    · refine ⟨_, ?_, adjoins_in negated hlisted⟩
      simp [Expr.print, String.toList_append, before]
    · obtain ⟨e', es, rfl⟩ := List.exists_cons_of_ne_nil hne
      rfl
    · have hitem : Legible items := (legible_cons.mp hchildren).2
      exact fun x hx => hitem x (List.mem_singleton.mp hx ▸ he)
  | @inQuery negated body ts hbody =>
    have hquery := hbody.spells hF (by simpa using (legible_cons.mp hchildren).2)
    refine ⟨_, ?_, adjoins_in negated hquery⟩
    simp [Expr.print, printParts, Part.print, Query.print, String.toList_append, before]
  | @like negated pattern ts _ hpattern =>
    have htext := hF.expr hpattern (legible_cons.mp hchildren).2
    refine ⟨_, ?_, (spells_negation negated (spells_before ["LIKE"] (by decide) htext)).blank⟩
    simp [Expr.print, String.toList_append, before]
  | @between negated low ts high us _ hlow hhigh =>
    obtain ⟨hlowLegible, hhighLegible⟩ := legible_cons.mp (legible_cons.mp hchildren).2
    have hrest := (spells_before ["AND"] (by decide) (hF.expr hhigh hhighLegible)).blank
    have htext := (hF.expr hlow hlowLegible).append hrest
    refine ⟨_, ?_, (spells_negation negated (spells_before ["BETWEEN"] (by decide) htext)).blank⟩
    simp [Expr.print, String.toList_append, before]
  | is hform =>
    obtain ⟨htext, hkeys⟩ := isForm_text hform
    refine ⟨_, ?_, adjoins_behind _ hkeys⟩
    simp [Expr.print, printParts, Part.print, String.toList_append, htext]

lemma IsExpression.spells (hF : F.Prints) {p q : Nat} {e : Expr} (h : IsExpression F p q e ts)
    (hlegible : Legible [e]) : Spells e.print.toList ts := by
  induction h with
  | term he => exact he.spells hF hlegible
  | @sign _ op t e ts hop _ he =>
    have hoperand := hF.expr (F.expr_of_term (p := 0) (q := 0) he) (legible_single.mp hlegible).2
    simp only [List.mem_cons, Prod.mk.injEq, List.not_mem_nil, or_false] at hop
    rcases hop with ⟨rfl, rfl⟩ | ⟨rfl, rfl⟩
    · have htext : Spells ('+' :: e.print.toList) (.symbol "+" :: ts) :=
        hoperand.sign fun _ _ => rfl
      simpa [Expr.print, UnaryOp.symbol, String.toList_append] using htext
    · simpa [Expr.print, UnaryOp.symbol, String.toList_append] using hoperand.minus (hF.head he)
  | not _ he =>
    have htext := spells_before ["NOT"] (by decide) (hF.expr he (legible_single.mp hlegible).2)
    simpa [Expr.print, String.toList_append, before] using htext
  | @existence _ negated x ts _ hx =>
    have hquery := hF.query hx (by simpa [Expr.children] using (legible_single.mp hlegible).2)
    have hexists := spells_before ["EXISTS"] (by decide) (spells_parenthesized hquery).spells
    have htext := spells_negation negated hexists
    simpa [Expr.print, printParts, Part.print, String.toList_append, before] using htext
  | tail _ htail _ ih =>
    obtain ⟨cs, hprint, hrest⟩ := htail.adjoins hF hlegible
    obtain ⟨es, hchildren⟩ := htail.children
    have hleft := (legible_single.mp hlegible).2
    rw [hchildren] at hleft
    rw [hprint]
    exact (ih (legible_cons.mp hleft).1).append hrest

/-! ### Queries -/

lemma IsOffset.spells (hF : F.Prints) {ps : List Part} (h : IsOffset F ps ts)
    (hlegible : Legible (partsChildren ps)) : Spells (printParts ps).toList ts := by
  obtain ⟨he⟩ := h
  simpa [printParts, Part.print] using hF.expr he (by simpa using hlegible)

lemma IsCommonTable.spells (hF : F.Prints) {ps : List Part} (h : IsCommonTable F ps ts)
    (hlegible : Legible (partsChildren ps)) : Spells (printParts ps).toList ts := by
  obtain ⟨hi, hx⟩ := h
  have hquery := (spells_parenthesized (hF.query hx (by simpa using hlegible))).spells
  have htext := (spells_ident hi.isIdent).append (spells_before ["AS"] (by decide) hquery).blank
  simpa [printParts, Part.print, String.toList_append, before] using htext

lemma openingForm_text {form : String × List String} (h : form ∈ openingForms) :
    form.1.toList = before form.2 ∧ ∀ text ∈ form.2, text ∈ keywords := by
  have hall : ∀ form ∈ openingForms,
      form.1.toList = before form.2 ∧ ∀ text ∈ form.2, text ∈ keywords := by
    decide
  exact hall form h

lemma IsOpening.spells (hF : F.Prints) {ps : List Part} (h : IsOpening F ps us)
    (hlegible : Legible (partsChildren ps)) (hrest : Spells rest ts) :
    Spells ((printParts ps).toList ++ rest) (us ++ ts) := by
  cases h with
  | none => simpa [printParts] using hrest
  | tables hform hps =>
    obtain ⟨htext, hkeys⟩ := openingForm_text hform
    have htable := fun ps ts (h : IsCommonTable F ps ts) => h.spells hF
    have htables := hps.spells htable (by simpa [partsChildren_append] using hlegible)
    have hall := spells_before _ hkeys (htables.append hrest.blank)
    simpa [printParts, printParts_append, Part.print, String.toList_append, htext] using hall

lemma IsQuery.spells (hF : F.Prints) {x : Query} (h : IsQuery F x ts)
    (hlegible : Legible x.children) : Spells x.print.toList ts := by
  obtain @⟨opening, _, body, _, order, _, limit, _, offset, _, hopening, hbody, horder, hlimit,
    hoffset⟩ := h
  simp only [Query.children, legible_append, partsChildren_append] at hlegible
  obtain ⟨⟨hopeningLegible, hbodyLegible⟩, horderLegible, hlimitLegible, hoffsetLegible⟩ := hlegible
  have hitem := fun ps ts (h : IsOrderItem F ps ts) => h.spells hF
  have horder := horder.adjoins (by decide) (by decide) (fun ps ts h => h.spells hitem)
    horderLegible
  have hlimit := hlimit.adjoins (by decide) (by decide) (fun ps ts h => h.spells hF) hlimitLegible
  have hoffset := hoffset.adjoins (by decide) (by decide) (fun ps ts h => h.spells hF)
    hoffsetLegible
  have hcore := (hbody.spells hF hbodyLegible).append ((horder.append hlimit).append hoffset)
  have htext := hopening.spells hF hopeningLegible hcore
  simpa [Query.print, printParts_append, String.toList_append] using htext

/-- At every level, what stands inside other forms spells its tokens. -/
lemma prints_level (d : Nat) : (level d).Prints := by
  induction d with
  | zero => exact ⟨False.elim, False.elim, False.elim⟩
  | succ d ih => exact ⟨fun h => h.spells ih, fun h => h.spells ih, fun h => h.head⟩

end SemanticQuery.Sql.Plain
