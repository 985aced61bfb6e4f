import SemanticQuery.Proofs.Sql.Plain.Grammar
import SemanticQuery.Proofs.Sql.Walk

/-!
# Maps of plain statements

A map of expressions that makes literals of literals and calls of calls, and moves nothing else,
takes plain forms to plain forms. So every level also holds the forms of the levels below it.
-/

namespace SemanticQuery.Sql.Plain

variable {F F' : Forms} {f : Expr → Expr} {p q power d : Nat} {left e : Expr} {t : Token}
  {ts us : List Token} {ps : List Part} {R R' : List Part → List Token → Prop} {text : String}
  {keys : List String}

/-- Whether an expression is a literal or a call. -/
def isReplaceable : Expr → Bool
  | .literal _ | .call _ => true
  | _ => false

/-- A map that takes literals to literals and plain calls to such, and leaves other expressions
alone. -/
structure KeepsForms (f : Expr → Expr) : Prop where
  fixed : ∀ e, isReplaceable e = false → f e = e
  literal : ∀ v, ∃ v', f (.literal v) = .literal v' ∧ ∀ t, IsLiteral v t → ∃ u, IsLiteral v' u
  call : ∀ {d c ts}, IsTerm (level d) (.call c) ts → ∃ us, IsTerm (level d) (f (.call c)) us

lemma KeepsForms.mapExprs_eq (hf : KeepsForms f) (e : Expr) (h : isReplaceable e = false) :
    e.mapExprs f = e.mapInner f := by
  have hinner : isReplaceable (e.mapInner f) = false := by cases e <;> first | rfl | cases h
  rw [Expr.mapExprs_eq, hf.fixed _ hinner]

lemma isMember_mapExprs (hf : KeepsForms f) (h : isMember e = true) :
    isMember (e.mapExprs f) = true := by
  match e with
  | .literal v =>
    obtain ⟨v', heq, -⟩ := hf.literal v
    rw [Expr.mapExprs, heq]
    rfl
  | .name i =>
    rw [hf.mapExprs_eq (.name i) rfl]
    rfl
  | .unary op (.literal v) =>
    obtain ⟨v', heq, -⟩ := hf.literal v
    rw [hf.mapExprs_eq (.unary op _) rfl, Expr.mapInner, Expr.mapExprs, heq]
    rfl

/-- The map takes what stands inside other forms to such things. -/
structure Forms.Maps (F F' : Forms) (f : Expr → Expr) : Prop where
  expr : ∀ {p q e ts}, F.expr p q e ts → ∃ us, F'.expr p q (e.mapExprs f) us
  term : ∀ {e ts}, F.term e ts → ∃ us, F'.term (e.mapExprs f) us
  query : ∀ {x ts}, F.query x ts → ∃ us, F'.query (x.mapExprs f) us
  column : ∀ {is ts}, F.term (column is) ts → F'.term (column is) ts

/-! ### Lists -/

lemma Listed.maps {α β : Type} {R : α → List Token → Prop} {S : β → List Token → Prop}
    {φ : α → β} {as : List α} (h : Listed R as ts) (hR : ∀ {a ts}, R a ts → ∃ us, S (φ a) us) :
    ∃ us, Listed S (as.map φ) us := by
  induction h with
  | single ha =>
    obtain ⟨us, ha⟩ := hR ha
    exact ⟨us, .single ha⟩
  | cons ha _ ih =>
    obtain ⟨us, ha⟩ := hR ha
    obtain ⟨vs, has⟩ := ih
    exact ⟨_, .cons ha has⟩

lemma mapExprsOfParts_append (f : Expr → Expr) (ps qs : List Part) :
    mapExprsOfParts f (ps ++ qs) = mapExprsOfParts f ps ++ mapExprsOfParts f qs := by
  induction ps with
  | nil => rfl
  | cons p ps ih => simp only [List.cons_append, mapExprsOfParts, ih]

lemma mapExprsOfParts_commaParts (f : Expr → Expr) (pss : List (List Part)) :
    mapExprsOfParts f (commaParts pss) = commaParts (pss.map (mapExprsOfParts f)) := by
  induction pss with
  | nil => rfl
  | cons ps pss ih =>
    cases pss with
    | nil => rfl
    | cons ps' pss =>
      have hcons : ∀ ps ps' pss,
          commaParts (ps :: ps' :: pss) = ps ++ .text ", " :: commaParts (ps' :: pss) :=
        fun _ _ _ => rfl
      rw [List.map_cons, List.map_cons, hcons, hcons, mapExprsOfParts_append, ← List.map_cons, ← ih]
      rfl

lemma IsList.maps (h : IsList R ps ts)
    (hR : ∀ {ps ts}, R ps ts → ∃ us, R' (mapExprsOfParts f ps) us) :
    ∃ us, IsList R' (mapExprsOfParts f ps) us := by
  obtain ⟨h⟩ := h
  obtain ⟨us, h⟩ := h.maps hR
  rw [mapExprsOfParts_commaParts]
  exact ⟨us, .of_listed h⟩

lemma IsClause.maps (h : IsClause text keys R ps ts)
    (hR : ∀ {ps ts}, R ps ts → ∃ us, R' (mapExprsOfParts f ps) us) :
    ∃ us, IsClause text keys R' (mapExprsOfParts f ps) us := by
  cases h with
  | absent => exact ⟨_, .absent⟩
  | present h =>
    obtain ⟨us, h⟩ := hR h
    exact ⟨_, .present h⟩

/-! ### Single forms -/

lemma IsQuantifier.maps (h : IsQuantifier ps ts) : IsQuantifier (mapExprsOfParts f ps) ts := by
  cases h with
  | none => exact .none
  | distinct => exact .distinct

section

variable (hF : F.Maps F' f)
include hF

lemma IsExprPart.maps (h : IsExprPart F ps ts) : ∃ us, IsExprPart F' (mapExprsOfParts f ps) us := by
  obtain ⟨he⟩ := h
  obtain ⟨us, he⟩ := hF.expr he
  exact ⟨us, .of_expr he⟩

lemma IsOrderItem.maps (h : IsOrderItem F ps ts) :
    ∃ us, IsOrderItem F' (mapExprsOfParts f ps) us := by
  cases h with
  | plain he =>
    obtain ⟨us, he⟩ := hF.expr he
    exact ⟨_, .plain he⟩
  | asc he =>
    obtain ⟨us, he⟩ := hF.expr he
    exact ⟨_, .asc he⟩
  | desc he =>
    obtain ⟨us, he⟩ := hF.expr he
    exact ⟨_, .desc he⟩

lemma IsArgument.maps {a : Argument} (h : IsArgument F a ts) :
    ∃ us, IsArgument F' (a.mapExprs f) us := by
  cases h with
  | positional he =>
    obtain ⟨us, he⟩ := hF.expr he
    exact ⟨us, .positional he⟩
  | wildcard => exact ⟨_, .wildcard⟩

lemma IsArguments.maps {quantifier : Option String} {as : List Argument}
    (h : IsArguments F quantifier as ts) :
    ∃ us, IsArguments F' quantifier (mapExprsOfArguments f as) us := by
  rw [mapExprsOfArguments_eq]
  cases h with
  | none => exact ⟨_, .none⟩
  | all has =>
    obtain ⟨us, has⟩ := has.maps fun h => h.maps hF
    exact ⟨us, .all has⟩
  | distinct has =>
    obtain ⟨us, has⟩ := has.maps fun h => h.maps hF
    exact ⟨_, .distinct has⟩

lemma IsWindow.maps (h : IsWindow F ps ts) : ∃ us, IsWindow F' (mapExprsOfParts f ps) us := by
  cases h with
  | all => exact ⟨_, .all⟩
  | partition hps =>
    obtain ⟨us, hps⟩ := hps.maps fun h => h.maps hF
    exact ⟨_, .partition hps⟩
  | order hps =>
    obtain ⟨us, hps⟩ := hps.maps fun h => h.maps hF
    exact ⟨_, .order hps⟩
  | ordered hps hqs =>
    obtain ⟨us, hps⟩ := hps.maps fun h => h.maps hF
    obtain ⟨vs, hqs⟩ := hqs.maps fun h => h.maps hF
    simp only [List.cons_append, mapExprsOfParts, Part.mapExprs, mapExprsOfParts_append]
    exact ⟨_, .ordered hps hqs⟩

lemma IsTrailer.maps (h : IsTrailer F ps ts) : ∃ us, IsTrailer F' (mapExprsOfParts f ps) us := by
  cases h with
  | none => exact ⟨_, .none⟩
  | windowed hps =>
    obtain ⟨us, hps⟩ := hps.maps hF
    simp only [List.cons_append, mapExprsOfParts, Part.mapExprs, mapExprsOfParts_append]
    exact ⟨_, .windowed hps⟩

lemma IsBranches.maps (h : IsBranches F ps ts) : ∃ us, IsBranches F' (mapExprsOfParts f ps) us := by
  induction h with
  | single he hvalue =>
    obtain ⟨us, he⟩ := hF.expr he
    obtain ⟨vs, hvalue⟩ := hF.expr hvalue
    exact ⟨_, .single he hvalue⟩
  | cons he hvalue _ ih =>
    obtain ⟨us, he⟩ := hF.expr he
    obtain ⟨vs, hvalue⟩ := hF.expr hvalue
    obtain ⟨ws, ih⟩ := ih
    exact ⟨_, .cons he hvalue ih⟩

lemma IsTerm.maps_column {is : List Ident} (h : IsTerm F (column is) ts) :
    IsTerm F' (column is) ts := by
  match is with
  | [] => cases h
  | [i] =>
    cases h with
    | name hi => exact .name hi
  | i :: j :: is =>
    cases h with
    | path hi his hpath => exact .path hi his (hF.column hpath)

lemma IsRelation.maps (h : IsRelation F ps ts) : ∃ us, IsRelation F' (mapExprsOfParts f ps) us := by
  cases h with
  | table hi hlabel => exact ⟨_, .table hi hlabel⟩
  | qualified hi his hlabel => exact ⟨_, .qualified hi his hlabel⟩
  | derived hx hlabel =>
    obtain ⟨us, hx⟩ := hF.query hx
    exact ⟨_, .derived hx hlabel⟩

lemma IsJoins.maps (h : IsJoins F ps ts) : ∃ us, IsJoins F' (mapExprsOfParts f ps) us := by
  induction h with
  | nil => exact ⟨_, .nil⟩
  | on hform hright he _ ih =>
    obtain ⟨us, hright⟩ := hright.maps hF
    obtain ⟨vs, he⟩ := hF.expr he
    obtain ⟨ws, ih⟩ := ih
    simp only [List.cons_append, mapExprsOfParts, Part.mapExprs, mapExprsOfParts_append]
    exact ⟨_, .on hform hright he ih⟩
  | cross hright _ ih =>
    obtain ⟨us, hright⟩ := hright.maps hF
    obtain ⟨ws, ih⟩ := ih
    simp only [List.cons_append, mapExprsOfParts, Part.mapExprs, mapExprsOfParts_append]
    exact ⟨_, .cross hright ih⟩

lemma IsJoined.maps (h : IsJoined F ps ts) : ∃ us, IsJoined F' (mapExprsOfParts f ps) us := by
  obtain ⟨hfirst, hjoins⟩ := h
  obtain ⟨us, hfirst⟩ := hfirst.maps hF
  obtain ⟨vs, hjoins⟩ := hjoins.maps hF
  rw [mapExprsOfParts_append]
  exact ⟨_, .of_relation hfirst hjoins⟩

lemma IsItem.maps {item : SelectItem} (h : IsItem F item ts) :
    ∃ us, IsItem F' (item.mapExprs f) us := by
  cases h with
  | wildcard => exact ⟨_, .wildcard⟩
  | expr he =>
    obtain ⟨us, he⟩ := hF.expr he
    exact ⟨_, .expr he⟩
  | labelled he hi =>
    obtain ⟨us, he⟩ := hF.expr he
    exact ⟨_, .labelled he hi⟩

lemma IsCondition.maps {condition : Option Expr} (h : IsCondition F condition ts) :
    ∃ us, IsCondition F' (mapExprsOfOption f condition) us := by
  cases h with
  | none => exact ⟨_, .none⟩
  | some he =>
    obtain ⟨us, he⟩ := hF.expr he
    exact ⟨_, .some he⟩

lemma IsSelection.maps {s : Select} (h : IsSelection F s ts) :
    ∃ us, IsSelection F' (s.mapExprs f) us := by
  obtain ⟨hquantifier, hitems, hsource, hcondition, hgroup, hhaving⟩ := h
  obtain ⟨vs, hitems⟩ := hitems.maps fun h => h.maps hF
  obtain ⟨ws, hsource⟩ := hsource.maps fun h => h.maps fun h => h.maps hF
  obtain ⟨us, hcondition⟩ := hcondition.maps hF
  obtain ⟨xs, hgroup⟩ := hgroup.maps fun h => h.maps fun h => h.maps hF
  obtain ⟨ys, hhaving⟩ := hhaving.maps fun h => h.maps hF
  simp only [Select.mapExprs, mapExprsOfItems_eq, mapExprsOfParts_append]
  exact ⟨_, .mk hquantifier.maps hitems hsource hcondition hgroup hhaving⟩

lemma IsBody.maps {body : Body} (h : IsBody F body ts) : ∃ us, IsBody F' (body.mapExprs f) us := by
  induction h with
  | select hs =>
    obtain ⟨us, hs⟩ := hs.maps hF
    exact ⟨us, .select hs⟩
  | combined hform _ hs ih =>
    obtain ⟨us, ih⟩ := ih
    obtain ⟨vs, hs⟩ := hs.maps hF
    exact ⟨_, .combined hform ih hs⟩

lemma IsOffset.maps (h : IsOffset F ps ts) : ∃ us, IsOffset F' (mapExprsOfParts f ps) us := by
  obtain ⟨he⟩ := h
  obtain ⟨us, he⟩ := hF.expr he
  exact ⟨us, .of_expr he⟩

lemma IsCommonTable.maps (h : IsCommonTable F ps ts) :
    ∃ us, IsCommonTable F' (mapExprsOfParts f ps) us := by
  obtain ⟨hi, hx⟩ := h
  obtain ⟨us, hx⟩ := hF.query hx
  exact ⟨_, .mk hi hx⟩

lemma IsOpening.maps (h : IsOpening F ps ts) : ∃ us, IsOpening F' (mapExprsOfParts f ps) us := by
  cases h with
  | none => exact ⟨_, .none⟩
  | tables hform hps =>
    obtain ⟨us, hps⟩ := hps.maps fun h => h.maps hF
    simp only [List.cons_append, mapExprsOfParts, Part.mapExprs, mapExprsOfParts_append]
    exact ⟨_, .tables hform hps⟩

lemma IsQuery.maps {x : Query} (h : IsQuery F x ts) : ∃ us, IsQuery F' (x.mapExprs f) us := by
  obtain ⟨hopening, hbody, horder, hlimit, hoffset⟩ := h
  obtain ⟨us, hopening⟩ := hopening.maps hF
  obtain ⟨vs, hbody⟩ := hbody.maps hF
  obtain ⟨ws, horder⟩ := horder.maps fun h => h.maps fun h => h.maps hF
  obtain ⟨xs, hlimit⟩ := hlimit.maps fun h => h.maps hF
  obtain ⟨ys, hoffset⟩ := hoffset.maps fun h => h.maps hF
  simp only [Query.mapExprs, mapExprsOfParts_append]
  exact ⟨_, .mk hopening hbody horder hlimit hoffset⟩

/-- An operator keeps its place, and the expression before it is mapped with it. -/
lemma IsTail.maps (hf : KeepsForms f) (h : IsTail F q left power e ts) :
    ∃ us, IsTail F' q (left.mapExprs f) power (e.mapExprs f) us := by
  cases h with
  | binary hop hq hright =>
    obtain ⟨us, hright⟩ := hF.expr hright
    rw [hf.mapExprs_eq (.binary _ _ _) rfl]
    exact ⟨_, .binary hop hq hright⟩
  | inList hitems =>
    obtain ⟨us, hitems⟩ := hitems.maps (S := fun e ts => F'.expr 0 0 e ts ∧ isMember e = true)
      fun h => by
        obtain ⟨us, he⟩ := hF.expr h.1
        exact ⟨us, he, isMember_mapExprs hf h.2⟩
    rw [hf.mapExprs_eq (.inList _ _ _) rfl, Expr.mapInner, mapExprsOfList_eq]
    exact ⟨_, .inList hitems⟩
  | inQuery hbody =>
    obtain ⟨us, hbody⟩ := hbody.maps hF
    rw [hf.mapExprs_eq (.phrase _) rfl]
    exact ⟨_, .inQuery hbody⟩
  | like hq hpattern =>
    obtain ⟨us, hpattern⟩ := hF.expr hpattern
    rw [hf.mapExprs_eq (.like _ _ _ _ _) rfl]
    exact ⟨_, .like hq hpattern⟩
  | between hq hlow hhigh =>
    obtain ⟨us, hlow⟩ := hF.expr hlow
    obtain ⟨vs, hhigh⟩ := hF.expr hhigh
    rw [hf.mapExprs_eq (.between _ _ _ _) rfl]
    exact ⟨_, .between hq hlow hhigh⟩
  | is hform =>
    rw [hf.mapExprs_eq (.phrase _) rfl]
    exact ⟨_, .is hform⟩

end

/-! ### Levels -/

section

variable (hf : KeepsForms f) (hF : F.Maps (level d) f)
include hf hF

lemma IsTerm.maps (h : IsTerm F e ts) : ∃ us, IsTerm (level d) (e.mapExprs f) us := by
  cases h with
  | name hi =>
    rw [hf.mapExprs_eq (.name _) rfl]
    exact ⟨_, .name hi⟩
  | path hi his hpath =>
    rw [hf.mapExprs_eq (.path _) rfl]
    exact ⟨_, .path hi his (hF.column hpath)⟩
  | literal hv =>
    obtain ⟨v, heq, hplain⟩ := hf.literal _
    obtain ⟨t, hv⟩ := hplain _ hv
    rw [Expr.mapExprs, heq]
    exact ⟨_, .literal hv⟩
  | nested he =>
    obtain ⟨us, he⟩ := hF.expr he
    rw [hf.mapExprs_eq (.nested _) rfl]
    exact ⟨_, .nested he⟩
  | subquery hx =>
    obtain ⟨us, hx⟩ := hF.query hx
    rw [hf.mapExprs_eq (.phrase _) rfl]
    exact ⟨_, .subquery hx⟩
  | call hi has htrailer =>
    obtain ⟨us, has⟩ := has.maps hF
    obtain ⟨vs, htrailer⟩ := htrailer.maps hF
    rw [Expr.mapExprs, Call.mapExprs]
    exact hf.call (.call hi has htrailer)
  | cast he htype =>
    obtain ⟨us, he⟩ := hF.expr he
    rw [hf.mapExprs_eq (.cast _ _ _) rfl]
    exact ⟨_, .cast he htype⟩
  | interval he hunit =>
    obtain ⟨us, he⟩ := hF.expr he
    rw [hf.mapExprs_eq (.phrase _) rfl]
    exact ⟨_, .interval he hunit⟩
  | choice hoperand hbranches hotherwise =>
    obtain ⟨us, hoperand⟩ := hoperand.maps fun h => h.maps hF
    obtain ⟨vs, hbranches⟩ := hbranches.maps hF
    obtain ⟨ws, hotherwise⟩ := hotherwise.maps fun h => h.maps hF
    rw [hf.mapExprs_eq (.phrase _) rfl]
    simp only [Expr.mapInner, List.cons_append, mapExprsOfParts, Part.mapExprs,
      mapExprsOfParts_append]
    exact ⟨_, .choice hoperand hbranches hotherwise⟩

lemma IsExpression.maps (h : IsExpression F p q e ts) :
    ∃ us, IsExpression (level d) p q (e.mapExprs f) us := by
  induction h with
  | term he =>
    obtain ⟨us, he⟩ := he.maps hf hF
    exact ⟨us, .term he⟩
  | sign hop hq he =>
    obtain ⟨us, he⟩ := hF.term he
    rw [hf.mapExprs_eq (.unary _ _) rfl]
    exact ⟨_, .sign hop hq he⟩
  | not hq he =>
    obtain ⟨us, he⟩ := hF.expr he
    rw [hf.mapExprs_eq (.unary _ _) rfl]
    exact ⟨_, .not hq he⟩
  | existence hpower hx =>
    obtain ⟨us, hx⟩ := hF.query hx
    rw [hf.mapExprs_eq (.phrase _) rfl]
    exact ⟨_, .existence hpower hx⟩
  | tail _ htail hpower ih =>
    obtain ⟨us, hleft⟩ := ih
    obtain ⟨vs, htail⟩ := htail.maps hF hf
    exact ⟨_, .tail hleft htail hpower⟩

end

lemma maps_empty (F : Forms) (f : Expr → Expr) : Forms.empty.Maps F f :=
  ⟨False.elim, False.elim, False.elim, False.elim⟩

/-- A level is mapped to itself and to every level above it. -/
lemma maps_level (hf : KeepsForms f) (d n : Nat) : (level d).Maps (level (d + n)) f := by
  induction d with
  | zero => exact maps_empty _ f
  | succ d ih =>
    rw [Nat.succ_add]
    exact ⟨fun h => h.maps hf ih, fun h => h.maps hf ih, fun h => h.maps ih,
      fun h => h.maps_column ih⟩

lemma keepsForms_id : KeepsForms id where
  fixed _ _ := rfl
  literal v := ⟨v, rfl, fun t h => ⟨t, h⟩⟩
  call h := ⟨_, h⟩

/-- An expression of a level stands in every level above it. -/
lemma expr_level_add (h : (level d).expr p q e ts) (n : Nat) :
    ∃ us, (level (d + n)).expr p q e us := by
  have hself : e.mapExprs id = e := Expr.mapExprs_eq_self e fun _ _ => rfl
  obtain ⟨us, h⟩ := (maps_level keepsForms_id d n).expr h
  exact ⟨us, hself ▸ h⟩

/-- A query of a level stands in every level above it. -/
lemma query_level_add {x : Query} (h : (level d).query x ts) (n : Nat) :
    ∃ us, (level (d + n)).query x us := by
  have hself : x.mapExprs id = x :=
    Query.mapExprs_eq_self x fun y _ => Expr.mapExprs_eq_self y fun _ _ => rfl
  obtain ⟨us, h⟩ := (maps_level keepsForms_id d n).query h
  exact ⟨us, hself ▸ h⟩

end SemanticQuery.Sql.Plain
