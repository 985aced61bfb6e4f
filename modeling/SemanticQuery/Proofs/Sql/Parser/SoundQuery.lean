import SemanticQuery.Proofs.Sql.Parser.Comparison
import SemanticQuery.Proofs.Sql.Parser.SoundTerm
import SemanticQuery.Proofs.Sql.Selection
import SemanticQuery.Sql.Parser

/-!
# Queries are read sound

Relations, selections, changes of rows and queries are read with sound expressions in them, so by
induction on how deep forms may be nested the grammar reads all of its forms so. Every condition
that is read is sound.
-/

namespace SemanticQuery.Sql

namespace Parser

variable {g : Grammar} (hg : g.IsSound) {ts : List Token}
include hg

/-! ### Relations -/

lemma sound_derived (start : String) :
    Reads (derived g start) ts fun ps _ => Sound (partsChildren ps) := by
  refine reads_bind_of (hg.query _) fun q _ hq => reads_bind fun _ _ => reads_bind fun _ _ => ?_
  exact reads_pure (by simpa using hq)

lemma sound_tableArguments : Reads (tableArguments g) ts fun ps _ => Sound (partsChildren ps) := by
  have hparts : ∀ a : Argument, partsChildren (tableArguments.argumentParts a) = a.children := by
    rintro (_ | _ | _) <;> rfl
  refine reads_bind fun _ _ => reads_ite (fun _ => reads_pure (by simp)) (fun _ => ?_)
  refine reads_bind_of (reads_commaSeparated fun ts => sound_argument hg) fun args _ hargs => ?_
  exact reads_bind fun _ _ => reads_pure (by simpa [hparts] using hargs)

lemma sound_table : Reads (table g) ts fun ps _ => Sound (partsChildren ps) := by
  refine reads_bind fun name _ => reads_bind fun _ _ => ?_
  extract_lets behindPartitions
  have hpartitions : ∀ partitions ts,
      Reads (behindPartitions partitions) ts fun ps _ => Sound (partsChildren ps) := by
    intro partitions ts
    refine reads_bind fun _ _ => ?_
    extract_lets behindArgs
    have hargs : ∀ args ts, Sound (partsChildren args) →
        Reads (behindArgs args) ts fun ps _ => Sound (partsChildren ps) := by
      intro args ts hargs
      refine reads_bind fun _ _ => reads_bind fun _ _ => reads_bind fun _ _ => ?_
      refine reads_bind_of reads_ahead fun tokens _ htokens => ?_
      extract_lets behindHints
      have hhints : ∀ hints ts, Sound (partsChildren hints) →
          Reads (behindHints hints) ts fun ps _ => Sound (partsChildren ps) :=
        fun hints ts hhints => reads_pure (by simpa using ⟨hargs, hhints⟩)
      split
      · refine reads_bind_of (reads_goTo htokens.1.tail.tail) fun _ _ _ => ?_
        refine reads_bind_of (sound_exprList hg) fun items _ hitems => reads_bind fun _ _ => ?_
        exact reads_pure_bind (hhints _ _ (by simpa using hitems))
      · exact reads_pure_bind (hhints _ _ (by simp))
    refine reads_ite (fun _ => ?_) (fun _ => reads_pure_bind (hargs _ _ (by simp)))
    refine reads_bind_of (sound_tableArguments hg) fun ps _ hps => ?_
    exact reads_pure_bind (hargs _ _ (by simpa using hps))
  exact reads_ite (fun _ => reads_bind fun _ _ => reads_pure_bind (hpartitions _ _))
    (fun _ => reads_pure_bind (hpartitions _ _))

lemma sound_relation : Reads (relation g) ts fun x _ => Sound (partsChildren x.1) := by
  refine reads_bind fun _ _ => reads_ite (fun _ => reads_bind fun _ _ => ?_) (fun _ => ?_)
  · refine reads_ite (fun _ => ?_) (fun _ => reads_bind fun _ _ => reads_bind fun _ _ => ?_)
    · exact reads_bind_of (sound_derived hg _) fun ps _ hps => reads_pure hps
    · refine reads_bind_of (sound_tableArguments hg) fun ps _ hps => reads_bind fun _ _ => ?_
      exact reads_pure (by simpa using hps)
  refine reads_bind fun _ _ => reads_ite (fun _ => ?_) (fun _ => reads_bind fun _ _ => ?_)
  · refine reads_bind_of (R := fun e _ => e.IsSound) ?_ fun e _ he => reads_bind fun _ _ => ?_
    · exact reads_bind fun _ _ => reads_bind_of (hg.expr _) fun e _ he =>
        reads_bind fun _ _ => reads_pure he
    · exact reads_pure (by simpa using he)
  refine reads_ite (fun _ => ?_) (fun _ => ?_)
  · refine reads_bind_of (R := fun ps _ => ∀ x ∈ ps, Sound (partsChildren x))
      (reads_attempt ?_ (by simp)) fun ps _ hps => ?_
    · exact (sound_derived hg "").mono fun ps _ hps => by simpa using hps
    · split
      · exact reads_pure (hps _ rfl)
      · refine reads_bind_of (hg.joined _) fun inner _ hinner => reads_bind fun _ _ => ?_
        refine reads_bind fun _ _ => reads_bind fun _ _ => reads_pure ?_
        simpa using hinner
  · exact reads_bind_of (sound_table hg) fun ps _ hps => reads_pure hps

lemma sound_joinConstraint :
    Reads (joinConstraint g) ts fun ps _ => Sound (partsChildren ps) := by
  refine reads_bind fun _ _ => reads_ite (fun _ => ?_) (fun _ => reads_bind fun _ _ => ?_)
  · exact reads_bind_of (hg.expr _) fun e _ he => reads_pure (by simpa using he)
  · exact reads_ite (fun _ => reads_bind fun _ _ => reads_pure (by simp))
      (fun _ => reads_pure (by simp))

lemma sound_join : Reads (join g) ts fun ps _ => ∀ x ∈ ps, Sound (partsChildren x) := by
  refine reads_bind fun _ _ => reads_bind fun _ _ => reads_ite (fun _ => ?_) (fun _ => ?_)
  · refine reads_bind fun _ _ => reads_bind_of (sound_relation hg) fun right _ hright => ?_
    exact reads_pure (by simpa using hright)
  refine reads_bind fun _ _ => reads_ite (fun _ => reads_bind fun _ _ => ?_) (fun _ => ?_)
  · exact reads_bind_of (sound_relation hg) fun right _ hright =>
      reads_pure (by simpa using hright)
  refine reads_bind fun _ _ => reads_bind fun words _ => ?_
  split
  · exact reads_bind fun _ _ => reads_pure (by simp)
  · refine reads_bind_of (sound_relation hg) fun right _ hright => ?_
    refine reads_ite (fun _ => reads_pure (by simpa using hright)) (fun _ => ?_)
    exact reads_bind_of (sound_joinConstraint hg) fun ps _ hps =>
      reads_pure (by simpa using ⟨hright, hps⟩)

lemma sound_joined : Reads (joined g) ts fun j _ => Sound (partsChildren j.parts) := by
  refine reads_bind_of (sound_relation hg) fun first _ hfirst => ?_
  refine reads_bind_of (R := fun ps _ => Sound (partsChildren ps)) ?_ fun joins _ hjoins => ?_
  · refine reads_loop (I := fun ps _ => Sound (partsChildren ps)) ?_ (by simp)
    intro found ts hfound
    refine reads_bind_of (sound_join hg) fun parts _ hparts => ?_
    split
    · exact reads_pure (by simpa using ⟨hfound, hparts _ rfl⟩)
    · exact reads_pure hfound
  · exact reads_pure (by simpa using ⟨hfirst, hjoins⟩)

lemma sound_relations : Reads (relations g) ts fun ps _ => Sound (partsChildren ps) := by
  refine reads_bind_of (reads_commaSeparated hg.joined) fun js _ hjs => reads_pure ?_
  simpa using hjs

/-! ### Selections -/

lemma sound_selectItem : Reads (selectItem g) ts fun i _ => Sound i.children := by
  refine reads_bind_of (sound_starred hg) fun x _ hx => ?_
  split
  · exact reads_pure (by simp)
  next e =>
    have he := hx e rfl
    extract_lets behindName
    have hname : ∀ u ts, Reads (behindName u) ts fun i _ => Sound i.children := fun u ts =>
      reads_bind fun _ _ => reads_pure (by simpa using he)
    split
    · exact reads_bind fun u _ => hname u _
    · exact hname () _

lemma sound_selectQuantifier :
    Reads (selectQuantifier g) ts fun ps _ => Sound (partsChildren ps) := by
  refine reads_bind fun _ _ => reads_bind fun distinct _ => reads_bind fun _ _ => ?_
  extract_lets behindDistinct behindColumns
  have hdistinct : ∀ parts ts, Sound (partsChildren parts) →
      Reads (behindDistinct parts) ts fun ps _ => Sound (partsChildren ps) := by
    intro parts ts hparts
    refine reads_bind fun _ _ => ?_
    extract_lets behindTop behindQuantity
    have htop : ∀ top ts, Sound (partsChildren top) →
        Reads (behindTop top) ts fun ps _ => Sound (partsChildren ps) :=
      fun top ts htop => reads_pure (by simpa using ⟨hparts, htop⟩)
    have hquantity : ∀ quantity ts, Sound (partsChildren quantity) →
        Reads (behindQuantity quantity) ts fun ps _ => Sound (partsChildren ps) := by
      intro quantity ts hquantity
      refine reads_bind fun _ _ => reads_bind fun _ _ => ?_
      exact reads_pure_bind (htop _ _ (by simpa using hquantity))
    refine reads_ite (fun _ => ?_) (fun _ => reads_pure_bind (htop _ _ (by simp)))
    refine reads_bind fun _ _ => reads_ite (fun _ => ?_) (fun _ => reads_bind fun _ _ => ?_)
    · refine reads_bind_of (hg.expr _) fun e _ he => reads_bind fun _ _ => ?_
      exact reads_pure_bind (hquantity _ _ (by simpa using he))
    · exact reads_pure_bind (hquantity _ _ (by simp))
  have hcolumns : ∀ columns ts, Sound (partsChildren columns) →
      Reads (behindColumns columns) ts fun ps _ => Sound (partsChildren ps) := by
    intro columns ts hcolumns
    refine reads_bind fun _ _ => ?_
    exact reads_pure_bind (hdistinct _ _ (by simpa using hcolumns))
  refine reads_ite (fun _ => reads_bind fun _ _ => reads_ite (fun _ => ?_) (fun _ => ?_)) ?_
  · refine reads_bind fun _ _ => reads_bind fun _ _ => reads_ite (fun _ => ?_) (fun _ => ?_)
    · exact reads_pure_bind (hcolumns _ _ (by simp))
    · exact reads_bind_of (sound_exprList hg) fun ps _ hps => hcolumns _ _ hps
  · exact reads_pure_bind (hdistinct _ _ (by simp))
  · exact fun _ => reads_pure_bind (hdistinct _ _ (by simp))

lemma sound_namedWindow : Reads (namedWindow g) ts fun ps _ => Sound (partsChildren ps) := by
  refine reads_bind fun _ _ => reads_bind fun _ _ => reads_bind fun _ _ => ?_
  refine reads_bind_of (sound_window hg fun _ => sound_interval hg) fun ps _ hps => ?_
  exact reads_pure (by simpa using hps)

lemma sound_listClause (keys : List String) :
    Reads (listClause g keys) ts fun ps _ => Sound (partsChildren ps) := by
  refine reads_bind fun _ _ => reads_ite (fun _ => ?_) (fun _ => reads_pure (by simp))
  exact reads_bind_of (sound_exprList hg) fun ps _ hps => reads_pure (by simpa using hps)

lemma sound_exprClause (key : String) :
    Reads (exprClause g key) ts fun ps _ => Sound (partsChildren ps) := by
  refine reads_bind fun _ _ => reads_ite (fun _ => ?_) (fun _ => reads_pure (by simp))
  exact reads_bind_of (hg.expr _) fun e _ he => reads_pure (by simpa using he)

lemma sound_windowClause : Reads (windowClause g) ts fun ps _ => Sound (partsChildren ps) := by
  refine reads_bind fun _ _ => reads_ite (fun _ => ?_) (fun _ => reads_pure (by simp))
  refine reads_bind_of (reads_commaSeparated fun ts => sound_namedWindow hg) fun pss _ hpss => ?_
  exact reads_pure (by simpa using hpss)

lemma sound_selectTrailer : Reads (selectTrailer g) ts fun ps _ => Sound (partsChildren ps) := by
  refine reads_bind fun _ _ => ?_
  extract_lets behindGroup
  have hgroup : ∀ group ts, Sound (partsChildren group) →
      Reads (behindGroup group) ts fun ps _ => Sound (partsChildren ps) := by
    intro group ts hgroup
    refine reads_bind_of (sound_listClause hg _) fun cluster _ hcluster => ?_
    refine reads_bind_of (sound_listClause hg _) fun distribute _ hdistribute => ?_
    refine reads_bind_of (sound_listClause hg _) fun sort _ hsort => ?_
    refine reads_bind_of (sound_exprClause hg _) fun having _ hhaving => ?_
    refine reads_bind_of (sound_windowClause hg) fun early _ hearly => ?_
    refine reads_bind_of (sound_exprClause hg _) fun qualify _ hqualify => ?_
    have hlate : ∀ late ts, Sound (partsChildren late) →
        Reads (pure (group ++ cluster ++ distribute ++ sort ++ having ++ early ++ qualify ++ late))
          ts fun ps _ => Sound (partsChildren ps) := fun late ts hlate => reads_pure (by
      simpa using ⟨hgroup, hcluster, hdistribute, hsort, hhaving, hearly, hqualify, hlate⟩)
    exact reads_ite (fun _ => reads_bind_of (sound_windowClause hg) fun late _ h => hlate _ _ h)
      (fun _ => reads_pure_bind (hlate _ _ (by simp)))
  refine reads_ite (fun _ => reads_bind fun _ _ => reads_ite (fun _ => ?_) (fun _ => ?_)) ?_
  · exact reads_pure_bind (hgroup _ _ (by simp))
  · refine reads_bind_of (sound_exprList hg) fun ps _ hps => ?_
    exact reads_pure_bind (hgroup _ _ (by simpa using hps))
  · exact fun _ => reads_pure_bind (hgroup _ _ (by simp))

lemma sound_select : Reads (select g) ts fun s _ => Sound s.children := by
  refine reads_bind fun _ _ => reads_bind_of (sound_selectQuantifier hg) fun quantifier _ hq => ?_
  refine reads_bind_of (reads_commaSeparated fun ts => sound_selectItem hg) fun items _ hitems => ?_
  refine reads_bind fun _ _ => ?_
  extract_lets behindInto
  have hinto : ∀ into ts, Sound (partsChildren into) →
      Reads (behindInto into) ts fun s _ => Sound s.children := by
    intro into ts hinto
    refine reads_bind fun _ _ => ?_
    extract_lets behindSource
    have hsource : ∀ source ts, Sound (partsChildren source) →
        Reads (behindSource source) ts fun s _ => Sound s.children := by
      intro source ts hsource
      refine reads_bind fun _ _ => ?_
      extract_lets behindCondition
      have hcondition : ∀ condition ts, (∀ e ∈ condition, e.IsSound) →
          Reads (behindCondition condition) ts fun s _ => Sound s.children := by
        intro condition ts hcondition
        refine reads_bind_of (sound_selectTrailer hg) fun trailer _ htrailer => reads_pure ?_
        simpa [itemsChildren_eq] using ⟨hq, hitems, hinto, hsource, hcondition, htrailer⟩
      refine reads_ite (fun _ => ?_) (fun _ => reads_pure_bind (hcondition _ _ (by simp)))
      refine reads_bind_of (hg.expr _) fun e _ he => ?_
      exact reads_pure_bind (hcondition _ _ (by simpa using he))
    refine reads_ite (fun _ => ?_) (fun _ => reads_pure_bind (hsource _ _ (by simp)))
    refine reads_bind_of (sound_relations hg) fun ps _ hps => ?_
    exact reads_pure_bind (hsource _ _ (by simpa using hps))
  refine reads_ite (fun _ => ?_) (fun _ => reads_pure_bind (hinto _ _ (by simp)))
  exact reads_bind fun _ _ => reads_bind fun _ _ => reads_bind fun _ _ => reads_bind fun _ _ =>
    reads_pure_bind (hinto _ _ (by simp))

/-! ### Cores of queries -/

lemma sound_values : Reads (values g) ts fun ps _ => Sound (partsChildren ps) := by
  have hrow : ∀ ts, Reads (valueRow g) ts fun x _ => Sound (partsChildren x.1) := by
    intro ts
    refine reads_bind fun _ _ => reads_bind fun _ _ => reads_bind fun _ _ => ?_
    refine reads_ite (fun _ => reads_pure (by simp)) (fun _ => ?_)
    refine reads_bind_of (sound_exprList hg) fun ps _ hps => reads_bind fun _ _ => reads_pure hps
  refine reads_bind_of (reads_commaSeparated hrow) fun rows _ hrows => reads_pure ?_
  simp only [partsChildren, Part.children, List.nil_append, sound_commaParts, List.forall_mem_map]
  exact fun row hmem => by simpa using hrows row hmem

omit hg in
lemma sound_wholeTable : Reads wholeTable ts fun ps _ => Sound (partsChildren ps) := by
  refine reads_bind fun _ _ => reads_bind fun _ _ => reads_bind fun _ _ => ?_
  exact reads_ite
    (fun _ => reads_bind fun _ _ => reads_bind fun _ _ => reads_pure (by simp))
    (fun _ => reads_bind fun _ _ => reads_pure (by simp))

lemma sound_body (power : Nat) : Reads (body g power) ts fun b _ => Sound b.children := by
  refine reads_bind fun _ _ => ?_
  extract_lets behindFirst
  have hfirst : ∀ first ts, Sound first.children →
      Reads (behindFirst first) ts fun b _ => Sound b.children := by
    intro first ts hfirst
    refine reads_loop (I := fun b _ => Sound b.children) ?_ hfirst
    intro left ts hleft
    refine reads_bind fun _ _ => reads_ite (fun _ => reads_pure hleft) (fun _ => ?_)
    refine reads_bind fun _ _ => reads_bind fun _ _ => ?_
    exact reads_bind_of (hg.body _ _) fun right _ hright =>
      reads_pure (by simpa using ⟨hleft, hright⟩)
  refine reads_ite (fun _ => ?_) (fun _ => reads_bind fun _ _ => reads_ite (fun _ => ?_) ?_)
  · refine reads_bind_of (sound_select hg) fun s _ hs => ?_
    exact reads_pure_bind (hfirst _ _ (by simpa using hs))
  · refine reads_bind_of (hg.query _) fun q _ hq => reads_bind fun _ _ => ?_
    exact reads_pure_bind (hfirst _ _ (by simpa using hq))
  · refine fun _ => reads_bind fun _ _ =>
      reads_ite (fun _ => ?_) (fun _ => reads_bind fun _ _ => ?_)
    · exact reads_bind_of (sound_values hg) fun ps _ hps =>
        reads_pure_bind (hfirst _ _ (by simpa using hps))
    · exact reads_bind_of sound_wholeTable fun ps _ hps =>
        reads_pure_bind (hfirst _ _ (by simpa using hps))

/-! ### Changes of rows -/

lemma sound_assignments : Reads (assignments g) ts fun ps _ => Sound (partsChildren ps) := by
  have hassignment : ∀ ts, Reads (assignment g) ts fun ps _ => Sound (partsChildren ps) := by
    intro ts
    refine reads_bind fun _ _ => ?_
    extract_lets behindTarget
    have htarget : ∀ target ts,
        Reads (behindTarget target) ts fun ps _ => Sound (partsChildren ps) := fun target ts =>
      reads_bind fun _ _ => reads_bind_of (hg.expr _) fun e _ he =>
        reads_pure (by simpa using he)
    refine reads_ite (fun _ => ?_) (fun _ => reads_bind fun _ _ => htarget _ _)
    exact reads_bind fun _ _ => reads_bind fun _ _ => reads_pure_bind (htarget _ _)
  refine reads_bind_of (reads_commaSeparated hassignment) fun pss _ hpss => reads_pure ?_
  simpa using hpss

lemma sound_returning : Reads (returning g) ts fun ps _ => Sound (partsChildren ps) := by
  have hparts : ∀ i : SelectItem, partsChildren (returning.itemParts i) = i.children := by
    rintro (_ | _) <;> rfl
  refine reads_bind fun _ _ => reads_ite (fun _ => ?_) (fun _ => reads_pure (by simp))
  refine reads_bind_of (reads_commaSeparated fun ts => sound_selectItem hg) fun items _ hitems => ?_
  exact reads_pure (by simpa [hparts] using hitems)

lemma sound_update : Reads (update g) ts fun ps _ => Sound (partsChildren ps) := by
  refine reads_bind_of (hg.joined _) fun target _ htarget => reads_bind fun _ _ => ?_
  extract_lets behindEarly
  have hearly : ∀ early ts, Sound (partsChildren early) →
      Reads (behindEarly early) ts fun ps _ => Sound (partsChildren ps) := by
    intro early ts hearly
    refine reads_bind fun _ _ => reads_bind_of (sound_assignments hg) fun changes _ hchanges => ?_
    refine reads_bind fun _ _ => ?_
    extract_lets behindLate
    have hlate : ∀ late ts, Sound (partsChildren late) →
        Reads (behindLate late) ts fun ps _ => Sound (partsChildren ps) := by
      intro late ts hlate
      refine reads_bind_of (sound_exprClause hg _) fun condition _ hcondition => ?_
      refine reads_bind_of (sound_returning hg) fun back _ hback => reads_pure ?_
      simpa using ⟨htarget, hearly, hchanges, hlate, hcondition, hback⟩
    refine reads_ite (fun _ => ?_) (fun _ => reads_pure_bind (hlate _ _ (by simp)))
    refine reads_bind_of (sound_relations hg) fun ps _ hps => ?_
    exact reads_pure_bind (hlate _ _ (by simpa using hps))
  refine reads_ite (fun _ => ?_) (fun _ => reads_pure_bind (hearly _ _ (by simp)))
  refine reads_bind_of (sound_relations hg) fun ps _ hps => ?_
  exact reads_pure_bind (hearly _ _ (by simpa using hps))

lemma sound_insert (verb : String) :
    Reads (insert g verb) ts fun ps _ => Sound (partsChildren ps) := by
  refine reads_bind fun _ _ => reads_bind fun _ _ => reads_bind fun _ _ => ?_
  refine reads_bind fun _ _ => reads_bind fun _ _ => reads_bind fun _ _ => ?_
  refine reads_bind fun _ _ => ?_
  extract_lets behindSource behindColumns
  have hsource : ∀ source ts, Sound (partsChildren source) →
      Reads (behindSource source) ts fun ps _ => Sound (partsChildren ps) := by
    intro source ts hsource
    refine reads_bind fun _ _ => ?_
    extract_lets behindLabel
    have hlabel : ∀ label ts,
        Reads (behindLabel label) ts fun ps _ => Sound (partsChildren ps) := by
      intro label ts
      refine reads_bind fun _ _ => ?_
      extract_lets behindDuplicate
      have hduplicate : ∀ duplicate ts, Sound (partsChildren duplicate) →
          Reads (behindDuplicate duplicate) ts fun ps _ => Sound (partsChildren ps) := by
        intro duplicate ts hduplicate
        refine reads_bind_of (sound_returning hg) fun back _ hback => reads_pure ?_
        simpa using ⟨hsource, hduplicate, hback⟩
      refine reads_ite (fun _ => reads_bind fun _ _ => ?_)
        (fun _ => reads_pure_bind (hduplicate _ _ (by simp)))
      refine reads_bind_of (sound_assignments hg) fun ps _ hps => ?_
      exact reads_pure_bind (hduplicate _ _ (by simpa using hps))
    refine reads_ite (fun _ => reads_bind fun _ _ => reads_bind fun _ _ => ?_)
      (fun _ => reads_pure_bind (hlabel _ _))
    exact reads_ite
      (fun _ => reads_bind fun _ _ => reads_bind fun _ _ => reads_pure_bind (hlabel _ _))
      (fun _ => reads_pure_bind (hlabel _ _))
  refine reads_ite (fun _ => reads_pure_bind (hsource _ _ (by simp)))
    (fun _ => reads_bind fun _ _ => reads_bind fun _ _ => ?_)
  have hcolumns : ∀ columns ts,
      Reads (behindColumns columns) ts fun ps _ => Sound (partsChildren ps) := by
    intro columns ts
    refine reads_bind fun _ _ => reads_ite (fun _ => ?_) (fun _ => ?_)
    · refine reads_bind_of (sound_assignments hg) fun ps _ hps => ?_
      exact reads_pure_bind (hsource _ _ (by simpa using hps))
    · refine reads_bind_of (hg.query _) fun q _ hq => ?_
      exact reads_pure_bind (hsource _ _ (by simpa using hq))
  exact reads_ite (fun _ => reads_bind fun _ _ => reads_pure_bind (hcolumns _ _))
    (fun _ => reads_pure_bind (hcolumns _ _))

lemma sound_change : Reads (change g) ts fun ps _ => ∀ x ∈ ps, Sound (partsChildren x) := by
  refine reads_bind fun _ _ => reads_ite (fun _ => ?_) (fun _ => reads_bind fun _ _ => ?_)
  · exact reads_bind_of (sound_insert hg _) fun ps _ hps => reads_pure (by simpa using hps)
  refine reads_ite (fun _ => ?_) (fun _ => reads_pure (by simp))
  exact reads_bind_of (sound_update hg) fun ps _ hps => reads_pure (by simpa using hps)

/-! ### Queries -/

lemma sound_withClause : Reads (withClause g) ts fun ps _ => Sound (partsChildren ps) := by
  have htable : ∀ ts, Reads (commonTable g) ts fun ps _ => Sound (partsChildren ps) := by
    intro ts
    refine reads_bind fun _ _ => reads_bind fun _ _ => ?_
    extract_lets behindColumns
    have hcolumns : ∀ columns ts,
        Reads (behindColumns columns) ts fun ps _ => Sound (partsChildren ps) := by
      intro columns ts
      refine reads_bind fun _ _ => reads_bind fun _ _ => ?_
      refine reads_bind_of (hg.query _) fun q _ hq => reads_bind fun _ _ => ?_
      exact reads_bind fun _ _ => reads_ite
        (fun _ => reads_bind fun _ _ => reads_pure_bind (reads_pure (by simpa using hq)))
        (fun _ => reads_pure_bind (reads_pure (by simpa using hq)))
    exact reads_ite (fun _ => reads_pure_bind (hcolumns _ _))
      (fun _ => reads_bind fun _ _ => hcolumns _ _)
  refine reads_bind fun _ _ => reads_ite (fun _ => ?_) (fun _ => reads_pure (by simp))
  refine reads_bind fun _ _ => ?_
  refine reads_bind_of (reads_commaSeparated htable) fun pss _ hpss => reads_pure ?_
  simpa using hpss

/-- The expressions of the bounds. -/
def Bounds.children (b : Bounds) : List Expr := b.limit.toList ++ (b.offset.map (·.1)).toList

omit hg in
lemma partsChildren_bounds (b : Bounds) : partsChildren b.parts = b.children := by
  obtain ⟨_ | limit, _ | ⟨offset, unit⟩⟩ := b <;> rfl

lemma sound_boundsRound {b : Bounds} (hb : Sound b.children) :
    Reads (boundsRound g b) ts fun b _ => Sound b.children := by
  refine reads_bind fun _ _ => ?_
  extract_lets behindOffset behindLimit
  have hoffset : ∀ b ts, Sound b.children →
      Reads (behindOffset b) ts fun b _ => Sound b.children := by
    rintro ⟨_ | passed, _ | offset⟩ ts hb
    case some.none =>
      -- the number read first turns out to be how many rows are passed over
      refine reads_bind fun _ _ => reads_ite (fun _ => ?_) (fun _ => reads_pure hb)
      refine reads_bind_of (hg.expr _) fun e _ he => reads_pure ?_
      simp_all [Bounds.children]
    all_goals exact reads_pure hb
  have hlimit : ∀ b ts, Sound b.children →
      Reads (behindLimit b) ts fun b _ => Sound b.children := by
    intro b ts hb
    refine reads_bind fun _ _ => reads_ite (fun _ => ?_)
      (fun _ => reads_pure_bind (hoffset _ _ hb))
    refine reads_bind_of (hg.expr _) fun e _ he => reads_bind fun _ _ => ?_
    refine reads_pure_bind (hoffset _ _ ?_)
    obtain ⟨_ | limit, offset⟩ := b <;> simp_all [Bounds.children]
  refine reads_ite (fun _ => reads_bind fun _ _ => reads_ite (fun _ => ?_) (fun _ => ?_))
    (fun _ => reads_pure_bind (hlimit _ _ hb))
  · refine reads_pure_bind (hlimit _ _ ?_)
    simp_all [Bounds.children]
  · refine reads_bind_of (hg.expr _) fun e _ he => reads_pure_bind (hlimit _ _ ?_)
    simp_all [Bounds.children]

omit hg in
lemma sound_fetchClause : Reads fetchClause ts fun ps _ => Sound (partsChildren ps) := by
  refine reads_bind fun _ _ => reads_ite (fun _ => ?_) (fun _ => reads_pure (by simp))
  refine reads_bind fun _ _ => reads_bind fun _ _ => ?_
  extract_lets behindQuantity
  have hquantity : ∀ quantity ts, Sound (partsChildren quantity) →
      Reads (behindQuantity quantity) ts fun ps _ => Sound (partsChildren ps) := by
    intro quantity ts hquantity
    exact reads_bind fun _ _ => reads_ite
      (fun _ => reads_pure_bind (reads_pure (by simpa using hquantity)))
      (fun _ => reads_bind fun _ _ => reads_pure_bind (reads_pure (by simpa using hquantity)))
  split
  · exact reads_pure_bind (hquantity _ _ (by simp))
  · refine reads_bind_of reads_literal fun n _ hn => reads_bind fun _ _ => reads_bind fun _ _ => ?_
    exact reads_pure_bind (hquantity _ _ (by simpa using hn))

omit hg in
lemma sound_lockClauses : Reads lockClauses ts fun ps _ => Sound (partsChildren ps) := by
  refine reads_bind_of (R := fun _ _ => True) ?_ fun text _ _ => reads_pure ?_
  · refine reads_loop (I := fun _ _ => True) (fun _ _ _ => ?_) trivial
    dsimp only
    repeat' first
      | exact reads_pure trivial
      | refine reads_ite (fun _ => ?_) (fun _ => ?_)
      | refine reads_bind fun _ _ => ?_
  · split <;> simp

lemma sound_query : Reads (query g) ts fun q _ => Sound q.children := by
  refine reads_bind_of (sound_withClause hg) fun opening _ hopening => ?_
  refine reads_bind_of (sound_change hg) fun change _ hchange => ?_
  split
  · exact reads_pure (by simpa using ⟨hopening, hchange _ rfl⟩)
  refine reads_bind_of (hg.body _ _) fun core _ hcore => reads_bind fun _ _ => ?_
  extract_lets behindOrder
  have horder : ∀ order ts, Sound (partsChildren order) →
      Reads (behindOrder order) ts fun q _ => Sound q.children := by
    intro order ts horder
    refine reads_bind_of (sound_boundsRound hg (by simp [Bounds.children])) fun first _ hfirst => ?_
    refine reads_bind_of (sound_boundsRound hg hfirst) fun bounds _ hbounds => ?_
    refine reads_bind_of sound_fetchClause fun fetch _ hfetch => ?_
    refine reads_bind_of sound_lockClauses fun locks _ hlocks => reads_pure ?_
    simpa [partsChildren_bounds] using ⟨hopening, hcore, horder, hbounds, hfetch, hlocks⟩
  refine reads_ite (fun _ => ?_) (fun _ => reads_pure_bind (horder _ _ (by simp)))
  refine reads_bind_of (sound_orderItems hg) fun ps _ hps => ?_
  exact reads_pure_bind (horder _ _ (by simpa using hps))

/-! ### The grammar -/

omit hg in
lemma isSound_empty : Grammar.empty.IsSound where
  subexpr _ _ := ⟨fun _ => ⟨fun h => by simp [Grammar.empty] at h⟩⟩
  body _ _ := ⟨fun _ => ⟨fun h => by simp [Grammar.empty] at h⟩⟩
  query _ := ⟨fun _ => ⟨fun h => by simp [Grammar.empty] at h⟩⟩
  joined _ := ⟨fun _ => ⟨fun h => by simp [Grammar.empty] at h⟩⟩

omit hg in
/-- All forms are read sound, however deep they are nested. -/
lemma isSound_grammar (n : Nat) : (grammar n).IsSound := by
  induction n with
  | zero => exact isSound_empty
  | succ n ih =>
    exact {
      subexpr := fun power _ => reads_nest (sound_expression ih (yields_subexpr n) power)
      body := fun power _ => sound_body ih power
      query := fun _ => reads_nest (sound_query ih)
      joined := fun _ => sound_joined ih }

/-! ### Statements -/

omit hg in
/-- A query that is read as a statement is sound; a command is no selection. -/
lemma sound_statementOf (n : Nat) (inner : Parser Statement) (hts : AreWritten ts) :
    Yields (statementOf (grammar n) inner) ts
      fun s _ => s.selection?.isSome = true → Sound s.children := by
  have hquery : Yields (do return Statement.query (← (grammar n).query)) ts
      fun s _ => s.selection?.isSome = true → Sound s.children :=
    yields_bind_of (((isSound_grammar n).query ts).yields hts) fun _ _ hq =>
      yields_pure fun _ => hq.2
  refine yields_bind_of yields_ahead fun tokens middle hmiddle => ?_
  obtain ⟨-, rfl⟩ := hmiddle
  split
  · exact hquery
  · refine yields_ite (fun _ => hquery) (fun _ => ?_)
    refine yields_bind fun _ _ => yields_bind fun parts _ => yields_pure fun h => ?_
    simp [Statement.selection?] at h
  · exact yields_fail

omit hg in
/-- If a text holds one statement only, then that one is read from tokens of the text. -/
lemma sound_statements (n : Nat) (hts : AreWritten ts) :
    Yields (statements n) ts
      fun found _ => ∀ s, found = [s] → s.selection?.isSome = true → Sound s.children := by
  refine yields_loop (I := fun found ts => (found.1 = [] → AreWritten ts) ∧
    ∀ s, found.1 = [s] → s.selection?.isSome = true → Sound s.children) ?_ (by simpa using hts)
  rintro ⟨found, needsDelimiter⟩ ts ⟨hwritten, hsound⟩
  have hall : ∀ s, found.reverse = [s] → s.selection?.isSome = true → Sound s.children :=
    fun s h => hsound s (by simpa using h)
  refine yields_bind_of (yields_symbol ";") fun delimited middle hmiddle => ?_
  obtain ⟨rfl, t, rfl, -⟩ | ⟨rfl, rfl⟩ := hmiddle
  · exact yields_pure ⟨fun hnil => (hwritten hnil).tail, hsound⟩
  refine yields_bind_of yields_ahead fun tokens rest hrest => ?_
  obtain ⟨-, rfl⟩ := hrest
  refine yields_ite (fun _ => yields_pure hall) (fun _ => yields_ite (fun _ => ?_) (fun _ => ?_))
  · exact yields_bind fun _ _ => yields_ite (fun _ => yields_pure hall) (fun _ => yields_fail)
  -- behind another statement nothing is asked of the tokens, since a text with two holds too many
  by_cases hnil : found = []
  · refine yields_bind_of (yields_nest (sound_statementOf n _ (hwritten hnil))) fun s _ hs => ?_
    refine yields_pure ⟨by simp, fun s' h => ?_⟩
    obtain ⟨rfl, -⟩ := List.cons.inj h
    exact hs
  · refine yields_bind fun s _ => yields_pure ⟨by simp, fun s' h => ?_⟩
    exact absurd (List.cons.inj h).2 hnil

end Parser

/-! ### Texts -/

/-- A condition that is read is sound. -/
theorem Expr.isSound_of_readCondition {text : String} {e : Expr}
    (h : Expr.readCondition text = .ok e) : e.IsSound := by
  obtain ⟨ts, d, rest, htokens, hread⟩ := exists_tokens_of_readCondition h
  have hexpr := (Parser.isSound_grammar (Parser.levels ts)).expr ts
  exact ((hexpr.yields (areWritten_of_tokenize htokens)).of_eq_ok hread).2

/-- A selection that is read is sound. -/
theorem Statement.isSound_of_readSelection {text : String} {s : Statement}
    (h : Statement.readSelection text = .ok s) : Sound s.children := by
  obtain ⟨hread, hselection⟩ := Statement.read_of_readSelection h
  obtain ⟨ts, d, rest, htokens, hstatements⟩ := Statement.exists_tokens_of_read hread
  have hsound := Parser.sound_statements (Parser.levels ts) (areWritten_of_tokenize htokens)
  exact hsound.of_eq_ok hstatements s rfl hselection

/-- The condition of a selection that is read is tidy. -/
lemma Statement.isTidy_of_readSelection {text : String} {s : Statement}
    (h : Statement.readSelection text = .ok s) : ∀ e ∈ s.condition?, e.IsTidy := fun e he =>
  (Statement.isSound_of_readSelection h e (Statement.mem_children_of_mem_condition? he)).isTidy

/-- A selection that is read is well joined. -/
theorem Statement.isWellJoined_of_readSelection {text : String} {s : Statement}
    (h : Statement.readSelection text = .ok s) :
    s.IsWellJoined ∧ s.selection?.isSome = true :=
  ⟨fun e he => (Statement.isTidy_of_readSelection h e he).isWellJoined,
    (Statement.read_of_readSelection h).2⟩

end SemanticQuery.Sql
