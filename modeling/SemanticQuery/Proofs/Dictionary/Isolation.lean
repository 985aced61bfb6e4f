import SemanticQuery.Proofs.Dictionary.Refinement

/-!
# Terms of other tenants

Two histories of an index that differ in the entries of other tenants and in look-ups only give a
tenant the same terms by their beginnings, and the same values of dimensions. Terms are found by
their endings whatever tenant their entry names, so there the endings of other tenants count too.
-/

namespace SemanticQuery.Dictionary

/-! ### What is left of a history -/

/-- Whether an entry is everyone's or belongs to a tenant. -/
def Entry.concerns (t : Int) (e : Entry) : Bool := e.tenant.getD 0 == 0 || e.tenant.getD 0 == t

namespace Addition

/-- Whether an addition is everyone's or belongs to a tenant. -/
def concerns (t : Int) : Addition → Bool
  | .term e | .ending e => e.concerns t

/-- Whether an addition is an ending or concerns a tenant. -/
def reaches (t : Int) : Addition → Bool
  | .term e => e.concerns t
  | .ending _ => true

end Addition

namespace Op

/-- What is left of a step without look-ups and without some of the additions. -/
def change? (keeps : Addition → Bool) : Op → Option Op
  | .insert term tenant tags =>
    if keeps (.term ⟨term, tenant, tags⟩) then some (.insert term tenant tags) else none
  | .rebuild additions => some (.rebuild (additions.filter keeps))
  | .reload text =>
    match Entries.load text with
    | .ok es => some (.rebuild (es.additions.filter keeps))
    | .error _ => none
  | .lookupPrefix .. | .lookupSuffix .. => none
  | op => some op

/-- The history without look-ups and without some of the additions. -/
def changes (keeps : Addition → Bool) (ops : List Op) : List Op := ops.filterMap (change? keeps)

end Op

/-! ### Terms that a tenant cannot tell apart -/

/-- The terms of everyone and those of a tenant are the same. So are the endings, if they are all
kept. -/
structure Terms.Agree (t : Int) (keeps : Addition → Bool) (d d' : Terms) : Prop where
  everyone : d.everyone = d'.everyone
  own : d.ofTenant t = d'.ofTenant t
  endings : (∀ e, keeps (.ending e) = true) → d.endings = d'.endings

namespace Terms.Agree

variable {t : Int} {keeps : Addition → Bool} {d d' : Terms}

lemma refl (d : Terms) : d.Agree t keeps d := ⟨rfl, rfl, fun _ => rfl⟩

lemma symm (h : d.Agree t keeps d') : d'.Agree t keeps d :=
  ⟨h.everyone.symm, h.own.symm, fun hall => (h.endings hall).symm⟩

lemma trans {d'' : Terms} (h : d.Agree t keeps d') (h' : d'.Agree t keeps d'') :
    d.Agree t keeps d'' where
  everyone := h.everyone.trans h'.everyone
  own := h.own.trans h'.own
  endings hall := (h.endings hall).trans (h'.endings hall)

lemma insert (h : d.Agree t keeps d') (term : String) (tenant : Option Int) (tags : List String) :
    (d.insert term tenant tags).Agree t keeps (d'.insert term tenant tags) where
  everyone := by rw [everyone_insert, everyone_insert, h.everyone]
  own := by rw [ofTenant_insert, ofTenant_insert, h.own]
  endings := by simpa using h.endings

/-- A term of another tenant makes no difference. -/
lemma insert_left (h : d.Agree t keeps d') {e : Entry} (he : e.concerns t = false) :
    (d.insert e.term e.tenant e.tags).Agree t keeps d' := by
  obtain ⟨hzero, hother⟩ : e.tenant.getD 0 ≠ 0 ∧ e.tenant.getD 0 ≠ t := by
    simpa [Entry.concerns] using he
  exact {
    everyone := by rw [everyone_insert, if_neg hzero, h.everyone]
    own := by rw [ofTenant_insert, if_neg (fun hown => hother hown.2), h.own]
    endings := by simpa using h.endings }

lemma insertSuffix (h : d.Agree t keeps d') (reversedTerm : String) (tags : List String) :
    (d.insertSuffix reversedTerm tags).Agree t keeps (d'.insertSuffix reversedTerm tags) where
  everyone := h.everyone
  own := h.own
  endings hkeeps := by rw [Terms.insertSuffix, Terms.insertSuffix, h.endings hkeeps]

lemma remove (h : d.Agree t keeps d') (term : String) (retained : List String) :
    (d.remove term retained).Agree t keeps (d'.remove term retained) where
  everyone := by rw [Terms.remove, Terms.remove, h.everyone]
  own := h.own
  endings hkeeps := by rw [Terms.remove, Terms.remove, h.everyone, h.endings hkeeps]

lemma build {b b' : Draft} (h : b.terms.Agree t keeps b'.terms)
    (hendings : (∀ e, keeps (.ending e) = true) → b.endings = b'.endings) :
    b.build.Agree t keeps b'.build where
  everyone := by simpa using h.everyone
  own := by simpa using h.own
  endings hall := by
    rw [Draft.build, Draft.build, hendings hall]
    refine List.foldl_rel (r := fun d d' : Terms => d.endings = d'.endings) (h.endings hall)
      fun ending _ d d' heq => ?_
    rw [Terms.insertSuffix, Terms.insertSuffix, heq]

section

variable (hkeeps : ∀ e : Entry, e.concerns t = true → keeps (.term e) = true)

include hkeeps

lemma build_filter (additions : List Addition) {b b' : Draft} (h : b.terms.Agree t keeps b'.terms)
    (hendings : (∀ e, keeps (.ending e) = true) → b.endings = b'.endings) :
    (additions.foldl Draft.give b).build.Agree t keeps
      ((additions.filter keeps).foldl Draft.give b').build := by
  induction additions generalizing b b' with
  | nil => exact build h hendings
  | cons a additions ih =>
    rw [List.filter_cons]
    cases a with
    | term e =>
      split_ifs with he
      · exact ih (h.insert e.term e.tenant e.tags) hendings
      · exact ih (h.insert_left (by simpa using mt (hkeeps e) he)) hendings
    | ending e =>
      split_ifs with he
      · refine ih h fun hall => ?_
        rw [Draft.give, Draft.give, hendings hall]
      · -- without this ending the endings need not agree any more
        exact ih h fun hall => absurd (hall e) he

lemma rebuild (additions : List Addition) :
    (additions.foldl Draft.give .empty).build.Agree t keeps
      ((additions.filter keeps).foldl Draft.give .empty).build :=
  build_filter hkeeps additions (refl _) fun _ => rfl

/-- One step of the whole history is what is left of it, or makes no difference. -/
lemma step (h : d.Agree t keeps d') (op : Op) :
    (d.step op).Agree t keeps ((op.change? keeps).elim d' d'.step) := by
  cases op with
  | insert term tenant tags =>
    rw [Op.change?]
    split_ifs with hkept
    · exact h.insert term tenant tags
    · exact h.insert_left (e := ⟨term, tenant, tags⟩) (by simpa using mt (hkeeps _) hkept)
  | insertSuffix reversedTerm tags => exact h.insertSuffix reversedTerm tags
  | remove term retained => exact h.remove term retained
  | clear => exact refl _
  | rebuild additions => exact rebuild hkeeps additions
  | reload text =>
    rw [Op.change?, Terms.step]
    cases Entries.load text with
    | error _ => exact h
    | ok es => exact rebuild hkeeps es.additions
  | lookupPrefix tenant text limit scope => exact h
  | lookupSuffix text limit scope => exact h

lemma run (h : d.Agree t keeps d') (ops : List Op) :
    (d.run ops).Agree t keeps (d'.run (Op.changes keeps ops)) := by
  induction ops generalizing d d' with
  | nil => exact h
  | cons op ops ih =>
    have hstep := h.step hkeeps op
    rw [Op.changes, List.filterMap_cons]
    cases hchange : op.change? keeps with
    | none => exact ih (by simpa [hchange] using hstep)
    | some change => exact ih (by simpa [hchange] using hstep)

/-- Histories of which the same is left have terms that the tenant cannot tell apart. -/
lemma of_changes_eq {ops ops' : List Op} (h : Op.changes keeps ops = Op.changes keeps ops') :
    (empty.run ops).Agree t keeps (empty.run ops') := by
  have hrun := (refl empty).run hkeeps ops
  have hrun' := (refl empty).run hkeeps ops'
  rw [← h] at hrun'
  exact hrun.trans hrun'.symm

end

/-! ### Look-ups -/

lemma lookupPrefix_eq (h : d.Agree t keeps d') {t' : Int} (ht : t' = t ∨ t' ≤ 0) (size : ℕ)
    (text : String) (limit : ℕ) (scope : Scope) :
    d.lookupPrefix size t' text limit scope = d'.lookupPrefix size t' text limit scope := by
  rw [lookupPrefix, lookupPrefix, h.everyone]
  rcases ht with rfl | ht
  · rw [h.own]
  · -- who is no tenant is never given the terms of one
    simp [Int.not_lt.mpr ht]

lemma lookupSuffix_eq (h : d.Agree t keeps d') (hall : ∀ e, keeps (.ending e) = true) (size : ℕ)
    (text : String) (limit : ℕ) (scope : Scope) :
    d.lookupSuffix size text limit scope = d'.lookupSuffix size text limit scope := by
  rw [lookupSuffix, lookupSuffix, h.endings hall]

lemma dimensionValues_eq (h : d.Agree t keeps d') (model element : Int) :
    d.dimensionValues model element = d'.dimensionValues model element := by
  rw [dimensionValues, dimensionValues, h.everyone]

end Terms.Agree

namespace Index

/-- A tenant gets the same answers from two histories that are equal without the entries of other
tenants and without look-ups, and so does who is no tenant. Look-ups of endings need the same
endings, also those that name other tenants. -/
theorem lookups_eq_of_changes_eq (size : ℕ) {t t' : Int} (ht : t' = t ∨ t' ≤ 0)
    (ops ops' : List Op) :
    let i := (ofSnapshot size .empty).run ops
    let j := (ofSnapshot size .empty).run ops'
    (Op.changes (Addition.concerns t) ops = Op.changes (Addition.concerns t) ops' →
      (∀ text limit scope,
        (i.lookupPrefix t' text limit scope).1 = (j.lookupPrefix t' text limit scope).1) ∧
      ∀ model element,
        i.current.dimensionValues model element = j.current.dimensionValues model element) ∧
    (Op.changes (Addition.reaches t) ops = Op.changes (Addition.reaches t) ops' →
      ∀ text limit scope, i.lookupSuffix text limit scope = j.lookupSuffix text limit scope) := by
  intro i j
  have hi : i.current.Represents (Terms.empty.run ops) := represents_run_empty size ops
  have hj : j.current.Represents (Terms.empty.run ops') := represents_run_empty size ops'
  have hisize : i.searchSize = size := searchSize_run _ ops
  have hjsize : j.searchSize = size := searchSize_run _ ops'
  constructor
  · intro hconcerns
    have hagree : (Terms.empty.run ops).Agree t (Addition.concerns t) (Terms.empty.run ops') :=
      .of_changes_eq (fun _ he => he) hconcerns
    refine ⟨fun text limit scope => ?_, fun model element => ?_⟩
    · rw [lookupPrefix, lookupPrefix, hisize, hjsize]
      calc (i.current.lookupPrefix size t' text limit scope).1
          = (Terms.empty.run ops).lookupPrefix size t' text limit scope :=
            hi.lookupPrefix_fst size t' text limit scope
        _ = (Terms.empty.run ops').lookupPrefix size t' text limit scope :=
            hagree.lookupPrefix_eq ht size text limit scope
        _ = (j.current.lookupPrefix size t' text limit scope).1 :=
            (hj.lookupPrefix_fst size t' text limit scope).symm
    · rw [hi.dimensionValues, hj.dimensionValues, hagree.dimensionValues_eq]
  · intro hreaches text limit scope
    have hagree : (Terms.empty.run ops).Agree t (Addition.reaches t) (Terms.empty.run ops') :=
      .of_changes_eq (fun _ he => he) hreaches
    rw [lookupSuffix, lookupSuffix, hisize, hjsize, hi.lookupSuffix, hj.lookupSuffix,
      hagree.lookupSuffix_eq fun _ => rfl]

/-- Tenant 7 finds its own term where everyone has none, whatever tenants 3 and 9 have. -/
theorem lookups_eq_of_changes_eq_seven :
    let ops : List Op :=
      [.clear, .insert "abcde" (some 3) ["_1_2"], .rebuild [.term ⟨"abc", some 7, ["_1_2"]⟩,
        .ending ⟨"xyz", some 3, ["_4_5_metric_suffix"]⟩], .lookupPrefix 7 "q" 5 .all,
        .insert "abcd" (some 3) ["_1_2"], .insert "xyz" none ["_4_5"]]
    let ops' : List Op :=
      [.clear, .insert "q" (some 9) ["_1_2"], .rebuild [.term ⟨"abc", some 7, ["_1_2"]⟩,
        .term ⟨"abcd", some 9, ["_1_2"]⟩, .ending ⟨"xyz", some 3, ["_4_5_metric_suffix"]⟩],
        .insert "xyz" none ["_4_5"]]
    let i := (ofSnapshot 10 .empty).run ops
    let j := (ofSnapshot 10 .empty).run ops'
    Op.changes (Addition.concerns 7) ops = Op.changes (Addition.concerns 7) ops' ∧
      Op.changes (Addition.reaches 7) ops = Op.changes (Addition.reaches 7) ops' ∧
      (i.lookupPrefix 7 "ABC" 5 .all).1 = (j.lookupPrefix 7 "ABC" 5 .all).1 ∧
      (j.lookupPrefix 7 "ABC" 5 .all).1 = [⟨"abc", ["_1_2"], "ABC"⟩] ∧
      i.lookupSuffix "yz" 5 .all = j.lookupSuffix "yz" 5 .all ∧
      j.lookupSuffix "yz" 5 .all = [⟨"xyz", ["_4_5_metric"], "yz"⟩] := by
  intro ops ops' i j
  have h := lookups_eq_of_changes_eq 10 (t := 7) (.inl rfl) ops ops'
  exact ⟨rfl, rfl, (h.1 rfl).1 _ _ _, by decide +kernel, h.2 rfl _ _ _, by decide +kernel⟩

/-- An ending that names tenant 7 is found by everyone. -/
theorem lookupSuffix_ne_of_ending :
    let ops : List Op := [.rebuild [.ending ⟨"访问次数", some 7, ["_2_11_metric_suffix"]⟩]]
    let ops' : List Op := [.rebuild []]
    Op.changes (Addition.concerns 3) ops = Op.changes (Addition.concerns 3) ops' ∧
      ((ofSnapshot 200 .empty).run ops).lookupSuffix "次数" 10 .all ≠
        ((ofSnapshot 200 .empty).run ops').lookupSuffix "次数" 10 .all := by
  intro ops ops'
  have hfound : ((ofSnapshot 200 .empty).run ops).lookupSuffix "次数" 10 .all =
      [⟨"访问次数", ["_2_11_metric"], "次数"⟩] := by
    decide +kernel
  have hnone : ((ofSnapshot 200 .empty).run ops').lookupSuffix "次数" 10 .all = [] := by
    decide +kernel
  refine ⟨rfl, ?_⟩
  rw [hfound, hnone]
  exact List.cons_ne_nil _ _

end Index

end SemanticQuery.Dictionary
