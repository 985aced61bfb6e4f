import Mathlib.Data.List.Infix
import Mathlib.Tactic.Common
import SemanticQuery.Pattern.Search

/-!
# Matches

Every end of a pattern lies further on in the text that it is matched in, so a match is a part of
the text. A search stops at the first place from which the pattern has an end, and takes the end
that the pattern prefers there.
-/

namespace SemanticQuery.Pattern

namespace Place

/-- A place lies further on in the same text. -/
def Leads (p q : Place) : Prop :=
  ∃ word after, p.after = word ++ after ∧
    q = ⟨p.offset + word.length, word.reverse ++ p.before, after⟩

variable {p q start : Place} {ps : List Place}

lemma leads_refl (p : Place) : p.Leads p := ⟨[], p.after, rfl, rfl⟩

lemma Leads.trans (hp : start.Leads p) (hq : p.Leads q) : start.Leads q := by
  obtain ⟨word, after, hstart, rfl⟩ := hp
  obtain ⟨word', after', hafter, rfl⟩ := hq
  refine ⟨word ++ word', after', ?_, ?_⟩
  · rw [hstart, show after = word' ++ after' from hafter, List.append_assoc]
  · simp [Nat.add_assoc]

lemma leads_of_mem_step {c : CharClass} (h : q ∈ p.step c) : p.Leads q := by
  unfold step at h
  cases hafter : p.after with
  | nil => simp [hafter] at h
  | cons d rest =>
    rw [hafter] at h
    dsimp only at h
    split at h
    · obtain rfl := Option.mem_some.mp h
      exact ⟨[d], rest, hafter, rfl⟩
    · simp at h

lemma mem_of_mem_distinct (h : q ∈ distinct ps) : q ∈ ps := by
  -- what is kept so far comes from the list
  refine List.foldlRecOn (motive := fun state : List ℕ × List Place => ∀ q ∈ state.2, q ∈ ps)
    ps _ ?_ ?_ q (List.mem_reverse.mp h)
  · exact fun q hq => absurd hq List.not_mem_nil
  · rintro ⟨seen, kept⟩ hkept p hp q hq
    dsimp only at hq
    split at hq
    · exact hkept q hq
    · rcases List.mem_cons.mp hq with rfl | hq
      · exact hp
      · exact hkept q hq

end Place

/-! ### Repetition -/

section

variable {body : Place → List Place} {start p q : Place}

/-- All places that a repetition has found lie further on. -/
def Rounds.AllLead (r : Rounds) (start : Place) : Prop := ∀ q ∈ r.found, start.Leads q

lemma Rounds.AllLead.cons {r : Rounds} (h : r.AllLead start) (hp : start.Leads p)
    (seen : List (Option ℕ × ℕ)) : Rounds.AllLead ⟨seen, p :: r.found⟩ start := by
  intro q hq
  rcases List.mem_cons.mp hq with rfl | hq
  · exact hp
  · exact h q hq

lemma allLead_foldl {f : Rounds → Place → Rounds} {ps : List Place} {r : Rounds}
    (hps : ∀ q ∈ ps, start.Leads q) (hr : r.AllLead start)
    (hf : ∀ r q, start.Leads q → Rounds.AllLead r start → (f r q).AllLead start) :
    (ps.foldl f r).AllLead start :=
  List.foldlRecOn (motive := fun r => Rounds.AllLead r start) ps f hr
    fun r hr q hq => hf r q (hps q hq) hr

/-- What a repetition finds in the rounds behind a place. -/
def further (body : Place → List Place) (greedy : Bool) (fuel : ℕ) (left : Option ℕ) (p : Place)
    (r : Rounds) : Rounds :=
  match left with
  | some 0 => r
  | some (n + 1) => (body p).foldl (fun r q => rounds body greedy fuel r (some n) q) r
  | none => (body p).foldl
      (fun r q => if q.offset == p.offset then { r with found := p :: r.found }
        else rounds body greedy fuel r none q) r

/-- The place itself is found behind those of further rounds if the repetition is greedy, and
before them if it is not. -/
lemma rounds_succ (body : Place → List Place) (greedy : Bool) (fuel : ℕ) (r : Rounds)
    (left : Option ℕ) (p : Place) :
    rounds body greedy (fuel + 1) r left p =
      if r.seen.contains (left, p.offset) then r
      else
        let r : Rounds := { r with seen := (left, p.offset) :: r.seen }
        if greedy then
          let r := further body greedy fuel left p r
          { r with found := p :: r.found }
        else further body greedy fuel left p { r with found := p :: r.found } := by
  rfl

/-- Rounds that start further on find places further on. -/
lemma allLead_rounds (hbody : ∀ p, ∀ q ∈ body p, p.Leads q) (greedy : Bool) (fuel : ℕ)
    {r : Rounds} (left : Option ℕ) (hp : start.Leads p) (hr : r.AllLead start) :
    (rounds body greedy fuel r left p).AllLead start := by
  induction fuel generalizing r left p with
  | zero => exact hr
  | succ fuel ih =>
    have hnext : ∀ q ∈ body p, start.Leads q := fun q hq => hp.trans (hbody p q hq)
    have hfurther : ∀ r : Rounds, r.AllLead start →
        (further body greedy fuel left p r).AllLead start := by
      intro r hr
      rcases left with _ | _ | n
      · refine allLead_foldl hnext hr fun r q hq hr => ?_
        split
        · exact hr.cons hp r.seen
        · exact ih none hq hr
      · exact hr
      · exact allLead_foldl hnext hr fun r q hq hr => ih (some n) hq hr
    rw [rounds_succ]
    split
    · exact hr
    · cases greedy with
      | true => exact (hfurther ⟨(left, p.offset) :: r.seen, r.found⟩ hr).cons hp _
      | false => exact hfurther ⟨(left, p.offset) :: r.seen, p :: r.found⟩ (hr.cons hp _)

lemma leads_of_mem_upTo (hbody : ∀ p, ∀ q ∈ body p, p.Leads q) {greedy : Bool} {left : Option ℕ}
    (h : q ∈ upTo body greedy left p) : p.Leads q := by
  refine allLead_rounds hbody greedy _ left p.leads_refl ?_ q (List.mem_reverse.mp h)
  exact fun _ hnone => absurd hnone List.not_mem_nil

lemma leads_of_mem_exactly (hbody : ∀ p, ∀ q ∈ body p, p.Leads q) {n : ℕ} {ps : List Place}
    (hps : ∀ q ∈ ps, start.Leads q) (h : q ∈ exactly body n ps) : start.Leads q := by
  induction n generalizing ps with
  | zero => exact hps q h
  | succ n ih =>
    rw [exactly] at h
    split at h
    · exact absurd h List.not_mem_nil
    · refine ih (fun q hq => ?_) h
      obtain ⟨p, hp, hq⟩ := List.mem_flatMap.mp (Place.mem_of_mem_distinct hq)
      exact (hps p hp).trans (hbody p q hq)

end

/-! ### Ends -/

namespace Tree

/-- Every end of a pattern lies further on. -/
lemma leads_of_mem_ends (t : Tree) {p q : Place} (h : q ∈ t.ends p) : p.Leads q := by
  induction t generalizing p q with
  | empty =>
    obtain rfl := List.mem_singleton.mp h
    exact q.leads_refl
  | char c => exact Place.leads_of_mem_step (Option.mem_toList.mp h)
  | anchor a =>
    rw [ends] at h
    split at h
    · obtain rfl := List.mem_singleton.mp h
      exact q.leads_refl
    · exact absurd h List.not_mem_nil
  | seq first second ihfirst ihsecond =>
    obtain ⟨middle, hfirst, hsecond⟩ := List.mem_flatMap.mp (Place.mem_of_mem_distinct h)
    exact (ihfirst hfirst).trans (ihsecond hsecond)
  | alt first second ihfirst ihsecond =>
    rcases List.mem_append.mp (Place.mem_of_mem_distinct h) with hfirst | hsecond
    · exact ihfirst hfirst
    · exact ihsecond hsecond
  | times greedy least most body ih =>
    have hbody : ∀ p, ∀ q ∈ body.ends p, p.Leads q := fun p q hq => ih hq
    obtain ⟨middle, hleast, hmore⟩ := List.mem_flatMap.mp (Place.mem_of_mem_distinct h)
    have hmiddle : p.Leads middle := by
      refine leads_of_mem_exactly hbody (fun q hq => ?_) hleast
      obtain rfl := List.mem_singleton.mp hq
      exact q.leads_refl
    exact hmiddle.trans (leads_of_mem_upTo hbody hmore)

/-! ### First matches -/

/-- From none of the first `n` places of a text the pattern has an end. -/
def NoEndsBefore (t : Tree) (text : List Char) (n : ℕ) : Prop :=
  ∀ start rest, text = start ++ rest → start.length < n →
    t.ends ⟨start.length, start.reverse, rest⟩ = []

/-- The first match of a pattern in a text is `word`, behind `before`: from no earlier place has the
pattern an end, and from this place it prefers the one behind `word`. -/
structure IsFirstMatch (t : Tree) (text before word after : List Char) : Prop where
  text_eq : text = before ++ (word ++ after)
  preferred : (t.ends ⟨before.length, before.reverse, word ++ after⟩).head? =
    some ⟨before.length + word.length, word.reverse ++ before.reverse, after⟩
  first : t.NoEndsBefore text before.length

variable {t : Tree} {text before word after passed rest : List Char} {n : ℕ}

lemma NoEndsBefore.succ (h : t.NoEndsBefore text passed.length) (htext : text = passed ++ rest)
    (hends : t.ends ⟨passed.length, passed.reverse, rest⟩ = []) :
    t.NoEndsBefore text (passed.length + 1) := by
  intro start more hstart hlt
  rcases Nat.lt_succ_iff_lt_or_eq.mp hlt with hlt | hlength
  · exact h start more hstart hlt
  · obtain ⟨rfl, rfl⟩ := List.append_inj (htext.symm.trans hstart) hlength.symm
    exact hends

namespace IsFirstMatch

lemma le_length (h : t.IsFirstMatch text before word after) (hnone : t.NoEndsBefore text n) :
    n ≤ before.length := by
  by_contra hlt
  have hends := hnone before (word ++ after) h.text_eq (Nat.lt_of_not_le hlt)
  have hpreferred := h.preferred
  rw [hends] at hpreferred
  exact absurd hpreferred (by simp)

/-- There is one first match. -/
lemma length_eq {before' word' after' : List Char} (h : t.IsFirstMatch text before word after)
    (h' : t.IsFirstMatch text before' word' after') : word.length = word'.length := by
  have hlength : before.length = before'.length :=
    Nat.le_antisymm (h'.le_length h.first) (h.le_length h'.first)
  obtain ⟨rfl, hrest⟩ := List.append_inj (h.text_eq.symm.trans h'.text_eq) hlength
  have hpreferred := h.preferred
  rw [hrest, h'.preferred, Option.some.injEq, Place.mk.injEq] at hpreferred
  omega

end IsFirstMatch

/-- The preferred end from a place is the end of a first match if no earlier place has an end. -/
lemma exists_isFirstMatch (htext : text = passed ++ rest)
    (hpassed : t.NoEndsBefore text passed.length) {p : Place}
    (hhead : (t.ends ⟨passed.length, passed.reverse, rest⟩).head? = some p) :
    ∃ word after, t.IsFirstMatch text passed word after ∧
      p.offset - passed.length = word.length := by
  obtain ⟨word, after, hrest, rfl⟩ := t.leads_of_mem_ends (List.mem_of_head? hhead)
  obtain rfl : rest = word ++ after := hrest
  exact ⟨word, after, ⟨htext, hhead, hpassed⟩, Nat.add_sub_cancel_left _ _⟩

lemma searchFrom_of_head {p : Place} {offset : ℕ}
    (hhead : (t.ends ⟨offset, before, rest⟩).head? = some p) :
    t.searchFrom offset before rest = some (p.offset - offset) := by
  cases rest <;> rw [searchFrom, hhead]

/-- A place that has an end stops the search. -/
lemma searchFrom_eq_some_iff_of_head (htext : text = passed ++ rest)
    (hpassed : t.NoEndsBefore text passed.length) {p : Place}
    (hhead : (t.ends ⟨passed.length, passed.reverse, rest⟩).head? = some p) (n : ℕ) :
    t.searchFrom passed.length passed.reverse rest = some n ↔
      ∃ before word after, t.IsFirstMatch text before word after ∧ word.length = n := by
  obtain ⟨word, after, hmatch, hoffset⟩ := exists_isFirstMatch htext hpassed hhead
  rw [searchFrom_of_head hhead, hoffset, Option.some.injEq]
  constructor
  · intro hn
    exact ⟨passed, word, after, hmatch, hn⟩
  · rintro ⟨before', word', after', hmatch', hn⟩
    rw [hmatch.length_eq hmatch', hn]

lemma searchFrom_eq_some_iff (htext : text = passed ++ rest)
    (hpassed : t.NoEndsBefore text passed.length) (n : ℕ) :
    t.searchFrom passed.length passed.reverse rest = some n ↔
      ∃ before word after, t.IsFirstMatch text before word after ∧ word.length = n := by
  induction rest generalizing passed with
  | nil =>
    cases hhead : (t.ends ⟨passed.length, passed.reverse, []⟩).head? with
    | some p => exact searchFrom_eq_some_iff_of_head htext hpassed hhead n
    | none =>
      rw [searchFrom, hhead]
      refine iff_of_false (by simp) ?_
      rintro ⟨before, word, after, h, -⟩
      -- a match would begin behind the end of the text
      have hlt := h.le_length (hpassed.succ htext (List.head?_eq_none_iff.mp hhead))
      have hle : before.length ≤ text.length := by
        rw [h.text_eq, List.length_append]
        omega
      rw [htext, List.append_nil] at hle
      omega
  | cons c rest ih =>
    cases hhead : (t.ends ⟨passed.length, passed.reverse, c :: rest⟩).head? with
    | some p => exact searchFrom_eq_some_iff_of_head htext hpassed hhead n
    | none =>
      have hnone : t.NoEndsBefore text (passed ++ [c]).length := by
        rw [List.length_append]
        exact hpassed.succ htext (List.head?_eq_none_iff.mp hhead)
      have hnext := ih (by rw [htext, List.append_assoc]; rfl) hnone
      rw [searchFrom, hhead]
      rwa [List.length_append, List.reverse_append] at hnext

/-- The length of a match is that of the part of the text that is matched first. -/
theorem matchLength?_eq_some_iff (t : Tree) (text : String) (n : ℕ) :
    t.matchLength? text = some n ↔
      ∃ before word after, t.IsFirstMatch text.toList before word after ∧ word.length = n := by
  have htext : text.toList = [] ++ text.toList := rfl
  exact searchFrom_eq_some_iff htext (fun _ _ _ hlt => absurd hlt (Nat.not_lt_zero _)) n

end Tree

end SemanticQuery.Pattern
