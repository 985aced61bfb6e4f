import Mathlib.Data.List.Sort
import SemanticQuery.Proofs.Plugin.Choice
import SemanticQuery.Proofs.Plugin.Repetition

/-!
# The scope of a recalled plugin

A recalled plugin gets one candidate for every model that it declares and that is asked for, or one
that is bound to no model. Each of them carries what was found for its model, and the filters that
the values and ids among it ask for.
-/

namespace SemanticQuery

open Number

/-! ### Models in scope -/

namespace Plugin

variable {p : Plugin} {requested models : List Int} {m : Int}

/-- A plugin answers for a model: it declares it, and the model is requested if any is. -/
def AnswersFor (p : Plugin) (requested : List Int) (m : Int) : Prop :=
  m ∈ p.models ∧ (requested = [] ∨ m ∈ requested)

/-- The models that a recalled plugin gets candidates for. -/
inductive IsScope (p : Plugin) (requested : List Int) : List Int → Prop
  /-- A plugin that serves all models, or answers for none in particular. -/
  | any : (p.servesAll = true ∨ ∀ m, ¬p.AnswersFor requested m) → IsScope p requested [anyModel]
  /-- The models that the plugin answers for, each once and in ascending order. -/
  | each {models : List Int} : p.servesAll = false → models ≠ [] → models.Pairwise (· < ·) →
      (∀ m, m ∈ models ↔ p.AnswersFor requested m) → IsScope p requested models

/-- The eligible models are those that the plugin answers for, in the order in which it declares
them. -/
lemma of_eligibleModels (hall : p.servesAll = false)
    (h : p.eligibleModels requested = some models) :
    models.Sublist p.models ∧ ∀ m, m ∈ models ↔ p.AnswersFor requested m := by
  unfold eligibleModels at h
  rw [if_neg (by simp [hall])] at h
  split at h
  next hnone =>
    obtain rfl := Option.some.inj h
    exact ⟨.refl _, fun m => by simp [AnswersFor, List.isEmpty_iff.mp hnone]⟩
  next hsome =>
    dsimp only at h
    split at h
    next => simp at h
    next =>
      obtain rfl := Option.some.inj h
      refine ⟨List.filter_sublist, fun m => ?_⟩
      have hne : requested ≠ [] := by simpa using hsome
      simp [AnswersFor, hne]

end Plugin

/-- The models that a recalled plugin gets candidates for. -/
def Recalled.scope (r : Recalled) : List Int :=
  if r.plugin.servesAll || r.models.isEmpty then [anyModel] else r.models

lemma Recalled.isScope_scope {r : Recalled} {requested : List Int}
    (hmodels : r.plugin.models.Pairwise (· < ·))
    (h : r.plugin.eligibleModels requested = some r.models) :
    r.plugin.IsScope requested r.scope := by
  unfold scope
  cases hall : r.plugin.servesAll with
  | true => exact .any (.inl hall)
  | false =>
    obtain ⟨hsublist, hmem⟩ := Plugin.of_eligibleModels hall h
    rw [Bool.false_or]
    split
    next hnone =>
      refine .any (.inr fun m => ?_)
      rw [← hmem, List.isEmpty_iff.mp hnone]
      exact List.not_mem_nil
    next hsome => exact .each hall (by simpa using hsome) (hmodels.sublist hsublist) hmem

/-! ### What is chosen -/

namespace Recaller

variable {r : Recaller} {ctx : QueryContext} {c : Recalled}

/-- A step keeps the best plugin so far or takes the next one, which is eligible then. -/
lemma better_cases (requested : List Int) (text : String) (best : Option Recalled)
    (next : Plugin × List Trigger) :
    better requested text best next = best ∨
      ∃ c, better requested text best next = some c ∧ c.plugin = next.1 ∧
        next.1.eligibleModels requested = some c.models := by
  unfold better
  dsimp only
  split
  next => exact .inl rfl
  next =>
    split
    next => exact .inl rfl
    next models hmodels =>
      split
      next => exact .inr ⟨_, rfl, rfl, hmodels⟩
      next best =>
        split
        next => exact .inr ⟨_, rfl, rfl, hmodels⟩
        next => exact .inl rfl

/-- What is chosen is one of the plugins, with the models that it is eligible for. -/
lemma of_choose (h : r.choose ctx = some c) :
    (∃ entry ∈ r, entry.1 = c.plugin) ∧ c.plugin.eligibleModels ctx.models = some c.models := by
  induction r using List.reverseRecOn with
  | nil => simp [choose] at h
  | append_singleton r entry ih =>
    rw [choose, List.foldl_concat] at h
    change better ctx.models ctx.text (Recaller.choose r ctx) entry = some c at h
    rcases better_cases ctx.models ctx.text (Recaller.choose r ctx) entry with
      hbest | ⟨c', hc', hplugin, heligible⟩
    · obtain ⟨⟨entry', hentry', hplugin⟩, heligible⟩ := ih (hbest.symm.trans h)
      exact ⟨⟨entry', List.mem_append_left _ hentry', hplugin⟩, heligible⟩
    · obtain rfl : c' = c := Option.some.inj (hc'.symm.trans h)
      rw [hplugin]
      exact ⟨⟨entry, by simp, rfl⟩, heligible⟩

end Recaller

/-! ### Candidates -/

/-- A filter asks for the word of a match. -/
structure Filter.AsksFor (m : ElementMatch) (f : Filter) : Prop where
  operator : f.operator = .equals
  value : f.value = .string m.word
  elementId : f.elementId = some m.element.id
  name : f.name = m.element.name
  bizName : f.bizName = m.element.bizName

/-- A candidate of a recalled plugin for a model: it carries what was found for the model, the score
of the recall and one filter for each value and each id that was found. -/
structure Candidate.IsProposal (ctx : QueryContext) (r : Recalled) (model : Int) (c : Candidate) :
    Prop where
  model_eq : c.model = some model
  elementMatches : c.elementMatches = ctx.matchesFor model
  score : c.score = .ofNat r.score
  filters : List.Forall₂ Filter.AsksFor
    ((ctx.matchesFor model).filter fun m => m.element.kind = .value ∨ m.element.kind = .id) c.filters

namespace Engine

variable {e : Engine} {ctx : QueryContext} {r : Recalled}

/-- The models of every plugin ascend. -/
def IsOrdered (e : Engine) : Prop := ∀ entry ∈ e.recaller, entry.1.models.Pairwise (· < ·)

/-- A request recalls a plugin. -/
structure Recalls (e : Engine) (ctx : QueryContext) (r : Recalled) : Prop where
  skips : e.skips ctx = false
  isReady : e.recaller.isReady ctx = true
  choose : e.recaller.choose ctx = some r

lemma Recalls.recalled_eq (h : e.Recalls ctx r) :
    e.recalled ctx = fillFields ctx.candidates (r.scope.map (e.candidateFor ctx r)) := by
  rw [recalled, h.skips, h.isReady, h.choose]
  rfl

lemma forall₂_elementFilters (found : List ElementMatch) :
    List.Forall₂ Filter.AsksFor
      (found.filter fun m => m.element.kind = .value ∨ m.element.kind = .id)
      (elementFilters found) := by
  have hkind : ∀ m : ElementMatch,
      decide (m.element.kind = .value ∨ m.element.kind = .id) = m.element.kind.isFilterable := by
    intro m
    cases m.element.kind <;> rfl
  simp only [hkind, elementFilters]
  exact List.forall₂_map_right_iff.mpr
    (List.forall₂_same.mpr fun m _ => ⟨rfl, rfl, rfl, rfl, rfl⟩)

/-- Filling in the fields of its query leaves a candidate a proposal. -/
lemma isProposal_candidateFor (e : Engine) (ctx : QueryContext) (r : Recalled) (model : Int)
    (sql : SqlInfo) : Candidate.IsProposal ctx r model { e.candidateFor ctx r model with sql } where
  model_eq := rfl
  elementMatches := rfl
  score := rfl
  filters := forall₂_elementFilters _

/-- A request that recalls a plugin gets candidates behind its own: one for every model in scope, in
their order, each with what was found for its model. The scope of a plugin that does not serve all
models is what it declares, and what is requested if anything is. -/
theorem parse_recalls (hordered : e.IsOrdered) (h : e.Recalls ctx r) :
    (∃ entry ∈ e.recaller, entry.1 = r.plugin) ∧
      ∃ scope added, r.plugin.IsScope ctx.models scope ∧
        e.parse ctx = { ctx with candidates := ctx.candidates ++ added } ∧
        List.Forall₂ (Candidate.IsProposal ctx r) scope added := by
  obtain ⟨⟨entry, hentry, hplugin⟩, heligible⟩ := Recaller.of_choose h.choose
  have hmodels : r.plugin.models.Pairwise (· < ·) := hplugin ▸ hordered entry hentry
  refine ⟨⟨entry, hentry, hplugin⟩, r.scope, e.recalled ctx, r.isScope_scope hmodels heligible, rfl,
    ?_⟩
  obtain ⟨g, hg⟩ := exists_fillFields_eq_map ctx.candidates (r.scope.map (e.candidateFor ctx r))
  rw [h.recalled_eq, hg, List.map_map]
  exact List.forall₂_map_right_iff.mpr
    (List.forall₂_same.mpr fun model _ => isProposal_candidateFor e ctx r model _)

/-- Of the models that a plugin declares two are requested. A city was found for one of them, and a
metric, which asks for no filter. -/
theorem parse_recalls_weather :
    let city : ElementMatch := ⟨⟨5, 1, "city", "city_name", [], .value, []⟩, "Rome", .ofNat 1, none⟩
    let heat : ElementMatch := ⟨⟨6, 1, "heat", "temp", [], .metric, []⟩, "heat", .ofNat 1, none⟩
    let p : Plugin := ⟨11, "weather", "PLUGIN", [1, 2, 5], false, ["weather"], [], []⟩
    let e : Engine := ⟨[(p, [.keyword "weather"])], ["PLUGIN"]⟩
    let ctx : QueryContext := ⟨"Weather in Rome", none, [1, 2, 7], [(1, [city, heat])], [], []⟩
    let r : Recalled := ⟨p, [1, 2], 7⟩
    e.IsOrdered ∧ e.Recalls ctx r ∧
      ∃ first second, e.parse ctx = { ctx with candidates := [first, second] } ∧
        first.IsProposal ctx r 1 ∧ second.IsProposal ctx r 2 ∧
        (∃ f, first.filters = [f] ∧ f.AsksFor city) ∧ second.filters = [] := by
  intro city heat p e ctx r
  have hordered : e.IsOrdered := by
    intro entry hentry
    rw [List.mem_singleton.mp hentry]
    decide
  have hchosen : (e.recaller.choose ctx).map (fun c => (c.plugin, c.models, c.score)) =
      some (p, [1, 2], 7) := by
    decide +kernel
  have hchoose : e.recaller.choose ctx = some r := by
    obtain ⟨⟨plugin, models, score⟩, hc, hparts⟩ := Option.map_eq_some_iff.mp hchosen
    obtain ⟨hplugin, hmodels, hscore⟩ : plugin = p ∧ models = [1, 2] ∧ score = 7 := by
      simpa only [Prod.mk.injEq] using hparts
    rw [hc, hplugin, hmodels, hscore]
  have hrecalls : e.Recalls ctx r := ⟨by decide +kernel, by decide +kernel, hchoose⟩
  obtain ⟨-, scope, added, hscope, hparse, hadded⟩ := parse_recalls hordered hrecalls
  have hmodels : ∀ m, p.AnswersFor ctx.models m ↔ m ∈ [1, 2] := by
    intro m
    simp [Plugin.AnswersFor, p, ctx]
    omega
  obtain rfl : scope = [1, 2] := by
    cases hscope with
    | any hany =>
      rcases hany with hall | hnone
      · exact absurd hall (by decide)
      · exact absurd ((hmodels 1).mpr (by decide)) (hnone 1)
    | each _ _ hascending hmem =>
      refine List.Pairwise.eq_of_mem_iff hascending (by decide) fun m => ?_
      rw [hmem, hmodels]
  obtain ⟨first, second, rfl⟩ : ∃ first second, added = [first, second] :=
    List.length_eq_two.mp hadded.length_eq.symm
  obtain ⟨hfirst, hrest⟩ := List.forall₂_cons.mp hadded
  obtain ⟨hsecond, -⟩ := List.forall₂_cons.mp hrest
  refine ⟨hordered, hrecalls, first, second, hparse, hfirst, hsecond, ?_, ?_⟩
  · obtain ⟨f, rest, hf, hrest, hfilters⟩ := List.forall₂_cons_left_iff.mp hfirst.filters
    rw [List.forall₂_nil_left_iff.mp hrest] at hfilters
    exact ⟨f, hfilters, hf⟩
  · exact List.forall₂_nil_left_iff.mp hsecond.filters

end Engine

end SemanticQuery
