import Mathlib.Logic.Function.Iterate
import SemanticQuery.Plugin.Engine
import SemanticQuery.Proofs.Number.Double

/-!
# Recalling again

A recall reads the candidates that it extends, twice: one of them may cover the whole text, and one
may have the query whose fields are filled in. What carries repetition is that a plugin's candidate
has no such query, so that every further recall proposes the same candidates, and that a candidate
which covers the text stays where it is.
-/

namespace SemanticQuery

open Number

/-! ### Fields of proposed candidates -/

/-- Filling in fields changes nothing but the fields of queries. -/
lemma exists_fillFields_eq_map (earlier targets : List Candidate) :
    ∃ g : SqlInfo → SqlInfo,
      fillFields earlier targets = targets.map fun c => { c with sql := g c.sql } := by
  unfold fillFields
  split
  · exact ⟨id, by simp⟩
  next source _ =>
    split
    · exact ⟨id, by simp⟩
    next s _ =>
      let elements := source.elementMatches.map ElementMatch.element
      refine ⟨fun sql => { sql with
        filterFields := filterFields elements s, selectFields := selectFields elements s }, ?_⟩
      rfl

/-- Candidates without a query to look into do not change where fields come from. -/
lemma fillFields_append {earlier added : List Candidate} (targets : List Candidate)
    (h : ∀ c ∈ added, c.isSource = false) :
    fillFields (earlier ++ added) targets = fillFields earlier targets := by
  have hnone : added.find? Candidate.isSource = none := by simpa using h
  have hfind : (earlier ++ added).find? Candidate.isSource = earlier.find? Candidate.isSource := by
    rw [List.find?_append, hnone, Option.or_none]
  unfold fillFields
  rw [hfind]

namespace Engine

variable {e : Engine} {ctx ctx' : QueryContext} {c : Candidate}

/-! ### What is proposed -/

/-- The candidates that recall adds unless a candidate covers the whole text already. -/
def proposed (e : Engine) (ctx : QueryContext) : List Candidate :=
  if !e.recaller.isReady ctx then []
  else
    match e.recaller.choose ctx with
    | some r => fillFields ctx.candidates (e.candidatesOf ctx r)
    | none => []

lemma recalled_eq (e : Engine) (ctx : QueryContext) :
    e.recalled ctx = if e.skips ctx then [] else e.proposed ctx := by
  unfold recalled proposed
  cases e.skips ctx <;> rfl

lemma recalled_of_skips (h : e.skips ctx = true) : e.recalled ctx = [] := by
  rw [recalled_eq, if_pos h]

lemma recalled_eq_proposed (h : e.recalled ctx ≠ []) : e.recalled ctx = e.proposed ctx := by
  rw [recalled_eq] at h ⊢
  split_ifs at h ⊢
  · exact absurd rfl h
  · rfl

/-- A proposed candidate belongs to the recalled plugin and a model; only the fields of its query
come from elsewhere. -/
lemma exists_of_mem_proposed (h : c ∈ e.proposed ctx) :
    ∃ r model sql, e.recaller.choose ctx = some r ∧
      c = { e.candidateFor ctx r model with sql } := by
  unfold proposed at h
  split at h
  · simp at h
  · split at h
    next r hr =>
      obtain ⟨g, hg⟩ := exists_fillFields_eq_map ctx.candidates (e.candidatesOf ctx r)
      rw [hg, List.mem_map] at h
      obtain ⟨c, hc, rfl⟩ := h
      obtain ⟨model, _, rfl⟩ := List.mem_map.mp hc
      exact ⟨r, model, _, hr, rfl⟩
    next _ => simp at h

/-- A plugin's candidate names its plugin, so no fields are looked up in it. -/
lemma isSource_of_mem_proposed (h : c ∈ e.proposed ctx) : c.isSource = false := by
  obtain ⟨r, model, sql, _, rfl⟩ := exists_of_mem_proposed h
  have hproperties : (e.candidateFor ctx r model).properties =
      [("name", .string r.plugin.name), (pluginIdProperty, .int r.plugin.id),
        ("type", .string "plugin")] := rfl
  simp [Candidate.isSource, hproperties, pluginIdProperty, List.lookup_cons]

/-- Plugins answer in a mode of the engine, if it has any. -/
lemma modeOf_mem (hmodes : e.modes ≠ []) (p : Plugin) : e.modeOf p ∈ e.modes := by
  unfold modeOf
  split
  next hmode => simpa using hmode
  next _ =>
    obtain ⟨first, rest, heq⟩ := List.exists_cons_of_ne_nil hmodes
    simp [defaultMode, heq]

lemma mode_mem_of_mem_proposed (hmodes : e.modes ≠ []) (h : c ∈ e.proposed ctx) :
    c.mode ∈ e.modes := by
  obtain ⟨r, model, sql, _, rfl⟩ := exists_of_mem_proposed h
  exact modeOf_mem hmodes r.plugin

/-! ### Runs -/

/-- A request has the candidates of another one and behind them candidates of plugins. -/
structure Extends (ctx ctx' : QueryContext) (added : List Candidate) : Prop where
  eq : ctx' = { ctx with candidates := ctx.candidates ++ added }
  isSource : ∀ c ∈ added, c.isSource = false

variable {added : List Candidate}

lemma extends_refl (ctx : QueryContext) : Extends ctx ctx [] := ⟨by simp, by simp⟩

/-- The same candidates are proposed behind those of plugins. -/
lemma Extends.proposed_eq (h : Extends ctx ctx' added) : e.proposed ctx' = e.proposed ctx := by
  have hready : e.recaller.isReady ctx' = e.recaller.isReady ctx := by rw [h.eq]; rfl
  have hchoose : e.recaller.choose ctx' = e.recaller.choose ctx := by rw [h.eq]; rfl
  have hcandidates : ∀ r, e.candidatesOf ctx' r = e.candidatesOf ctx r := by rw [h.eq]; intro; rfl
  have hfill : ∀ targets, fillFields ctx'.candidates targets = fillFields ctx.candidates targets :=
    fun targets => by rw [h.eq]; exact fillFields_append targets h.isSource
  unfold proposed
  rw [hready, hchoose]
  simp only [hcandidates, hfill]

/-- A candidate that covers the text still does. -/
lemma Extends.skips (h : Extends ctx ctx' added) (hskips : e.skips ctx = true) :
    e.skips ctx' = true := by
  rw [h.eq, Engine.skips, List.any_append, Bool.or_eq_true]
  exact .inl hskips

/-- One recall extends a request. -/
lemma extends_parse (e : Engine) (ctx : QueryContext) :
    Extends ctx (e.parse ctx) (e.recalled ctx) := by
  refine ⟨rfl, fun c hc => ?_⟩
  rw [recalled_eq] at hc
  split at hc
  · simp at hc
  · exact isSource_of_mem_proposed hc

lemma Extends.trans {ctx'' : QueryContext} {more : List Candidate} (h : Extends ctx ctx' added)
    (h' : Extends ctx' ctx'' more) : Extends ctx ctx'' (added ++ more) := by
  refine ⟨?_, ?_⟩
  · rw [h'.eq, h.eq, List.append_assoc]
  · simpa [or_imp, forall_and] using ⟨h.isSource, h'.isSource⟩

/-- Recalls in a row extend a request. -/
lemma extends_iterate (e : Engine) (ctx : QueryContext) (n : Nat) :
    ∃ added, Extends ctx (e.parse^[n] ctx) added := by
  induction n with
  | zero => exact ⟨[], extends_refl ctx⟩
  | succ n ih =>
    obtain ⟨added, h⟩ := ih
    rw [Function.iterate_succ_apply']
    exact ⟨_, h.trans (extends_parse e _)⟩

lemma proposed_iterate (e : Engine) (ctx : QueryContext) (n : Nat) :
    e.proposed (e.parse^[n] ctx) = e.proposed ctx := by
  obtain ⟨added, h⟩ := extends_iterate e ctx n
  exact h.proposed_eq

/-- Once a recall is skipped, so are all later ones. -/
lemma skips_iterate {m n : Nat} (hle : m ≤ n) (h : e.skips (e.parse^[m] ctx) = true) :
    e.skips (e.parse^[n] ctx) = true := by
  obtain ⟨k, rfl⟩ := Nat.exists_eq_add_of_le hle
  obtain ⟨added, hextends⟩ := extends_iterate e (e.parse^[m] ctx) k
  rw [Nat.add_comm, Function.iterate_add_apply]
  exact hextends.skips h

/-! ### Candidates that cover the text -/

/-- Recall finds a plugin whose trigger covers at least as much as the text is long: as doubles, in
which scores are compared, or as numbers of characters that a word of the machine holds. -/
def Covers (r : Recalled) (ctx : QueryContext) : Prop :=
  (Double.ofNat ctx.length).le (.ofNat r.score) = true ∨
    (ctx.length ≤ r.score ∧ r.score < 2 ^ 64)

lemma Covers.le {r : Recalled} (h : Covers r ctx) :
    (Double.ofNat ctx.length).le (.ofNat r.score) = true := by
  rcases h with h | ⟨hle, hlt⟩
  · exact h
  · have hlog : r.score.log2 < 64 := Double.log2_lt_of_lt (by decide) hlt
    exact Double.ofNat_le_ofNat hle (by omega)

/-- Behind a recall that covers the text nothing is recalled any more. -/
lemma recalled_parse_of_covers (hmodes : e.modes ≠ []) {r : Recalled}
    (hr : e.recaller.choose ctx = some r) (hcovers : Covers r ctx) :
    e.recalled (e.parse ctx) = [] := by
  cases hfirst : e.recalled ctx with
  | nil =>
    have hsame : e.parse ctx = ctx := by simp [parse, run, hfirst]
    rw [hsame, hfirst]
  | cons c rest =>
    apply recalled_of_skips
    have hmem : c ∈ e.recalled ctx := by simp [hfirst]
    have hproposed : c ∈ e.proposed ctx := by
      rwa [← recalled_eq_proposed (List.ne_nil_of_mem hmem)]
    obtain ⟨r', model, sql, hr', rfl⟩ := exists_of_mem_proposed hproposed
    obtain rfl : r = r' := by simpa [hr] using hr'
    have hmode := mode_mem_of_mem_proposed hmodes hproposed
    refine List.any_eq_true.mpr ⟨_, List.mem_append_right _ hmem, ?_⟩
    simpa using ⟨hcovers.le, hmode⟩

/-- Recalls in a row. Each one adds candidates behind the earlier ones, changes nothing else and
answers how many it has added; all that add any add the same ones; and behind one that is skipped
all are. With a mode for plugins every added candidate has one, so behind a first recall that covers
the text the second one adds nothing. -/
theorem recalled_iterate (e : Engine) (ctx : QueryContext) :
    (∀ n, e.parse^[n + 1] ctx =
          { ctx with
            candidates := (e.parse^[n] ctx).candidates ++ e.recalled (e.parse^[n] ctx) } ∧
        (e.parse^[n + 1] ctx).candidates.length =
          (e.parse^[n] ctx).candidates.length + (e.recalled (e.parse^[n] ctx)).length ∧
        (e.run (e.parse^[n] ctx)).1 = (e.recalled (e.parse^[n] ctx)).length) ∧
      (∀ m n, e.recalled (e.parse^[m] ctx) ≠ [] → e.recalled (e.parse^[n] ctx) ≠ [] →
        e.recalled (e.parse^[m] ctx) = e.recalled (e.parse^[n] ctx)) ∧
      (∀ m n, m ≤ n → e.skips (e.parse^[m] ctx) = true →
        e.skips (e.parse^[n] ctx) = true ∧ e.parse^[n] ctx = e.parse^[m] ctx) ∧
      (e.modes ≠ [] →
        (∀ n, ∀ c ∈ e.recalled (e.parse^[n] ctx), c.mode ∈ e.modes) ∧
          ∀ r, e.recaller.choose ctx = some r → Covers r ctx → e.recalled (e.parse ctx) = []) := by
  refine ⟨fun n => ?_, fun m n hm hn => ?_, fun m n hle hskips => ?_, fun hmodes =>
    ⟨fun n c hc => ?_, fun r hr => recalled_parse_of_covers hmodes hr⟩⟩
  · obtain ⟨added, h⟩ := extends_iterate e ctx n
    rw [Function.iterate_succ_apply', parse, run]
    exact ⟨by rw [h.eq], List.length_append, rfl⟩
  · rw [recalled_eq_proposed hm, recalled_eq_proposed hn, proposed_iterate, proposed_iterate]
  · refine ⟨skips_iterate hle hskips, ?_⟩
    induction n, hle using Nat.le_induction with
    | base => rfl
    | succ n hle ih =>
      have hnone : e.recalled (e.parse^[n] ctx) = [] :=
        recalled_of_skips (skips_iterate hle hskips)
      rw [Function.iterate_succ_apply', ← ih]
      simp [parse, run, hnone]
  · rw [recalled_eq_proposed (List.ne_nil_of_mem hc), proposed_iterate] at hc
    exact mode_mem_of_mem_proposed hmodes hc

/-- A plugin on the views of pages. -/
def viewsPlugin : Plugin := ⟨11, "views", "WEB_SERVICE", [1], false, ["pv"], [], []⟩

/-- The engine whose one plugin is triggered by the word `pv`. -/
def viewsEngine : Engine := ⟨[(viewsPlugin, [.keyword "pv"])], ["PLUGIN", "WEB_SERVICE"]⟩

/-- A longer text gets the same candidates again and again, the word alone only once. -/
theorem recalled_iterate_views :
    let day : QueryContext := ⟨"pv of a day", none, [], [], [], []⟩
    let word : QueryContext := ⟨"PV", none, [], [], [], []⟩
    (viewsEngine.recalled (viewsEngine.parse^[1] day) ≠ [] ∧
        viewsEngine.recalled (viewsEngine.parse^[2] day) ≠ [] ∧
        viewsEngine.recalled (viewsEngine.parse^[1] day) =
          viewsEngine.recalled (viewsEngine.parse^[2] day)) ∧
      viewsEngine.recalled word ≠ [] ∧ viewsEngine.recalled (viewsEngine.parse word) = [] := by
  intro day word
  have hsecond : viewsEngine.recalled (viewsEngine.parse^[1] day) ≠ [] := by decide +kernel
  have hthird : viewsEngine.recalled (viewsEngine.parse^[2] day) ≠ [] := by decide +kernel
  have hword : viewsEngine.recalled word ≠ [] := by decide +kernel
  have hmodes : viewsEngine.modes ≠ [] := by decide
  have hchosen : (viewsEngine.recaller.choose word).map (·.score) = some 2 := by decide +kernel
  obtain ⟨choice, hchoose, hscore⟩ := Option.map_eq_some_iff.mp hchosen
  have hcovers : Covers choice word := .inr (by rw [hscore]; decide +kernel)
  exact ⟨⟨hsecond, hthird, (recalled_iterate viewsEngine day).2.1 1 2 hsecond hthird⟩, hword,
    ((recalled_iterate viewsEngine word).2.2.2 hmodes).2 _ hchoose hcovers⟩

end Engine

end SemanticQuery
