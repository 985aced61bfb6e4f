import Mathlib.Data.List.MinMax
import SemanticQuery.Plugin.Recall
import SemanticQuery.Proofs.Pattern.Match
import SemanticQuery.Proofs.Sequence

/-!
# The choice of a plugin

A request recalls the first of the eligible plugins whose longest hit in the text is the greatest.
What is not eligible or not hit is passed over, so it has no influence on the choice.
-/

namespace SemanticQuery

/-! ### First greatest elements -/

section

variable {α : Type} {f : α → ℕ} {l : List α} {a b : α}

/-- An element is the first of the greatest ones: those before it are less, and those behind it are
not greater. -/
def IsFirstGreatest (f : α → ℕ) (l : List α) (a : α) : Prop :=
  ∃ before after, l = before ++ a :: after ∧ (∀ b ∈ before, f b < f a) ∧ ∀ b ∈ after, f b ≤ f a

/-- What is less than a later element is not the greatest. -/
lemma eq_of_cons_eq_append_cons {middle after after' : List α}
    (h : a :: after = middle ++ b :: after') (hmiddle : ∀ c ∈ middle, f c < f b)
    (hafter : ∀ c ∈ after, f c ≤ f a) : a = b := by
  cases middle with
  | nil => exact (List.cons.inj h).1
  | cons c middle =>
    obtain ⟨rfl, rfl⟩ := List.cons.inj h
    have hlt := hmiddle a List.mem_cons_self
    have hle := hafter b (by simp)
    omega

lemma IsFirstGreatest.unique (ha : IsFirstGreatest f l a) (hb : IsFirstGreatest f l b) : a = b := by
  obtain ⟨before, after, hl, hbefore, hafter⟩ := ha
  obtain ⟨before', after', hl', hbefore', hafter'⟩ := hb
  rcases List.append_eq_append_iff.mp (hl.symm.trans hl') with
    ⟨middle, rfl, hrest⟩ | ⟨middle, rfl, hrest⟩
  · -- `a` stands first
    exact eq_of_cons_eq_append_cons hrest
      (fun c hc => hbefore' c (List.mem_append_right before hc)) hafter
  · exact (eq_of_cons_eq_append_cons hrest
      (fun c hc => hbefore c (List.mem_append_right before' hc)) hafter').symm

lemma isFirstGreatest_of_argmax (h : l.argmax f = some a) : IsFirstGreatest f l a := by
  induction l generalizing a with
  | nil => simp at h
  | cons first l ih =>
    rw [List.argmax_cons] at h
    cases hl : l.argmax f with
    | none =>
      obtain rfl := List.argmax_eq_none.mp hl
      obtain rfl : first = a := by simpa using h
      exact ⟨[], [], rfl, by simp, by simp⟩
    | some c =>
      rw [hl] at h
      dsimp only at h
      split at h
      next hlt =>
        obtain rfl := Option.some.inj h
        obtain ⟨before, after, rfl, hbefore, hafter⟩ := ih hl
        refine ⟨first :: before, after, rfl, fun b hb => ?_, hafter⟩
        rcases List.mem_cons.mp hb with rfl | hb
        · exact hlt
        · exact hbefore b hb
      next hle =>
        obtain rfl := Option.some.inj h
        refine ⟨[], l, rfl, by simp, fun b hb => ?_⟩
        exact (List.le_of_mem_argmax hb hl).trans (Nat.le_of_not_lt hle)

lemma argmax_eq_some_iff_isFirstGreatest : l.argmax f = some a ↔ IsFirstGreatest f l a := by
  refine ⟨isFirstGreatest_of_argmax, fun h => ?_⟩
  cases hl : l.argmax f with
  | none =>
    obtain rfl := List.argmax_eq_none.mp hl
    obtain ⟨before, after, hnil, -⟩ := h
    simp at hnil
  | some b => rw [(isFirstGreatest_of_argmax hl).unique h]

/-- The first of the greatest elements that a function gives, told by the arguments. -/
lemma isFirstGreatest_filterMap_iff {β : Type} {g : β → Option α} {xs : List β} :
    IsFirstGreatest f (xs.filterMap g) a ↔ ∃ before x after, xs = before ++ x :: after ∧
      g x = some a ∧ (∀ y ∈ before, ∀ b ∈ g y, f b < f a) ∧ ∀ y ∈ after, ∀ b ∈ g y, f b ≤ f a := by
  constructor
  · rintro ⟨before, after, hxs, hbefore, hafter⟩
    obtain ⟨xs₁, xs₂, rfl, rfl, hxs₂⟩ := List.filterMap_eq_append_iff.mp hxs
    obtain ⟨passed, x, xs₃, rfl, hpassed, hx, rfl⟩ := List.filterMap_eq_cons_iff.mp hxs₂
    refine ⟨xs₁ ++ passed, x, xs₃, by simp, hx, fun y hy b hb => ?_, fun y hy b hb => ?_⟩
    · rcases List.mem_append.mp hy with hy | hy
      · exact hbefore b (List.mem_filterMap.mpr ⟨y, hy, hb⟩)
      · rw [hpassed y hy] at hb
        exact absurd hb (Option.not_mem_none b)
    · exact hafter b (List.mem_filterMap.mpr ⟨y, hy, hb⟩)
  · rintro ⟨before, x, after, rfl, hx, hbefore, hafter⟩
    refine ⟨before.filterMap g, after.filterMap g, ?_, fun b hb => ?_, fun b hb => ?_⟩
    · rw [List.filterMap_append, List.filterMap_cons_some hx]
    · obtain ⟨y, hy, hb⟩ := List.mem_filterMap.mp hb
      exact hbefore y hy b hb
    · obtain ⟨y, hy, hb⟩ := List.mem_filterMap.mp hb
      exact hafter y hy b hb

end

/-! ### Hits -/

lemma occursIn_iff (part text : List Char) : occursIn part text = true ↔ part <:+: text := by
  induction text with
  | nil => simp [occursIn]
  | cons c text ih =>
    rw [occursIn, Bool.or_eq_true, ih, List.isPrefixOf_iff_prefix, List.infix_cons_iff]

lemma longest_concat (lengths : List ℕ) (n : ℕ) :
    longest (lengths ++ [n]) = max (longest lengths) n := List.foldl_concat ..

lemma le_longest {lengths : List ℕ} {n : ℕ} (h : n ∈ lengths) : n ≤ longest lengths := by
  induction lengths using List.reverseRecOn with
  | nil => simp at h
  | append_singleton lengths m ih =>
    rw [longest_concat]
    rcases List.mem_append.mp h with hn | hn
    · exact (ih hn).trans (Nat.le_max_left _ _)
    · rw [List.mem_singleton.mp hn]
      exact Nat.le_max_right _ _

lemma longest_eq_zero_or_mem (lengths : List ℕ) :
    longest lengths = 0 ∨ longest lengths ∈ lengths := by
  induction lengths using List.reverseRecOn with
  | nil => exact .inl rfl
  | append_singleton lengths m ih =>
    rw [longest_concat]
    rcases Nat.le_total m (longest lengths) with hle | hle
    · rw [Nat.max_eq_left hle]
      exact ih.imp_right (List.mem_append_left _)
    · rw [Nat.max_eq_right hle]
      exact .inr (List.mem_append_right _ List.mem_cons_self)

namespace Plugin

variable {strategy : RecallStrategy} {text : String} {p : Plugin} {ts : List Trigger}
  {t : Trigger} {n : ℕ}

/-- A plugin is hit by a word between the rest of a text: the word is one of its keywords, where
both are in small letters, or the first match of one of its patterns. -/
def IsHit (strategy : RecallStrategy) (text : String) (p : Plugin)
    (before word after : List Char) : Prop :=
  match strategy with
  | .keyword => Text.lowerChars text.toList = before ++ (word ++ after) ∧
      ∃ keyword ∈ p.keywords, Text.lowerChars keyword.toList = word
  | .pattern => ∃ source ∈ p.patterns, ∃ tree, Pattern.Tree.read? source = some tree ∧
      tree.IsFirstMatch text.toList before word after

/-- A plugin is hit by a word of `n` characters. -/
def Hits (strategy : RecallStrategy) (text : String) (p : Plugin) (n : ℕ) : Prop :=
  ∃ before word after, p.IsHit strategy text before word after ∧ word.length = n

/-- The triggers of a plugin under a strategy. -/
def triggers (strategy : RecallStrategy) (p : Plugin) : Except Failure (List Trigger) :=
  match strategy with
  | .keyword => .ok (p.keywords.map .keyword)
  | .pattern => p.patternTriggers

/-- The length of the longest hit of a plugin in a text, zero if there is none. -/
def hitLength (strategy : RecallStrategy) (text : String) (p : Plugin) : ℕ :=
  match p.triggers strategy with
  | .ok ts => longest (ts.map (Trigger.hit text))
  | .error _ => 0

lemma hitLength_of_triggers (h : p.triggers strategy = .ok ts) (text : String) :
    p.hitLength strategy text = longest (ts.map (Trigger.hit text)) := by
  rw [hitLength, h]

lemma mem_patternTriggers_iff (h : p.patternTriggers = .ok ts) :
    t ∈ ts ↔ ∃ source ∈ p.patterns, ∃ tree, Pattern.Tree.read? source = some tree ∧
      t = .pattern tree := by
  rw [mem_iff_of_mapM_eq_ok h]
  refine exists_congr fun source => and_congr_right fun _ => ?_
  cases Pattern.Tree.read? source with
  | none => simp
  | some tree => simp [eq_comm]

lemma hit_eq_zero_or_hits (h : p.triggers strategy = .ok ts) (ht : t ∈ ts) :
    t.hit text = 0 ∨ p.Hits strategy text (t.hit text) := by
  cases strategy with
  | keyword =>
    obtain rfl := Except.ok.inj h
    obtain ⟨word, hword, rfl⟩ := List.mem_map.mp ht
    rw [Trigger.hit]
    split
    next hhit =>
      rw [Bool.and_eq_true, occursIn_iff] at hhit
      obtain ⟨-, before, after, htext⟩ := hhit
      refine .inr ⟨before, _, after, ⟨?_, word, hword, rfl⟩, rfl⟩
      rw [← htext, List.append_assoc]
    next => exact .inl rfl
  | pattern =>
    obtain ⟨source, hsource, tree, htree, rfl⟩ := (mem_patternTriggers_iff h).mp ht
    rw [Trigger.hit]
    cases hmatch : tree.matchLength? text with
    | none => exact .inl rfl
    | some n =>
      obtain ⟨before, word, after, hfirst, hlength⟩ :=
        (tree.matchLength?_eq_some_iff text n).mp hmatch
      exact .inr ⟨before, word, after, ⟨source, hsource, tree, htree, hfirst⟩, hlength⟩

lemma exists_trigger_of_hits (h : p.triggers strategy = .ok ts) (hn : p.Hits strategy text n) :
    n = 0 ∨ ∃ t ∈ ts, t.hit text = n := by
  cases strategy with
  | keyword =>
    obtain rfl := Except.ok.inj h
    obtain ⟨before, _, after, ⟨htext, word, hword, rfl⟩, rfl⟩ := hn
    by_cases hempty : Text.lowerChars word.toList = []
    · exact .inl (by rw [hempty, List.length_nil])
    · have hoccurs := (occursIn_iff _ _).mpr
        ⟨before, after, (List.append_assoc ..).trans htext.symm⟩
      refine .inr ⟨.keyword word, List.mem_map_of_mem hword, ?_⟩
      simp [Trigger.hit, hempty, hoccurs]
  | pattern =>
    obtain ⟨before, word, after, ⟨source, hsource, tree, htree, hfirst⟩, hlength⟩ := hn
    have hmatch := (tree.matchLength?_eq_some_iff text n).mpr ⟨before, word, after, hfirst, hlength⟩
    refine .inr ⟨.pattern tree, ?_, by rw [Trigger.hit, hmatch, Option.getD_some]⟩
    exact (mem_patternTriggers_iff h).mpr ⟨source, hsource, tree, htree, rfl⟩

/-- The longest hit is one of the hits, and none of them is longer. -/
lemma hits_hitLength (h : p.triggers strategy = .ok ts) (text : String) :
    (p.hitLength strategy text = 0 ∨ p.Hits strategy text (p.hitLength strategy text)) ∧
      ∀ n, p.Hits strategy text n → n ≤ p.hitLength strategy text := by
  rw [hitLength_of_triggers h]
  constructor
  · rcases longest_eq_zero_or_mem (ts.map (Trigger.hit text)) with hzero | hmem
    · exact .inl hzero
    · obtain ⟨t, ht, hlongest⟩ := List.mem_map.mp hmem
      rw [← hlongest]
      exact hit_eq_zero_or_hits h ht
  · intro n hn
    rcases exists_trigger_of_hits h hn with rfl | ⟨t, ht, rfl⟩
    · exact Nat.zero_le _
    · exact le_longest (List.mem_map_of_mem ht)

/-! ### Eligible plugins -/

/-- A plugin may answer for the requested models: it serves all models or one of those, or no model
was requested. -/
def IsEligible (p : Plugin) (requested : List Int) : Prop :=
  p.servesAll = true ∨ requested = [] ∨ ∃ m ∈ p.models, m ∈ requested

instance (p : Plugin) (requested : List Int) : Decidable (p.IsEligible requested) :=
  inferInstanceAs (Decidable (_ ∨ _))

lemma isSome_eligibleModels_iff (p : Plugin) (requested : List Int) :
    (p.eligibleModels requested).isSome ↔ p.IsEligible requested := by
  unfold eligibleModels IsEligible
  by_cases hall : p.servesAll = true
  · simp [hall]
  · by_cases hnone : requested = []
    · simp [hall, hnone]
    · rw [if_neg hall, if_neg (by simpa using hnone)]
      by_cases hshared : (p.models.filter requested.contains) = []
      · have hno : ∀ m ∈ p.models, m ∉ requested := by simpa using hshared
        simpa [hshared, hall, hnone] using hno
      · have hsome : ∃ m ∈ p.models, m ∈ requested := by simpa using hshared
        simpa [hshared, hall, hnone] using hsome

lemma eligibleModels_eq_none_iff {requested : List Int} :
    p.eligibleModels requested = none ↔ ¬p.IsEligible requested := by
  rw [← isSome_eligibleModels_iff, Option.not_isSome_iff_eq_none]

/-- What a plugin offers to a request: itself, if it is hit and eligible. -/
def offer? (strategy : RecallStrategy) (ctx : QueryContext) (p : Plugin) : Option Recalled :=
  if p.hitLength strategy ctx.text = 0 then none
  else
    (p.eligibleModels ctx.models).map fun models => ⟨p, models, p.hitLength strategy ctx.text⟩

variable {ctx : QueryContext} {c : Recalled}

lemma offer?_eq_some_iff : p.offer? strategy ctx = some c ↔
    c.plugin = p ∧ p.eligibleModels ctx.models = some c.models ∧
      c.score = p.hitLength strategy ctx.text ∧ 0 < c.score := by
  unfold offer?
  split
  next hzero =>
    refine iff_of_false (by simp) ?_
    rintro ⟨-, -, hscore, hpos⟩
    omega
  next hhit =>
    rw [Option.map_eq_some_iff]
    constructor
    · rintro ⟨models, hmodels, rfl⟩
      exact ⟨rfl, hmodels, rfl, Nat.pos_of_ne_zero hhit⟩
    · rintro ⟨rfl, hmodels, hscore, -⟩
      exact ⟨c.models, hmodels, by rw [← hscore]⟩

lemma offer?_eq_none_of_not_isEligible (h : ¬p.IsEligible ctx.models) :
    p.offer? strategy ctx = none := by
  unfold offer?
  rw [eligibleModels_eq_none_iff.mpr h, Option.map_none, ite_self]

lemma offer?_eq_none_iff : p.offer? strategy ctx = none ↔
    (p.IsEligible ctx.models → p.hitLength strategy ctx.text = 0) := by
  by_cases heligible : p.IsEligible ctx.models
  · obtain ⟨models, hmodels⟩ :=
      Option.isSome_iff_exists.mp ((p.isSome_eligibleModels_iff _).mpr heligible)
    simp [offer?, hmodels, heligible]
  · simp [offer?_eq_none_of_not_isEligible heligible, heligible]

/-- What holds of zero holds of the score that a plugin offers where it holds of the longest hit, if
the plugin is eligible. -/
lemma forall_offer?_iff {P : ℕ → Prop} (hzero : P 0) :
    (∀ c ∈ p.offer? strategy ctx, P c.score) ↔
      (p.IsEligible ctx.models → P (p.hitLength strategy ctx.text)) := by
  cases hoffer : p.offer? strategy ctx with
  | none =>
    refine iff_of_true (fun c hc => absurd hc (Option.not_mem_none c)) fun heligible => ?_
    rw [offer?_eq_none_iff.mp hoffer heligible]
    exact hzero
  | some c =>
    obtain ⟨rfl, hmodels, hscore, -⟩ := offer?_eq_some_iff.mp hoffer
    have heligible := (c.plugin.isSome_eligibleModels_iff ctx.models).mp (by simp [hmodels])
    simp [hscore, heligible]

end Plugin

/-! ### The choice -/

namespace Recaller

variable {strategy : RecallStrategy} {plugins plugins' : List Plugin} {r r' : Recaller}

lemma triggers_of_ofPlugins (h : ofPlugins strategy plugins = .ok r) :
    List.Forall₂ (fun p entry => entry.1 = p ∧ p.triggers strategy = .ok entry.2) plugins r := by
  cases strategy with
  | keyword =>
    obtain rfl := Except.ok.inj h
    exact List.forall₂_map_right_iff.mpr (List.forall₂_same.mpr fun p _ => ⟨rfl, rfl⟩)
  | pattern =>
    refine (forall₂_of_mapM_eq_ok h).imp fun p entry hentry => ?_
    cases hp : p.patternTriggers with
    | error failure => simp [hp, bind, Except.bind] at hentry
    | ok ts =>
      obtain rfl : (p, ts) = entry := by
        simpa [hp, bind, Except.bind, pure, Except.pure] using hentry
      exact ⟨rfl, hp⟩

lemma exists_triggers_of_mem {p : Plugin} (h : ofPlugins strategy plugins = .ok r)
    (hp : p ∈ plugins) : ∃ ts, p.triggers strategy = .ok ts := by
  obtain ⟨entry, -, -, hts⟩ := exists_mem_of_forall₂ (triggers_of_ofPlugins h) hp
  exact ⟨entry.2, hts⟩

/-- One step takes the better of what was offered so far and what the plugin offers. -/
lemma better_eq_argmax {ctx : QueryContext} {p : Plugin} {ts : List Trigger}
    (h : p.triggers strategy = .ok ts) (offers : List Recalled) :
    better ctx.models ctx.text (offers.argmax Recalled.score) (p, ts) =
      (offers ++ (p.offer? strategy ctx).toList).argmax Recalled.score := by
  unfold better Plugin.offer?
  rw [← Plugin.hitLength_of_triggers h]
  dsimp only
  by_cases hzero : p.hitLength strategy ctx.text = 0
  · simp [hzero]
  · cases hmodels : p.eligibleModels ctx.models with
    | none => simp
    | some models =>
      simp only [hzero, beq_iff_eq, if_false, Option.map_some, Option.toList_some,
        List.argmax_concat]
      cases offers.argmax Recalled.score <;> rfl

lemma foldl_better_eq_argmax {ctx : QueryContext}
    (h : List.Forall₂ (fun p entry => entry.1 = p ∧ p.triggers strategy = .ok entry.2) plugins r)
    (offers : List Recalled) :
    r.foldl (better ctx.models ctx.text) (offers.argmax Recalled.score) =
      (offers ++ plugins.filterMap (Plugin.offer? strategy ctx)).argmax Recalled.score := by
  induction h generalizing offers with
  | nil => rw [List.filterMap_nil, List.append_nil, List.foldl_nil]
  | @cons p entry plugins r hentry _ ih =>
    obtain ⟨q, ts⟩ := entry
    obtain ⟨rfl, hts⟩ := hentry
    rw [List.foldl_cons, better_eq_argmax hts, ih, List.append_assoc]
    congr 2
    cases hoffer : q.offer? strategy ctx with
    | none => rw [List.filterMap_cons_none hoffer]; rfl
    | some c => rw [List.filterMap_cons_some hoffer]; rfl

/-- The choice is the first of the best offers. -/
lemma choose_eq_argmax (h : ofPlugins strategy plugins = .ok r) (ctx : QueryContext) :
    r.choose ctx = (plugins.filterMap (Plugin.offer? strategy ctx)).argmax Recalled.score :=
  foldl_better_eq_argmax (triggers_of_ofPlugins h) []

lemma choose_eq_none_iff (h : ofPlugins strategy plugins = .ok r) (ctx : QueryContext) :
    r.choose ctx = none ↔
      ∀ p ∈ plugins, p.IsEligible ctx.models → p.hitLength strategy ctx.text = 0 := by
  rw [choose_eq_argmax h, List.argmax_eq_none, List.filterMap_eq_nil_iff]
  exact forall₂_congr fun p _ => Plugin.offer?_eq_none_iff

lemma choose_eq_some_iff (h : ofPlugins strategy plugins = .ok r) (ctx : QueryContext)
    (c : Recalled) :
    r.choose ctx = some c ↔ ∃ before after, plugins = before ++ c.plugin :: after ∧
      c.plugin.eligibleModels ctx.models = some c.models ∧
      c.score = c.plugin.hitLength strategy ctx.text ∧ 0 < c.score ∧
      (∀ p ∈ before, p.IsEligible ctx.models → p.hitLength strategy ctx.text < c.score) ∧
      ∀ p ∈ after, p.IsEligible ctx.models → p.hitLength strategy ctx.text ≤ c.score := by
  rw [choose_eq_argmax h, argmax_eq_some_iff_isFirstGreatest, isFirstGreatest_filterMap_iff]
  constructor
  · rintro ⟨before, p, after, hplugins, hoffer, hbefore, hafter⟩
    obtain ⟨rfl, hmodels, hscore, hpos⟩ := Plugin.offer?_eq_some_iff.mp hoffer
    exact ⟨before, after, hplugins, hmodels, hscore, hpos,
      fun p hp => (Plugin.forall_offer?_iff (P := (· < c.score)) hpos).mp (hbefore p hp),
      fun p hp => (Plugin.forall_offer?_iff (P := (· ≤ c.score)) (Nat.zero_le _)).mp (hafter p hp)⟩
  · rintro ⟨before, after, hplugins, hmodels, hscore, hpos, hbefore, hafter⟩
    exact ⟨before, c.plugin, after, hplugins,
      Plugin.offer?_eq_some_iff.mpr ⟨rfl, hmodels, hscore, hpos⟩,
      fun p hp => (Plugin.forall_offer?_iff (P := (· < c.score)) hpos).mpr (hbefore p hp),
      fun p hp => (Plugin.forall_offer?_iff (P := (· ≤ c.score)) (Nat.zero_le _)).mpr (hafter p hp)⟩

/-- What is not eligible has no part in the choice. -/
lemma choose_congr {ctx : QueryContext} (h : ofPlugins strategy plugins = .ok r)
    (h' : ofPlugins strategy plugins' = .ok r')
    (heligible : plugins'.filter (·.IsEligible ctx.models) =
      plugins.filter (·.IsEligible ctx.models)) :
    r'.choose ctx = r.choose ctx := by
  have hoffers (plugins : List Plugin) : plugins.filterMap (Plugin.offer? strategy ctx) =
      (plugins.filter (·.IsEligible ctx.models)).filterMap (Plugin.offer? strategy ctx) := by
    rw [List.filterMap_filter]
    refine List.filterMap_congr fun p _ => ?_
    split
    · rfl
    next hno => exact Plugin.offer?_eq_none_of_not_isEligible (by simpa using hno)
  rw [choose_eq_argmax h, choose_eq_argmax h', hoffers plugins', heligible, ← hoffers plugins]

/-- A request recalls nothing when no eligible plugin is hit, and otherwise the first of the
eligible plugins with the longest hit. The longest hit of a plugin is one of its hits, and none is
longer; a plugin that is not eligible may as well be missing. -/
theorem choose_first_longest (h : ofPlugins strategy plugins = .ok r) (ctx : QueryContext) :
    (∀ p ∈ plugins,
      (p.hitLength strategy ctx.text = 0 ∨
        p.Hits strategy ctx.text (p.hitLength strategy ctx.text)) ∧
      ∀ n, p.Hits strategy ctx.text n → n ≤ p.hitLength strategy ctx.text) ∧
    (r.choose ctx = none ↔
      ∀ p ∈ plugins, p.IsEligible ctx.models → p.hitLength strategy ctx.text = 0) ∧
    (∀ c, r.choose ctx = some c ↔ ∃ before after, plugins = before ++ c.plugin :: after ∧
      c.plugin.eligibleModels ctx.models = some c.models ∧
      c.score = c.plugin.hitLength strategy ctx.text ∧ 0 < c.score ∧
      (∀ p ∈ before, p.IsEligible ctx.models → p.hitLength strategy ctx.text < c.score) ∧
      ∀ p ∈ after, p.IsEligible ctx.models → p.hitLength strategy ctx.text ≤ c.score) ∧
    ∀ plugins' r', ofPlugins strategy plugins' = .ok r' →
      plugins'.filter (·.IsEligible ctx.models) = plugins.filter (·.IsEligible ctx.models) →
      r'.choose ctx = r.choose ctx := by
  refine ⟨fun p hp => ?_, choose_eq_none_iff h ctx, choose_eq_some_iff h ctx,
    fun plugins' r' h' => choose_congr h h'⟩
  obtain ⟨ts, hts⟩ := exists_triggers_of_mem h hp
  exact Plugin.hits_hitLength hts ctx.text

/-- The longest hit belongs to a plugin of another model, an empty keyword is no hit, and of two
hits of one length the first counts. -/
theorem choose_first_longest_tie :
    let plugin (id : Int) (models : List Int) (all : Bool) (keywords : List String) : Plugin :=
      ⟨id, "", "PLUGIN", models, all, keywords, [], []⟩
    let foreign := plugin 1 [7] false ["weather forecast"]
    let shorter := plugin 2 [5] false ["", "sun"]
    let first := plugin 3 [5, 6] false ["RAIN", "rain", ""]
    let second := plugin 4 [] true ["fall"]
    let ctx : QueryContext := ⟨"Rainfall, Weather forecast and Sun", none, [5], [], [], []⟩
    foreign.hitLength .keyword ctx.text = 16 ∧ second.hitLength .keyword ctx.text = 4 ∧
      ∃ r, ofPlugins .keyword [foreign, shorter, first, second] = .ok r ∧
        r.choose ctx = some ⟨first, [5], 4⟩ := by
  intro plugin foreign shorter first second ctx
  have hforeign : foreign.hitLength .keyword ctx.text = 16 := by decide +kernel
  have hshorter : shorter.hitLength .keyword ctx.text = 3 := by decide +kernel
  have hfirst : first.hitLength .keyword ctx.text = 4 := by decide +kernel
  have hsecond : second.hitLength .keyword ctx.text = 4 := by decide +kernel
  refine ⟨hforeign, hsecond, _, rfl, ?_⟩
  refine ((choose_first_longest rfl ctx).2.2.1 ⟨first, [5], 4⟩).mpr
    ⟨[foreign, shorter], [second], rfl, by decide, hfirst.symm, by decide, ?_, ?_⟩
  · intro p hp heligible
    rcases List.mem_pair.mp hp with rfl | rfl
    · exact absurd heligible (by decide)
    · rw [hshorter]
      decide
  · intro p hp _
    rw [List.mem_singleton.mp hp, hsecond]

end Recaller

end SemanticQuery
