import SemanticQuery.Proofs.Number.Double
import SemanticQuery.Proofs.Plugin.Choice
import SemanticQuery.Proofs.Plugin.Repetition
import SemanticQuery.Proofs.Text.Case

/-!
# Scores and the length of a text

A score counts characters of the text in which the hit was found. For keywords that is the text in
small letters, which is longer than the text itself by its dotted capitals. The distance and the
length that makes further recalls needless count characters of the text itself, so a score is
measured against the text only as far as no dotted capital makes a difference.
-/

namespace SemanticQuery

open Number

variable {strategy : RecallStrategy} {text : String} {ctx : QueryContext} {c : Recalled}

/-! ### Texts that are searched -/

namespace RecallStrategy

/-- The characters in which a strategy looks for hits. -/
def searched (strategy : RecallStrategy) (text : String) : List Char :=
  match strategy with
  | .keyword => Text.lowerChars text.toList
  | .pattern => text.toList

/-- How many characters more than the text itself they are. -/
def surplus (strategy : RecallStrategy) (text : String) : ℕ :=
  match strategy with
  | .keyword => text.toList.count 'İ'
  | .pattern => 0

lemma length_searched (strategy : RecallStrategy) (text : String) :
    (strategy.searched text).length = text.length + strategy.surplus text := by
  cases strategy with
  | keyword => rw [searched, Text.length_lowerChars, String.length_toList, surplus]
  | pattern => rw [searched, String.length_toList, surplus, Nat.add_zero]

lemma surplus_le (strategy : RecallStrategy) (text : String) :
    strategy.surplus text ≤ text.length := by
  cases strategy with
  | keyword =>
    rw [surplus, ← String.length_toList]
    exact List.count_le_length
  | pattern => exact Nat.zero_le _

end RecallStrategy

namespace Plugin.IsHit

variable {p : Plugin} {before word after : List Char}

lemma searched_eq (h : p.IsHit strategy text before word after) :
    strategy.searched text = before ++ (word ++ after) := by
  cases strategy with
  | keyword => exact h.1
  | pattern =>
    obtain ⟨source, _, tree, _, hmatch⟩ := h
    exact hmatch.text_eq

lemma length_add (h : p.IsHit strategy text before word after) :
    before.length + word.length + after.length = text.length + strategy.surplus text := by
  rw [← strategy.length_searched, h.searched_eq, List.length_append, List.length_append,
    Nat.add_assoc]

end Plugin.IsHit

/-! ### Scores of a choice -/

namespace Recalled

/-- The score is at least the length of the text, as the scores of candidates are compared with it:
as doubles. -/
def Reaches (c : Recalled) (ctx : QueryContext) : Prop :=
  (Double.ofNat ctx.length).le (.ofNat c.score) = true

lemma score_add_distance (h : c.score ≤ ctx.length) : c.score + c.distance ctx = ctx.length :=
  Nat.add_sub_of_le h

/-- The hit covers all of the text. -/
def CoversAll (strategy : RecallStrategy) (c : Recalled) (ctx : QueryContext) : Prop :=
  ∃ word, c.plugin.IsHit strategy ctx.text [] word []

/-- The score is measured against the text: it is at most its length, the distance is the rest of
it, and only a hit that covers all of the text reaches it. -/
structure IsMeasured (strategy : RecallStrategy) (c : Recalled) (ctx : QueryContext) : Prop where
  score_le : c.score ≤ ctx.length
  add_distance : c.score + c.distance ctx = ctx.length
  coversAll : c.Reaches ctx → c.CoversAll strategy ctx

end Recalled

namespace Engine

variable {e : Engine}

lemma exists_mem_candidatesOf (e : Engine) (ctx : QueryContext) (c : Recalled) :
    ∃ model, e.candidateFor ctx c model ∈ e.candidatesOf ctx c := by
  unfold candidatesOf
  dsimp only
  split
  next => exact ⟨anyModel, List.mem_map_of_mem List.mem_cons_self⟩
  next hmodels =>
    obtain ⟨model, rest, hcons⟩ : ∃ model rest, c.models = model :: rest :=
      List.exists_cons_of_ne_nil fun hnil => hmodels (by simp [hnil])
    exact ⟨model, List.mem_map_of_mem (by rw [hcons]; exact List.mem_cons_self)⟩

/-- The candidates of a choice make further recalls needless where its score reaches the length of
the text. -/
lemma skips_candidatesOf_iff (hmodes : e.modes ≠ []) :
    e.skips { ctx with candidates := e.candidatesOf ctx c } = true ↔ c.Reaches ctx := by
  unfold skips
  rw [List.any_eq_true]
  constructor
  · rintro ⟨candidate, hcandidate, hskips⟩
    obtain ⟨model, -, rfl⟩ := List.mem_map.mp hcandidate
    exact (Bool.and_eq_true_iff.mp hskips).1
  · intro hreaches
    obtain ⟨model, hmem⟩ := e.exists_mem_candidatesOf ctx c
    refine ⟨_, hmem, Bool.and_eq_true_iff.mpr ⟨hreaches, ?_⟩⟩
    exact List.contains_iff_mem.mpr (modeOf_mem hmodes c.plugin)

end Engine

namespace Recaller

variable {plugins : List Plugin} {r : Recaller}

lemma exists_isHit_of_choose (h : ofPlugins strategy plugins = .ok r) (hc : r.choose ctx = some c) :
    ∃ before word after, c.plugin.IsHit strategy ctx.text before word after ∧
      word.length = c.score ∧
      before.length + c.score + after.length = ctx.length + strategy.surplus ctx.text := by
  obtain ⟨front, back, hplugins, -, hscore, hpos, -, -⟩ := (choose_eq_some_iff h ctx c).mp hc
  obtain ⟨ts, hts⟩ := exists_triggers_of_mem h (p := c.plugin) (by simp [hplugins])
  have hhits := (Plugin.hits_hitLength hts ctx.text).1
  rw [← hscore] at hhits
  obtain ⟨before, word, after, hhit, hword⟩ := hhits.resolve_left hpos.ne'
  refine ⟨before, word, after, hhit, hword, ?_⟩
  rw [← hword]
  exact hhit.length_add

lemma length_le_score_of_choose {before word after : List Char}
    (h : ofPlugins strategy plugins = .ok r) (hc : r.choose ctx = some c)
    (hhit : c.plugin.IsHit strategy ctx.text before word after) : word.length ≤ c.score := by
  obtain ⟨front, back, hplugins, -, hscore, -, -, -⟩ := (choose_eq_some_iff h ctx c).mp hc
  obtain ⟨ts, hts⟩ := exists_triggers_of_mem h (p := c.plugin) (by simp [hplugins])
  rw [hscore]
  exact (Plugin.hits_hitLength hts ctx.text).2 _ ⟨before, word, after, hhit, rfl⟩

lemma score_le_of_choose (h : ofPlugins strategy plugins = .ok r) (hc : r.choose ctx = some c) :
    c.score ≤ ctx.length + strategy.surplus ctx.text := by
  obtain ⟨before, word, after, -, -, hparts⟩ := exists_isHit_of_choose h hc
  omega

lemma log2_score_lt_of_choose (h : ofPlugins strategy plugins = .ok r)
    (hc : r.choose ctx = some c) (hlength : ctx.length < 2 ^ 64) : c.score.log2 < 1023 := by
  have hscore := score_le_of_choose h hc
  have hsurplus : strategy.surplus ctx.text ≤ ctx.length := strategy.surplus_le ctx.text
  have hlog : c.score.log2 < 65 := Double.log2_lt_of_lt (by decide) (by omega)
  omega

/-- A score is measured against the text where it reaches the length only by covering all of a text
without surplus. -/
lemma isMeasured_iff_of_choose (h : ofPlugins strategy plugins = .ok r)
    (hc : r.choose ctx = some c) (hlength : ctx.length < 2 ^ 64) :
    c.IsMeasured strategy ctx ↔
      (c.Reaches ctx → strategy.surplus ctx.text = 0 ∧ ctx.length ≤ c.score) := by
  obtain ⟨before, word, after, hhit, -, hparts⟩ := exists_isHit_of_choose h hc
  constructor
  · rintro ⟨hle, -, hcovers⟩ hreaches
    obtain ⟨all, hall⟩ := hcovers hreaches
    have hlongest := length_le_score_of_choose h hc hall
    have hlengths : 0 + all.length + 0 = ctx.length + strategy.surplus ctx.text := hall.length_add
    omega
  · intro hsurplus
    by_cases hreaches : c.Reaches ctx
    · obtain ⟨hzero, hle⟩ := hsurplus hreaches
      -- without surplus the hit leaves nothing of the text
      have hbefore : before = [] := List.eq_nil_of_length_eq_zero (by omega)
      have hafter : after = [] := List.eq_nil_of_length_eq_zero (by omega)
      rw [hbefore, hafter] at hhit
      have hscore : c.score ≤ ctx.length := by omega
      exact ⟨hscore, Recalled.score_add_distance hscore, fun _ => ⟨word, hhit⟩⟩
    · have hlt : c.score < ctx.length := by
        by_contra hle
        exact hreaches
          (Double.ofNat_le_ofNat (by omega) (log2_score_lt_of_choose h hc hlength))
      exact ⟨hlt.le, Recalled.score_add_distance hlt.le, fun hcontra => absurd hcontra hreaches⟩

/-- The score of a choice is the length of a hit in the searched text, and the distance is what the
hit leaves of that text, less its surplus. So the score is measured against the text exactly where
it does not reach its length, or reaches it in a text without surplus: a text for patterns, or
without dotted capitals. Up to 53 bits a score reaches a length only if it is no less. -/
theorem isMeasured_choose_iff (h : ofPlugins strategy plugins = .ok r)
    (hc : r.choose ctx = some c) :
    (∃ before word after, c.plugin.IsHit strategy ctx.text before word after ∧
      word.length = c.score ∧
      before.length + c.score + after.length = ctx.length + strategy.surplus ctx.text ∧
      c.distance ctx = before.length + after.length - strategy.surplus ctx.text) ∧
    (∀ e : Engine, e.modes ≠ [] →
      (e.skips { ctx with candidates := e.candidatesOf ctx c } = true ↔ c.Reaches ctx)) ∧
    (ctx.length < 2 ^ 64 →
      (c.IsMeasured strategy ctx ↔
        (c.Reaches ctx → strategy.surplus ctx.text = 0 ∧ ctx.length ≤ c.score))) ∧
    (ctx.length ≤ 2 ^ 53 →
      (c.Reaches ctx ↔ ctx.length ≤ c.score) ∧
      (c.IsMeasured strategy ctx ↔
        (ctx.length ≤ c.score → strategy.surplus ctx.text = 0))) := by
  refine ⟨?_, fun e => Engine.skips_candidatesOf_iff, isMeasured_iff_of_choose h hc,
    fun hlength => ?_⟩
  · obtain ⟨before, word, after, hhit, hword, hparts⟩ := exists_isHit_of_choose h hc
    refine ⟨before, word, after, hhit, hword, hparts, ?_⟩
    unfold Recalled.distance
    omega
  · have hword : ctx.length < 2 ^ 64 := by omega
    have hreaches : c.Reaches ctx ↔ ctx.length ≤ c.score :=
      Double.ofNat_le_ofNat_iff_of_le hlength (log2_score_lt_of_choose h hc hword)
    refine ⟨hreaches, ?_⟩
    rw [isMeasured_iff_of_choose h hc hword, hreaches]
    exact forall_congr' fun hle => and_iff_left hle

/-- A dotted capital does no harm to a hit that is short enough. -/
theorem isMeasured_choose_short :
    let p : Plugin := ⟨1, "weather", "PLUGIN", [], false, ["HAVA"], [], []⟩
    let ctx : QueryContext := ⟨"İzmir hava", none, [], [], [], []⟩
    ∃ r c, ofPlugins .keyword [p] = .ok r ∧ r.choose ctx = some c ∧ c.score = 4 ∧
      c.distance ctx = 6 ∧ c.IsMeasured .keyword ctx := by
  intro p ctx
  have hplugins : ofPlugins .keyword [p] = .ok [(p, [.keyword "HAVA"])] := rfl
  have hchosen : (choose [(p, [.keyword "HAVA"])] ctx).map Recalled.score = some 4 := by
    decide +kernel
  obtain ⟨c, hc, hscore⟩ := Option.map_eq_some_iff.mp hchosen
  have hlength : ctx.length = 10 := by decide
  have hmeasured := (isMeasured_choose_iff hplugins hc).2.2.2 (by rw [hlength]; decide)
  refine ⟨_, c, hplugins, hc, hscore, by rw [Recalled.distance, hlength, hscore], ?_⟩
  exact hmeasured.2.mpr fun hle => absurd hle (by rw [hlength, hscore]; decide)

/-- Two dotted capitals are four characters in small letters, more than the text has. The hit leaves
a character uncovered, but the distance is zero and further recalls are needless. -/
theorem not_isMeasured_choose :
    let p : Plugin := ⟨1, "dotted", "PLUGIN", [], false, ["İİ"], [], []⟩
    let ctx : QueryContext := ⟨"İİb", none, [], [], [], []⟩
    ∃ r c, ofPlugins .keyword [p] = .ok r ∧ r.choose ctx = some c ∧ ctx.length = 3 ∧
      c.score = 4 ∧ c.distance ctx = 0 ∧ c.Reaches ctx ∧ ¬c.CoversAll .keyword ctx ∧
      ¬c.IsMeasured .keyword ctx := by
  intro p ctx
  have hchosen : (choose [(p, [.keyword "İİ"])] ctx).map (fun c => (c.plugin, c.score)) =
      some (p, 4) := by
    decide +kernel
  obtain ⟨c, hc, hparts⟩ := Option.map_eq_some_iff.mp hchosen
  obtain ⟨hplugin, hscore⟩ := Prod.mk.inj hparts
  have hlength : ctx.length = 3 := by decide
  have hreaches : c.Reaches ctx := by
    rw [Recalled.Reaches, hlength, hscore]
    decide +kernel
  have hcovers : ¬c.CoversAll .keyword ctx := by
    rintro ⟨word, htext, keyword, hkeyword, rfl⟩
    rw [hplugin] at hkeyword
    obtain rfl := List.mem_singleton.mp hkeyword
    exact absurd htext (by decide +kernel)
  refine ⟨_, c, rfl, hc, hlength, hscore, ?_, hreaches, hcovers, fun hmeasured => ?_⟩
  · rw [Recalled.distance, hlength, hscore]
  · exact hcovers (hmeasured.coversAll hreaches)

end Recaller

end SemanticQuery
