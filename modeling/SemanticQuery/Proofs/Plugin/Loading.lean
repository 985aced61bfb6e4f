import SemanticQuery.Proofs.Plugin.Scope

/-!
# Loaded plugins

Whatever the order in which the models of a plugin are written, once loaded they ascend, so the
engine of a configuration is ordered. A record yields what its fields yield.
-/

namespace SemanticQuery

/-! ### Sorted lists -/

namespace SortedList

variable {α : Type} [LT α] [DecidableLT α] [DecidableEq α] {a : α} {as : List α}

lemma mem_insert_cases {b : α} (h : b ∈ insert a as) : b = a ∨ b ∈ as := by
  induction as with
  | nil => exact .inl (List.mem_singleton.mp h)
  | cons c as ih =>
    rw [insert] at h
    split_ifs at h
    · exact List.mem_cons.mp h
    · exact .inr h
    · rcases List.mem_cons.mp h with rfl | h
      · exact .inr List.mem_cons_self
      · exact (ih h).imp_right (List.mem_cons_of_mem _)

variable [IsStrictTotalOrder α (· < ·)]

lemma pairwise_insert (h : as.Pairwise (· < ·)) : (insert a as).Pairwise (· < ·) := by
  induction as with
  | nil => exact List.pairwise_singleton _ a
  | cons b as ih =>
    obtain ⟨hbelow, has⟩ := List.pairwise_cons.mp h
    rw [insert]
    split_ifs with hlt heq
    · refine List.pairwise_cons.mpr ⟨fun c hc => ?_, h⟩
      rcases List.mem_cons.mp hc with rfl | hc
      · exact hlt
      · exact trans_of (· < ·) hlt (hbelow c hc)
    · exact h
    · refine List.pairwise_cons.mpr ⟨fun c hc => ?_, ih has⟩
      rcases mem_insert_cases hc with rfl | hc
      · rcases trichotomous_of (· < ·) c b with hless | hless | hless
        · exact absurd hless hlt
        · exact absurd hless heq
        · exact hless
      · exact hbelow c hc

lemma pairwise_ofList (as : List α) : (ofList as).Pairwise (· < ·) := by
  induction as with
  | nil => exact .nil
  | cons a as ih => exact pairwise_insert ih

end SortedList

/-! ### Shapes -/

namespace Json

variable {α β : Type} {P : α → Prop} {Q : β → Prop}

/-- What a shape reads has a property. -/
def Shape.Yields (s : Shape α) (P : α → Prop) : Prop := ∀ levels d a, s levels d = some a → P a

/-- What a record reads has a property. -/
def Record.Yields (r : Record α) (P : α → Prop) : Prop :=
  ∀ levels slots a rest, r.take levels slots = some (a, rest) → P a

lemma Shape.yields_list {s : Shape α} (h : s.Yields P) : s.list.Yields fun as => ∀ a ∈ as, P a := by
  have hall : ∀ levels ds as, readAll s levels ds = some as → ∀ a ∈ as, P a := by
    intro levels ds
    induction ds with
    | nil =>
      rintro as ⟨⟩ a ha
      exact absurd ha List.not_mem_nil
    | cons d ds ih =>
      intro as has
      simp only [readAll, Option.bind_eq_bind, Option.bind_eq_some_iff] at has
      obtain ⟨first, hfirst, rest, hrest, heq⟩ := has
      obtain rfl := Option.some.inj heq
      exact List.forall_mem_cons.mpr ⟨h levels d first hfirst, ih rest hrest⟩
  intro levels d as has
  unfold list at has
  split at has
  · exact hall _ _ as has
  · simp at has

lemma Shape.yields_mapValue {f : α → β} (s : Shape α) (h : ∀ a, Q (f a)) :
    (mapValue f s).Yields Q := by
  intro levels d b hb
  obtain ⟨a, -, rfl⟩ := Option.map_eq_some_iff.mp hb
  exact h a

lemma Record.yields_shape {r : Record α} (h : r.Yields P) : r.shape.Yields P := by
  intro levels d a ha
  unfold shape at ha
  split at ha
  · simp only [Option.bind_eq_bind, Option.bind_eq_some_iff] at ha
    obtain ⟨slots, -, ⟨b, rest⟩, hb, heq⟩ := ha
    exact Option.some.inj heq ▸ h _ _ b rest hb
  · simp only [Option.bind_eq_bind, Option.bind_eq_some_iff] at ha
    obtain ⟨slots, -, ⟨b, rest⟩, hb, heq⟩ := ha
    exact Option.some.inj heq ▸ h _ _ b rest hb
  · simp at ha

namespace Record

lemma yields_const {a : α} (h : P a) : (const a).Yields P := by
  intro levels slots b rest hb
  obtain ⟨rfl, -⟩ := Prod.mk.inj (Option.some.inj hb)
  exact h

/-- A further field: the record yields what all results for the values of the field have. -/
lemma yields_andThen {f : Record (α → β)} {r : Record α} (hf : f.Yields fun g => ∀ a, P a → Q (g a))
    (hr : r.Yields P) : (f.andThen r).Yields Q := by
  intro levels slots b rest hb
  simp only [andThen, Option.bind_eq_bind, Option.bind_eq_some_iff] at hb
  obtain ⟨⟨g, slots'⟩, hg, ⟨a, rest'⟩, ha, heq⟩ := hb
  obtain ⟨rfl, -⟩ := Prod.mk.inj (Option.some.inj heq)
  exact hf _ _ g slots' hg a (hr _ _ a rest' ha)

lemma yields_optional {name : String} {s : Shape α} {missing : α} (hs : s.Yields P)
    (hmissing : P missing) : (optional name s missing).Yields P := by
  intro levels slots a rest ha
  unfold optional at ha
  dsimp only at ha
  split at ha
  · obtain ⟨b, hb, heq⟩ := Option.map_eq_some_iff.mp ha
    exact (Prod.mk.inj heq).1 ▸ hs _ _ b hb
  · obtain ⟨rfl, -⟩ := Prod.mk.inj (Option.some.inj ha)
    exact hmissing
  · simp at ha

/-- A field of any value. -/
lemma yields_andThen_any {f : Record (α → β)} (r : Record α) (hf : f.Yields fun g => ∀ a, Q (g a)) :
    (f.andThen r).Yields Q :=
  yields_andThen (P := fun _ => True) (fun levels slots g rest hg a _ => hf levels slots g rest hg a)
    fun _ _ _ _ _ => trivial

end Record

end Json

/-! ### Plugins -/

open Json in
/-- The models of a plugin ascend, however they are written. -/
lemma Plugin.yields_shape : Plugin.shape.Yields fun p => p.models.Pairwise (· < ·) := by
  have hmodels : (Shape.mapValue SortedList.ofList (.list .int)).Yields
      fun models => models.Pairwise (· < ·) :=
    Shape.yields_mapValue _ SortedList.pairwise_ofList
  refine Record.yields_shape ?_
  -- the four fields behind the models, the models, and the three fields before them
  refine Record.yields_andThen_any _ (Record.yields_andThen_any _ (Record.yields_andThen_any _
    (Record.yields_andThen_any _ (Record.yields_andThen ?_ (Record.yields_optional hmodels .nil)))))
  refine Record.yields_andThen_any _ (Record.yields_andThen_any _ (Record.yields_andThen_any _
    (Record.yields_const ?_)))
  intro id name type models hascending servesAll keywords patterns params
  exact hascending

lemma Plugin.pairwise_models_of_loadAll {text : String} {plugins : List Plugin}
    (h : Plugin.loadAll text = .ok plugins) : ∀ p ∈ plugins, p.models.Pairwise (· < ·) := by
  unfold Plugin.loadAll Json.Shape.load at h
  split at h
  next found hfound =>
    obtain rfl := Except.ok.inj h
    obtain ⟨d, -, hd⟩ := Option.bind_eq_some_iff.mp hfound
    exact Json.Shape.yields_list Plugin.yields_shape _ d found hd
  next => simp at h

/-- The engine of a configuration is ordered. -/
theorem Engine.isOrdered_of_load {text : String} {plugins : List Plugin} {c : Config} {e : Engine}
    (hplugins : Plugin.loadAll text = .ok plugins) (h : Engine.load c plugins = .ok e) :
    e.IsOrdered := by
  unfold Engine.load at h
  cases hr : Recaller.ofPlugins c.strategy plugins with
  | error failure => simp [hr, bind, Except.bind] at h
  | ok r =>
    obtain rfl : (⟨r, c.pluginModes⟩ : Engine) = e := by
      simpa [hr, bind, Except.bind, pure, Except.pure] using h
    intro entry hentry
    have hentries := (Recaller.triggers_of_ofPlugins hr).flip
    obtain ⟨p, hp, rfl, -⟩ := exists_mem_of_forall₂ hentries hentry
    exact Plugin.pairwise_models_of_loadAll hplugins _ hp

end SemanticQuery
