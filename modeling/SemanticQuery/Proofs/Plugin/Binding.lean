import SemanticQuery.Plugin.Binding
import SemanticQuery.Proofs.Occurrence

/-!
# Bound parameters and filters

A parameter that stands for an element is bound to the word of an exact match, which is the value of
the first filter on the element. The other filters on it, and what the first one does with its value,
are not asked for.
-/

namespace SemanticQuery

open Number

variable {found : List ElementMatch} {filters : List Filter} {elementId : Int} {word : String}

/-! ### Matches and filters -/

/-- A match is one of an element's values or ids, and exact. -/
structure ElementMatch.IsExactFor (m : ElementMatch) (elementId : Int) : Prop where
  element : m.element.id = elementId
  kind : m.element.kind = .value ∨ m.element.kind = .id
  similarity : (Double.ofNat 1).le m.similarity = true

lemma ElementMatch.isExact_iff (m : ElementMatch) :
    m.isExact elementId = true ↔ m.IsExactFor elementId := by
  have hkind : m.element.kind.isFilterable = true ↔
      m.element.kind = .value ∨ m.element.kind = .id := by
    simp [ElementKind.isFilterable]
  rw [isExact, Bool.and_eq_true, Bool.and_eq_true, beq_iff_eq, hkind]
  constructor
  · rintro ⟨⟨helement, hkind⟩, hsimilarity⟩
    exact ⟨helement, hkind, hsimilarity⟩
  · rintro ⟨helement, hkind, hsimilarity⟩
    exact ⟨⟨helement, hkind⟩, hsimilarity⟩

namespace Filter

/-- A filter belongs to an element. -/
def IsOn (elementId : Int) (f : Filter) : Prop := f.elementId = some elementId

/-- A filter allows a value: `EQUALS` requires it and `NOT_EQUALS` excludes it. -/
structure Allows (f : Filter) (v : Json.Value) : Prop where
  required : f.operator = .equals → f.value = v
  notExcluded : f.operator = .notEquals → f.value ≠ v

/-- The filters on an element allow the value of the first of them. -/
def AllowFirst (filters : List Filter) (elementId : Int) : Prop :=
  ∀ first, IsFirstWith (IsOn elementId) filters first →
    ∀ f ∈ filters, f.IsOn elementId → f.Allows first.value

lemma requires_iff (f : Filter) : f.requires word = true ↔ f.value = .string word := by
  unfold requires
  split
  next text h => simp [h]
  next h => simpa using h word

lemma forElement_eq_some_iff {f : Filter} :
    forElement filters elementId = some f ↔ IsFirstWith (IsOn elementId) filters f :=
  find?_eq_some_iff_isFirstWith fun _ => beq_iff_eq

end Filter

/-! ### Words -/

/-- An element is bound to the word of its first exact match, if that is the value of the first
filter on it. -/
lemma boundWord_eq_some_iff :
    boundWord found filters elementId = some word ↔
      (∃ m, IsFirstWith (·.IsExactFor elementId) found m ∧ m.word = word) ∧
        ∀ f, IsFirstWith (Filter.IsOn elementId) filters f → f.value = .string word := by
  have hmatch : ∀ m, found.find? (·.isExact elementId) = some m ↔
      IsFirstWith (·.IsExactFor elementId) found m := fun m =>
    find?_eq_some_iff_isFirstWith ElementMatch.isExact_iff
  simp only [← hmatch, ← Filter.forElement_eq_some_iff, ← Filter.requires_iff]
  unfold boundWord
  cases found.find? (·.isExact elementId) with
  | none => simp
  | some m =>
    cases Filter.forElement filters elementId with
    | none => simp
    | some f =>
      simp only [Option.some.injEq, exists_eq_left', forall_eq']
      constructor
      · intro h
        split at h
        next hrequires =>
          obtain rfl := Option.some.inj h
          exact ⟨rfl, hrequires⟩
        next => simp at h
      · rintro ⟨rfl, hrequires⟩
        rw [if_pos hrequires]

/-- The first match of an element binds it, if it is exact and the first filter requires its word. -/
lemma boundWord_cons_cons {m : ElementMatch} {f : Filter} (hm : m.IsExactFor elementId)
    (hon : f.IsOn elementId) (hvalue : f.value = .string m.word) :
    boundWord (m :: found) (f :: filters) elementId = some m.word := by
  have hfilter : Filter.forElement (f :: filters) elementId = some f := by
    have hkept : (f.elementId == some elementId) = true := beq_iff_eq.mpr hon
    exact List.find?_cons_of_pos hkept
  refine boundWord_eq_some_iff.mpr ⟨⟨m, ⟨hm, [], found, rfl, nofun⟩, rfl⟩, fun first hfirst => ?_⟩
  obtain rfl : f = first :=
    Option.some.inj (hfilter.symm.trans (Filter.forElement_eq_some_iff.mpr hfirst))
  exact hvalue

/-! ### Parameters -/

/-- The bindings of the parameters stand before the others. -/
lemma bindings_eq_append (plugin : Plugin) (c : Candidate) (filters : List Filter)
    (tenant : Option Int) :
    ∃ others, bindings plugin c filters tenant =
      plugin.params.filterMap (Param.binding c.elementMatches filters) ++ others := by
  simp only [bindings, List.append_assoc]
  exact ⟨_, rfl⟩

lemma mem_bindings {plugin : Plugin} {c : Candidate} {p : Param} {b : Binding}
    (tenant : Option Int) (hp : p ∈ plugin.params)
    (hb : p.binding c.elementMatches filters = some b) :
    b ∈ bindings plugin c filters tenant := by
  obtain ⟨others, hbindings⟩ := bindings_eq_append plugin c filters tenant
  rw [hbindings]
  exact List.mem_append_left _ (List.mem_filterMap.mpr ⟨p, hp, hb⟩)

lemma Param.binding_eq_some_iff {p : Param} {b : Binding} (hkind : p.kind = .semantic)
    (helement : p.elementId = some elementId) :
    p.binding found filters = some b ↔
      ∃ word, boundWord found filters elementId = some word ∧ b = ⟨p.key, .string word⟩ := by
  simp only [binding, hkind, helement, Option.bind_some, Option.map_eq_some_iff, eq_comm (b := b)]

/-- A parameter is bound to the word of an exact match, which is the value of the first filter on its
element. The filters on the element allow the word exactly if they allow that value. -/
theorem bindings_allowed_iff {plugin : Plugin} {c : Candidate} {p : Param} {b : Binding}
    (tenant : Option Int) (hp : p ∈ plugin.params) (hkind : p.kind = .semantic)
    (helement : p.elementId = some elementId)
    (hb : p.binding c.elementMatches filters = some b) :
    b ∈ bindings plugin c filters tenant ∧ ∃ word, b = ⟨p.key, .string word⟩ ∧
      (∃ m ∈ c.elementMatches, m.IsExactFor elementId ∧ m.word = word) ∧
      (∀ f, IsFirstWith (Filter.IsOn elementId) filters f → f.value = .string word) ∧
      ((∀ f ∈ filters, f.IsOn elementId → f.Allows (.string word)) ↔
        Filter.AllowFirst filters elementId) := by
  refine ⟨mem_bindings tenant hp hb, ?_⟩
  obtain ⟨word, hword, rfl⟩ := (Param.binding_eq_some_iff hkind helement).mp hb
  obtain ⟨⟨m, hm, hmword⟩, hvalue⟩ := boundWord_eq_some_iff.mp hword
  refine ⟨word, rfl, ⟨m, hm.mem, hm.1, hmword⟩, hvalue, ?_⟩
  constructor
  · intro hallows first hfirst f hf hon
    rw [hvalue first hfirst]
    exact hallows f hf hon
  · intro hallows f hf hon
    obtain ⟨first, hfirst⟩ := exists_isFirstWith hf hon
    have hallowed := hallows first hfirst f hf hon
    rwa [hvalue first hfirst] at hallowed

/-- A name that is required, and by another filter held against another one. -/
theorem bindings_allowed_iff_both :
    let p : Param := ⟨"singer", .semantic, some 4, none, none⟩
    let plugin : Plugin := ⟨3, "card", "PLUGIN", [], false, [], [], [p]⟩
    let singer : Element := ⟨4, 1, "singer", "singer_name", [], .value, []⟩
    let c : Candidate := { Candidate.blank with elementMatches := [⟨singer, "Ann", .ofNat 1, none⟩] }
    let filters : List Filter :=
      [⟨"singer_name", "singer", .equals, .string "Ann", some 4⟩,
        ⟨"singer_name", "singer", .notEquals, .string "Bob", some 4⟩]
    ⟨"singer", .string "Ann"⟩ ∈ bindings plugin c filters none ∧
      ∀ f ∈ filters, f.IsOn 4 → f.Allows (.string "Ann") := by
  intro p plugin singer c filters
  have hb : p.binding c.elementMatches filters = some ⟨"singer", .string "Ann"⟩ :=
    (Param.binding_eq_some_iff rfl rfl).mpr
      ⟨"Ann", boundWord_cons_cons ⟨rfl, .inl rfl, by decide +kernel⟩ rfl rfl, rfl⟩
  have hp : p ∈ plugin.params := List.mem_cons_self
  obtain ⟨hmem, word, hword, -, hvalue, hallowed⟩ := bindings_allowed_iff none hp rfl rfl hb
  obtain rfl : "Ann" = word := by simpa [p] using hword
  refine ⟨hmem, hallowed.mpr fun first hfirst f hf _ => ?_⟩
  rw [hvalue first hfirst]
  rcases List.mem_pair.mp hf with rfl | rfl
  · exact ⟨fun _ => rfl, nofun⟩
  · exact ⟨nofun, fun _ => by simp⟩

/-- The first filter excludes the word, and the parameter is bound to it. -/
theorem bindings_not_allowed :
    let p : Param := ⟨"singer", .semantic, some 4, none, none⟩
    let plugin : Plugin := ⟨3, "card", "PLUGIN", [], false, [], [], [p]⟩
    let singer : Element := ⟨4, 1, "singer", "singer_name", [], .value, []⟩
    let c : Candidate := { Candidate.blank with elementMatches := [⟨singer, "Ann", .ofNat 1, none⟩] }
    let f : Filter := ⟨"singer_name", "singer", .notEquals, .string "Ann", some 4⟩
    p.binding c.elementMatches [f] = some ⟨"singer", .string "Ann"⟩ ∧
      ⟨"singer", .string "Ann"⟩ ∈ bindings plugin c [f] none ∧ f.IsOn 4 ∧
      ¬f.Allows (.string "Ann") := by
  intro p plugin singer c f
  have hb : p.binding c.elementMatches [f] = some ⟨"singer", .string "Ann"⟩ :=
    (Param.binding_eq_some_iff rfl rfl).mpr
      ⟨"Ann", boundWord_cons_cons ⟨rfl, .inl rfl, by decide +kernel⟩ rfl rfl, rfl⟩
  refine ⟨hb, mem_bindings none List.mem_cons_self hb, rfl, fun hallowed => ?_⟩
  exact hallowed.notExcluded rfl rfl

end SemanticQuery
