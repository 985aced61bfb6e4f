import SemanticQuery.Proofs.Dictionary.Parts

/-!
# What terms are shown as

A look-up shows a key with blanks for its marks. A term that holds no mark itself is so shown in
small letters; one that does is shown as another term, with which it has one key and one entry.
-/

namespace SemanticQuery.Dictionary

/-! ### Keys and surfaces -/

lemma mark_notMem_surfaceOf (key : Key) : blankMark ∉ surfaceOf key := by
  rw [surfaceOf, List.mem_map]
  rintro ⟨c, -, hc⟩
  split at hc
  · exact absurd hc (by decide)
  · simp_all

lemma surfaceOf_eq_self {key : Key} (h : blankMark ∉ key) : surfaceOf key = key := by
  rw [surfaceOf]
  conv_rhs => rw [← List.map_id key]
  refine List.map_congr_left fun c hc => ?_
  have hmark : c ≠ blankMark := fun heq => h (heq ▸ hc)
  simp [hmark]

/-- The key of a term is shown as its small form with blanks for marks. -/
lemma surfaceOf_keyOf (term : String) :
    surfaceOf (keyOf term) = surfaceOf (Text.lowerChars term.toList) := by
  rw [keyOf_eq, surfaceOf, surfaceOf, List.map_map]
  refine List.map_congr_left fun c _ => ?_
  by_cases hblank : c = ' '
  · rw [hblank]; rfl
  · simp [marked, hblank]

/-- Terms have one key where their small forms are the same with blanks for marks. -/
lemma keyOf_eq_iff (term other : String) :
    keyOf term = keyOf other ↔
      surfaceOf (Text.lowerChars term.toList) = surfaceOf (Text.lowerChars other.toList) := by
  rw [← surfaceOf_inj (blank_notMem_keyOf term) (blank_notMem_keyOf other), surfaceOf_keyOf,
    surfaceOf_keyOf]

lemma mark_mem_lowerChars_iff (term : String) :
    blankMark ∈ Text.lowerChars term.toList ↔ blankMark ∈ term.toList :=
  Text.mem_lowerChars_iff (by decide) (by decide) term.toList

/-- A term without marks is shown in small letters. -/
lemma surfaceOf_keyOf_eq {term : String} (h : blankMark ∉ term.toList) :
    String.ofList (surfaceOf (keyOf term)) = Text.lower term := by
  rw [surfaceOf_keyOf, surfaceOf_eq_self (mt (mark_mem_lowerChars_iff term).mp h), Text.lower]

/-! ### Look-ups -/

namespace Terms

variable {d : Terms} {tags : List String} {size limit : ℕ} {scope : Scope}

/-- A term of everyone is among the hits for itself. -/
lemma ofEntry_mem_lookupPrefix_self {term : String}
    (htags : d.everyone.lookup (keyOf term) = some tags) (haccepts : scope.accepts tags = true)
    (hlimit : 0 < limit) (hsize : min limit d.everyone.keys.card ≤ size) (tenant : Int) :
    Hit.ofEntry term (keyOf term, tags) ∈ d.lookupPrefix size tenant term limit scope := by
  have hmatching : keyOf term ∈ d.everyone.matching (keyOf term) scope.accepts :=
    TermMap.mem_matching.mpr ⟨List.prefix_rfl, tags, htags, haccepts⟩
  rw [lookupPrefix_eq hmatching]
  exact List.mem_map_of_mem (TermMap.mem_hits_self htags haccepts hlimit hsize)

/-- No hit shows a mark. -/
lemma mark_notMem_surface {tenant : Int} {text : String} {hit : Hit}
    (hhit : hit ∈ d.lookupPrefix size tenant text limit scope) :
    blankMark ∉ hit.surface.toList := by
  obtain ⟨p, -, rfl⟩ := List.mem_map.mp hhit
  rw [Hit.ofEntry, String.toList_ofList]
  exact mark_notMem_surfaceOf p.1

end Terms

namespace Index

/-- A term of everyone is a hit for itself, whatever the tenant and the limit, unless the search
size cuts off some of the hits. It is shown in small letters exactly where it holds no mark. Two
terms share an entry, and so their tags, exactly where their small forms differ by nothing but marks
in the place of blanks. -/
theorem mem_lookup_self_iff (size : ℕ) (ops : List Op) (term : String) :
    let i := (ofSnapshot size .empty).run ops
    (∀ tags limit scope, i.current.forward.get? (keyOf term) = some tags →
        scope.accepts tags = true → 0 < limit → min limit i.current.forward.size ≤ size →
        ∀ tenant,
          ⟨String.ofList (surfaceOf (Text.lowerChars term.toList)), tags, term⟩ ∈
              (i.lookupPrefix tenant term limit scope).1 ∧
            ((∃ hit ∈ (i.lookupPrefix tenant term limit scope).1,
                hit.surface = Text.lower term) ↔ blankMark ∉ term.toList)) ∧
      ∀ other, (keyOf term = keyOf other ↔
          surfaceOf (Text.lowerChars term.toList) = surfaceOf (Text.lowerChars other.toList)) ∧
        ∀ tenant tags, tenant.getD 0 = 0 →
          (i.insert other tenant tags).current.forward.get? (keyOf term) =
            if keyOf term = keyOf other then
              some (union ((i.current.forward.get? (keyOf term)).getD []) tags)
            else i.current.forward.get? (keyOf term) := by
  intro i
  have hi : i.current.Represents (Terms.empty.run ops) := represents_run_empty size ops
  refine ⟨?hits, fun other => ⟨keyOf_eq_iff term other, ?entry⟩⟩
  case hits =>
    intro tags limit scope htags haccepts hlimit hsize tenant
    rw [hi.everyone.get?_eq] at htags
    rw [hi.everyone.size_eq] at hsize
    rw [(lookups_run size ops tenant term limit scope).1]
    have hself := Terms.ofEntry_mem_lookupPrefix_self htags haccepts hlimit hsize tenant
    refine ⟨by rwa [← surfaceOf_keyOf], fun ⟨hit, hhit, hsurface⟩ hmark => ?_, fun hmark =>
      ⟨_, hself, surfaceOf_keyOf_eq hmark⟩⟩
    have hshown := Terms.mark_notMem_surface hhit
    rw [hsurface, Text.lower, String.toList_ofList, mark_mem_lowerChars_iff] at hshown
    exact hshown hmark
  case entry =>
    intro tenant tags htenant
    have hinsert := (hi.insert other tenant tags).everyone
    rw [insert, publish, hinsert.get?_eq, hi.everyone.get?_eq, Terms.everyone_insert,
      if_pos htenant, TagMap.lookup_add]
    split_ifs with hkey
    · rw [hkey]
    · rfl

/-- Blanks, a dotted capital I and a final sigma come back, with room for one hit only. -/
theorem mem_lookup_self_iff_blank :
    let i := (ofSnapshot 1 .empty).run
      [.insert "İ ΟΔΟΣ" (some 0) ["_1_2"], .insert "İ ΟΔΟΣ Α" none ["_1_3"]]
    i.current.forward.get? (keyOf "İ ΟΔΟΣ") = some ["_1_2"] ∧ i.current.forward.size = 2 ∧
      (∃ hit ∈ (i.lookupPrefix 7 "İ ΟΔΟΣ" 1 (.models [1])).1, hit.surface = "i̇ οδος") ∧
      (i.insert "İ ΟΔΟΣ Α" (some 0) ["_9"]).current.forward.get? (keyOf "İ ΟΔΟΣ") =
        some ["_1_2"] := by
  intro i
  have htags : i.current.forward.get? (keyOf "İ ΟΔΟΣ") = some ["_1_2"] := by decide +kernel
  have hsize : i.current.forward.size = 2 := by decide +kernel
  have hlower : Text.lower "İ ΟΔΟΣ" = "i̇ οδος" := by decide +kernel
  obtain ⟨hhits, hentry⟩ := mem_lookup_self_iff 1
    [.insert "İ ΟΔΟΣ" (some 0) ["_1_2"], .insert "İ ΟΔΟΣ Α" none ["_1_3"]] "İ ΟΔΟΣ"
  have hfound := hhits ["_1_2"] 1 (.models [1]) htags (by decide +kernel) (by decide)
    (by rw [hsize]; decide) 7
  refine ⟨htags, hsize, ?_, ?_⟩
  · rw [← hlower]
    exact hfound.2.mpr (by decide)
  · have hother := (hentry "İ ΟΔΟΣ Α").2 (some 0) ["_9"] rfl
    rwa [if_neg (by decide +kernel), htags] at hother

/-- A term with a mark is shown with a blank, and meets the term that holds the blank. -/
theorem notMem_lookup_self :
    let i := (ofSnapshot 10 .empty).run
      [.insert "c#" none ["_1_2"], .insert "c " none ["_1_3"]]
    i.current.forward.get? (keyOf "c#") = some ["_1_2", "_1_3"] ∧ i.current.forward.size = 1 ∧
      (i.lookupPrefix 0 "c#" 10 .all).1 = [⟨"c ", ["_1_2", "_1_3"], "c#"⟩] ∧
      Text.lower "c#" = "c#" ∧ Text.lower "c#" ≠ Text.lower "c " := by
  decide +kernel

end Index

end SemanticQuery.Dictionary
