import SemanticQuery.Proofs.Dictionary.Keys
import SemanticQuery.Proofs.Dictionary.Refinement

/-!
# Terms found by their parts

A look-up with room for all terms finds a term by those texts whose keys begin the key of the term.
The key of a beginning does, and from the other side that of an ending, unless the part ends in a
final sigma and the word goes on: then its last letter is written in another way.
-/

namespace SemanticQuery.Dictionary

variable {key : Key} {tags : List String} {size limit : ℕ} {scope : Scope}

namespace Terms

variable {d : Terms}

/-! ### What a look-up finds -/

lemma of_mem_lookupPrefix {tenant : Int} {text : String} {hit : Hit} (h : d.IsMarked)
    (hhit : hit ∈ d.lookupPrefix size tenant text limit scope) :
    ∃ key tags, ' ' ∉ key ∧ keyOf text <+: key ∧ hit = Hit.ofEntry text (key, tags) := by
  obtain ⟨p, hp, rfl⟩ := List.mem_map.mp hhit
  obtain ⟨hstart, htags, -⟩ := TermMap.of_mem_hits hp
  refine ⟨p.1, p.2, ?_, hstart, rfl⟩
  split_ifs at htags
  · exact h.ofTenant tenant p.1 (Finmap.mem_iff.mpr ⟨p.2, htags⟩)
  · exact h.everyone p.1 (Finmap.mem_iff.mpr ⟨p.2, htags⟩)

/-- Where everyone has a term those of the tenant do not count. -/
lemma lookupPrefix_eq {tenant : Int} {text : String}
    (h : key ∈ d.everyone.matching (keyOf text) scope.accepts) :
    d.lookupPrefix size tenant text limit scope =
      (d.everyone.hits (keyOf text) limit size scope.accepts).map (Hit.ofEntry text) := by
  rw [lookupPrefix, if_neg fun hnone => Finset.ne_empty_of_mem h hnone.1]

lemma of_mem_lookupSuffix {text : String} {hit : Hit}
    (hhit : hit ∈ d.lookupSuffix size text limit scope) :
    ∃ key tags, keyOf (reversed text) <+: key ∧ d.endings.lookup key = some tags ∧
      hit = Hit.ofReversed text (key, tags) := by
  obtain ⟨p, hp, rfl⟩ := List.mem_map.mp hhit
  obtain ⟨hstart, htags, -⟩ := TermMap.of_mem_hits hp
  exact ⟨p.1, p.2, hstart, htags, rfl⟩

/-- A term of everyone is found by the texts whose keys begin its own. -/
lemma ofEntry_mem_lookupPrefix_iff (h : d.IsMarked) (htags : d.everyone.lookup key = some tags)
    (haccepts : scope.accepts tags = true) (hlimit : d.everyone.keys.card ≤ limit)
    (hsize : d.everyone.keys.card ≤ size) (tenant : Int) (text : String) :
    Hit.ofEntry text (key, tags) ∈ d.lookupPrefix size tenant text limit scope ↔
      keyOf text <+: key := by
  constructor
  · intro hhit
    obtain ⟨key', tags', hkey', hstart, heq⟩ := of_mem_lookupPrefix h hhit
    have hkey : ' ' ∉ key := h.everyone key (Finmap.mem_iff.mpr ⟨tags, htags⟩)
    have hsurface := String.ofList_injective (congrArg Hit.surface heq)
    rwa [(surfaceOf_inj hkey hkey').mp hsurface]
  · intro hstart
    have hmatching : key ∈ d.everyone.matching (keyOf text) scope.accepts :=
      TermMap.mem_matching.mpr ⟨hstart, tags, htags, haccepts⟩
    rw [lookupPrefix_eq hmatching]
    exact List.mem_map_of_mem ((TermMap.mem_hits_iff hlimit hsize).mpr ⟨hstart, htags, haccepts⟩)

/-- A reversed term is found by the texts whose reversed keys begin its own. -/
lemma ofReversed_mem_lookupSuffix_iff (h : d.IsMarked) (htags : d.endings.lookup key = some tags)
    (haccepts : scope.accepts tags = true) (hlimit : d.endings.keys.card ≤ limit)
    (hsize : d.endings.keys.card ≤ size) (text : String) :
    Hit.ofReversed text (key, tags) ∈ d.lookupSuffix size text limit scope ↔
      keyOf (reversed text) <+: key := by
  constructor
  · intro hhit
    obtain ⟨key', tags', hstart, htags', heq⟩ := of_mem_lookupSuffix hhit
    rwa [eq_of_reversed_surfaceOf_eq (h.endings key (Finmap.mem_iff.mpr ⟨tags, htags⟩))
      (h.endings key' (Finmap.mem_iff.mpr ⟨tags', htags'⟩)) (congrArg Hit.surface heq)]
  · intro hstart
    exact List.mem_map_of_mem ((TermMap.mem_hits_iff hlimit hsize).mpr ⟨hstart, htags, haccepts⟩)

end Terms

/-! ### Parts of terms -/

namespace Index

/-- A look-up with room for all terms finds a term of everyone by its beginning, and a term that was
added for its endings by its ending, unless this part ends in a final sigma and the word goes on in
the rest of the term. -/
theorem mem_lookup_part_iff (size : ℕ) (ops : List Op) (p q : String) :
    let i := (ofSnapshot size .empty).run ops
    (∀ tags limit scope, i.current.forward.get? (keyOf (p ++ q)) = some tags →
        scope.accepts tags = true → i.current.forward.size ≤ limit →
        i.current.forward.size ≤ size →
        ∀ tenant, Hit.ofEntry p (keyOf (p ++ q), tags) ∈ (i.lookupPrefix tenant p limit scope).1 ↔
          ¬ (Text.EndsInFinalSigma p.toList ∧ Text.meetsCased q.toList = true)) ∧
      ∀ tags limit scope, i.current.suffix.get? (keyOf (reversed (p ++ q))) = some tags →
        scope.accepts tags = true → i.current.suffix.size ≤ limit →
        i.current.suffix.size ≤ size →
        (Hit.ofReversed q (keyOf (reversed (p ++ q)), tags) ∈ i.lookupSuffix q limit scope ↔
          ¬ (Text.EndsInFinalSigma q.toList.reverse ∧
            Text.meetsCased p.toList.reverse = true)) := by
  intro i
  have hi : i.current.Represents (Terms.empty.run ops) := represents_run_empty size ops
  have hmarked : (Terms.empty.run ops).IsMarked := .run .empty ops
  have hsearch : i.searchSize = size := searchSize_run _ ops
  constructor
  · intro tags limit scope htags haccepts hlimit hsize tenant
    rw [hi.everyone.get?_eq] at htags
    rw [hi.everyone.size_eq] at hlimit hsize
    rw [lookupPrefix, hsearch]
    dsimp only
    rw [hi.lookupPrefix_fst,
      Terms.ofEntry_mem_lookupPrefix_iff hmarked htags haccepts hlimit hsize, keyOf_prefix_iff]
  · intro tags limit scope htags haccepts hlimit hsize
    rw [hi.endings.get?_eq] at htags
    rw [hi.endings.size_eq] at hlimit hsize
    rw [lookupSuffix, hsearch, hi.lookupSuffix,
      Terms.ofReversed_mem_lookupSuffix_iff hmarked htags haccepts hlimit hsize, reversed_append,
      keyOf_prefix_iff, toList_reversed, toList_reversed]

/-- The sigma of the first word is final, but the word does not go on. -/
theorem mem_lookup_part_iff_words :
    let ops : List Op :=
      [.insert "ΟΔΟΣ Α" (some 0) ["_1_2"], .insert "ΟΔΟΣ" (some 7) ["_3"],
        .insertSuffix (reversed "ΟΔΟΣ Α") ["_1_2_metric_suffix"]]
    let i := (ofSnapshot 10 .empty).run ops
    i.current.forward.get? (keyOf ("ΟΔΟΣ" ++ " Α")) = some ["_1_2"] ∧
      i.current.suffix.get? (keyOf (reversed ("ΟΔΟΣ" ++ " Α"))) = some ["_1_2_metric_suffix"] ∧
      i.current.forward.size = 1 ∧ i.current.suffix.size = 1 ∧
      ⟨"οδος α", ["_1_2"], "ΟΔΟΣ"⟩ ∈ (i.lookupPrefix 7 "ΟΔΟΣ" 5 .all).1 ∧
      ⟨"οδοσ α", ["_1_2_metric"], " Α"⟩ ∈ i.lookupSuffix " Α" 5 .all := by
  intro ops i
  have h := mem_lookup_part_iff 10 ops "ΟΔΟΣ" " Α"
  have htags : i.current.forward.get? (keyOf ("ΟΔΟΣ" ++ " Α")) = some ["_1_2"] := by
    decide +kernel
  have hendings : i.current.suffix.get? (keyOf (reversed ("ΟΔΟΣ" ++ " Α"))) =
      some ["_1_2_metric_suffix"] := by
    decide +kernel
  have hsize : i.current.forward.size = 1 := by decide +kernel
  have hsuffix : i.current.suffix.size = 1 := by decide +kernel
  have hterm : Hit.ofEntry "ΟΔΟΣ" (keyOf ("ΟΔΟΣ" ++ " Α"), ["_1_2"]) =
      ⟨"οδος α", ["_1_2"], "ΟΔΟΣ"⟩ := by
    decide +kernel
  have hending : Hit.ofReversed " Α"
      (keyOf (reversed ("ΟΔΟΣ" ++ " Α")), ["_1_2_metric_suffix"]) =
      ⟨"οδοσ α", ["_1_2_metric"], " Α"⟩ := by
    decide +kernel
  refine ⟨htags, hendings, hsize, hsuffix, ?_, ?_⟩
  · rw [← hterm]
    refine (h.1 _ 5 .all htags rfl (hsize.trans_le (by decide)) (hsize.trans_le (by decide))
      7).mpr fun hfinal => ?_
    exact absurd hfinal.2 (by decide +kernel)
  · rw [← hending]
    refine (h.2 _ 5 .all hendings rfl (hsuffix.trans_le (by decide))
      (hsuffix.trans_le (by decide))).mpr ?_
    rintro ⟨⟨start, rest, hsplit, -⟩, -⟩
    have hsigma : 'Σ' ∈ " Α".toList.reverse := by
      rw [hsplit]
      exact List.mem_append_right start List.mem_cons_self
    exact absurd hsigma (by decide)

/-- The sigma of the term is not final, but that of its beginning is, and so is that of its ending
for who reads it backwards. -/
theorem notMem_lookup_part :
    let i := (ofSnapshot 10 .empty).run
      [.insert "ΑΣΑ" none ["_1_2"], .insertSuffix (reversed "ΑΣΑ") ["_1_2_metric_suffix"]]
    i.current.forward.get? (keyOf ("ΑΣ" ++ "Α")) = some ["_1_2"] ∧
      i.current.suffix.get? (keyOf (reversed ("Α" ++ "ΣΑ"))) = some ["_1_2_metric_suffix"] ∧
      i.current.forward.size = 1 ∧ i.current.suffix.size = 1 ∧
      (i.lookupPrefix 0 "ΑΣ" 10 .all).1 = [] ∧ i.lookupSuffix "ΣΑ" 10 .all = [] := by
  decide +kernel

end Index

end SemanticQuery.Dictionary
