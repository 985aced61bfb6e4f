import SemanticQuery.Proofs.Dictionary.Parts

/-!
# Removed terms and their endings

Removing a metric or a dimension also removes the key that is its own read backwards. What was added
for its endings has the key of the reversed term. These are one key exactly where the term has one
small form in both directions; else the term goes on being found by its endings.
-/

namespace SemanticQuery.Dictionary

namespace Terms

variable {d : Terms} {term : String} {tags endingTags : List String}

/-- What is left of an ending when its term, a metric or a dimension, is removed. -/
lemma lookup_endings_remove (htags : d.everyone.lookup (keyOf term) = some tags)
    (hnames : namesMetricOrDimension tags = true)
    (hending : d.endings.lookup (keyOf (reversed term)) = some endingTags)
    (retained : List String) :
    (Text.LowersBothWays term.toList →
        (d.remove term retained).endings.lookup (keyOf (reversed term)) = none) ∧
      (¬ Text.LowersBothWays term.toList →
        (d.remove term retained).endings.lookup (keyOf (reversed term)) = some endingTags) := by
  have hendings : (d.remove term retained).endings = d.endings.erase (keyOf term).reverse := by
    rw [remove, TagMap.tagsOf, htags]
    exact if_pos hnames
  rw [hendings, TagMap.lookup_erase]
  exact ⟨fun h => if_pos ((keyOf_reversed_iff term).mpr h),
    fun h => (if_neg fun heq => h ((keyOf_reversed_iff term).mp heq)).trans hending⟩

end Terms

namespace Index

/-- Removing a metric or a dimension, no text finds it by its endings any more, if it has one small
form in both directions. Else what was added for its endings stays, and every text whose reversed
key begins that of the term goes on finding it. -/
theorem lookupSuffix_remove (size : ℕ) (ops : List Op) (term : String) (retained : List String) :
    let i := (ofSnapshot size .empty).run ops
    let j := i.remove term retained
    let ending := keyOf (reversed term)
    ∀ tags endingTags, i.current.forward.get? (keyOf term) = some tags →
      namesMetricOrDimension tags = true → i.current.suffix.get? ending = some endingTags →
      (Text.LowersBothWays term.toList →
        j.current.suffix.get? ending = none ∧
          ∀ text limit scope, ∀ hit ∈ j.lookupSuffix text limit scope,
            hit.surface ≠ String.ofList (surfaceOf ending).reverse) ∧
      (¬ Text.LowersBothWays term.toList →
        j.current.suffix.get? ending = some endingTags ∧
          ∀ text limit scope, keyOf (reversed text) <+: ending →
            scope.accepts endingTags = true → j.current.suffix.size ≤ limit →
            j.current.suffix.size ≤ size →
            Hit.ofReversed text (ending, endingTags) ∈ j.lookupSuffix text limit scope) := by
  intro i j ending tags endingTags htags hnames hending
  have hi : i.current.Represents (Terms.empty.run ops) := represents_run_empty size ops
  have hj : j.current.Represents ((Terms.empty.run ops).remove term retained) :=
    hi.remove term retained
  have hmarked : ((Terms.empty.run ops).remove term retained).IsMarked :=
    (Terms.IsMarked.run .empty ops).remove term retained
  have hsearch : j.searchSize = size := searchSize_run _ ops
  rw [hi.everyone.get?_eq] at htags
  rw [hi.endings.get?_eq] at hending
  obtain ⟨hdropped, hkept⟩ := Terms.lookup_endings_remove htags hnames hending retained
  simp only [lookupSuffix, hsearch, hj.lookupSuffix, hj.endings.get?_eq, hj.endings.size_eq]
  refine ⟨fun h => ⟨hdropped h, ?_⟩, fun h => ⟨hkept h, ?_⟩⟩
  · intro text limit scope hit hhit hsurface
    obtain ⟨key, keyTags, -, hkey, rfl⟩ := Terms.of_mem_lookupSuffix hhit
    -- two keys show one term only if they are the same
    have heq : key = ending := eq_of_reversed_surfaceOf_eq
      (hmarked.endings key (Finmap.mem_iff.mpr ⟨keyTags, hkey⟩))
      (blank_notMem_keyOf (reversed term)) hsurface
    rw [heq, hdropped h] at hkey
    exact Option.some_ne_none keyTags hkey.symm
  · intro text limit scope hstart haccepts hlimit hsize
    exact (Terms.ofReversed_mem_lookupSuffix_iff hmarked (hkept h) haccepts hlimit hsize text).mpr
      hstart

/-- A metric whose last letter is written in one way only. -/
theorem lookupSuffix_remove_size :
    let ops : List Op :=
      [.insert "GRÖẞE" (some 7) ["_1_2"], .rebuild [.term ⟨"GRÖẞE", none, ["_1_2_metric"]⟩,
        .ending ⟨"GRÖẞE", some 7, ["_1_2_metric_suffix"]⟩]]
    let i := (ofSnapshot 10 .empty).run ops
    i.current.forward.get? (keyOf "GRÖẞE") = some ["_1_2_metric"] ∧
      i.current.suffix.get? (keyOf (reversed "GRÖẞE")) = some ["_1_2_metric_suffix"] ∧
      ∀ text limit scope, ∀ hit ∈ (i.remove "GRÖẞE" ["_1_2_metric"]).lookupSuffix text limit scope,
        hit.surface ≠ "größe" := by
  intro ops i
  have htags : i.current.forward.get? (keyOf "GRÖẞE") = some ["_1_2_metric"] := by decide +kernel
  have hending : i.current.suffix.get? (keyOf (reversed "GRÖẞE")) =
      some ["_1_2_metric_suffix"] := by
    decide +kernel
  have h := lookupSuffix_remove 10 ops "GRÖẞE" ["_1_2_metric"] _ _ htags (by decide) hending
  have hsurface : String.ofList (surfaceOf (keyOf (reversed "GRÖẞE"))).reverse = "größe" := by
    decide +kernel
  refine ⟨htags, hending, ?_⟩
  rw [← hsurface]
  exact (h.1 (.of_notMem (by decide) (by decide))).2

/-- The sigma of a metric is final, but not for who reads it backwards. -/
theorem lookupSuffix_remove_final_sigma :
    let i := (ofSnapshot 10 .empty).run
      [.rebuild [.term ⟨"ΑΣ", none, ["_1_2_metric"]⟩,
        .ending ⟨"ΑΣ", none, ["_1_2_metric_suffix"]⟩]]
    let j := i.remove "ΑΣ" []
    i.current.forward.get? (keyOf "ΑΣ") = some ["_1_2_metric"] ∧
      i.current.suffix.get? (keyOf (reversed "ΑΣ")) = some ["_1_2_metric_suffix"] ∧
      j.current.suffix.get? (keyOf (reversed "ΑΣ")) = some ["_1_2_metric_suffix"] ∧
      j.lookupSuffix "ΑΣ" 10 .all = [⟨"ασ", ["_1_2_metric"], "ΑΣ"⟩] := by
  decide +kernel

end Index

end SemanticQuery.Dictionary
