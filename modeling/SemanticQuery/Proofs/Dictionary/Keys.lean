import SemanticQuery.Proofs.Dictionary.Terms
import SemanticQuery.Proofs.Text.Case

/-!
# Keys of terms

A key is the small form of a term with its blanks marked, so the laws of small forms are laws of
keys. No key of a dictionary holds a blank, whatever steps led to it; so two keys never show the
same term.
-/

namespace SemanticQuery.Dictionary

/-! ### Keys of parts -/

/-- A character as it stands in a key. -/
def marked (c : Char) : Char := if c == ' ' then blankMark else c

lemma keyOf_eq (term : String) : keyOf term = (Text.lowerChars term.toList).map marked := rfl

/-- The key of a term begins with the key of its beginning, unless the beginning ends in a final
sigma and the word goes on. -/
lemma keyOf_prefix_iff (p q : String) :
    keyOf p <+: keyOf (p ++ q) ↔
      ¬ (Text.EndsInFinalSigma p.toList ∧ Text.meetsCased q.toList = true) := by
  rw [keyOf_eq, keyOf_eq, String.toList_append]
  exact Text.map_lowerChars_prefix_iff (by decide) p.toList q.toList

lemma toList_reversed (text : String) : (reversed text).toList = text.toList.reverse :=
  String.toList_ofList

lemma reversed_append (p q : String) : reversed (p ++ q) = reversed q ++ reversed p := by
  apply String.toList_injective
  simp only [toList_reversed, String.toList_append, List.reverse_append]

/-- The key of a reversed term is the reversed key exactly where the term has one small form in both
directions. -/
lemma keyOf_reversed_iff (term : String) :
    keyOf (reversed term) = (keyOf term).reverse ↔ Text.LowersBothWays term.toList := by
  rw [keyOf_eq, keyOf_eq, toList_reversed]
  exact Text.map_lowerChars_reverse_iff (by decide) (by decide) term.toList

/-! ### Keys without blanks -/

lemma blank_notMem_keyOf (term : String) : ' ' ∉ keyOf term := by
  rw [keyOf_eq, List.mem_map]
  rintro ⟨c, -, hc⟩
  unfold marked at hc
  split at hc
  · exact absurd hc (by decide)
  · simp_all

/-- A key without blanks can be told from what it shows. -/
lemma surfaceOf_inj {key key' : Key} (h : ' ' ∉ key) (h' : ' ' ∉ key') :
    surfaceOf key = surfaceOf key' ↔ key = key' := by
  have hback : ∀ {key : Key}, ' ' ∉ key → (surfaceOf key).map marked = key := by
    intro key hkey
    rw [surfaceOf, List.map_map]
    conv_rhs => rw [← List.map_id key]
    refine List.map_congr_left fun c hc => ?_
    have hblank : c ≠ ' ' := fun heq => hkey (heq ▸ hc)
    by_cases hmark : c = blankMark
    · rw [hmark]; rfl
    · simp [marked, hblank, hmark]
  refine ⟨fun heq => ?_, congrArg surfaceOf⟩
  rw [← hback h, heq, hback h']

lemma eq_of_reversed_surfaceOf_eq {key key' : Key} (h : ' ' ∉ key) (h' : ' ' ∉ key')
    (heq : String.ofList (surfaceOf key).reverse = String.ofList (surfaceOf key').reverse) :
    key = key' :=
  (surfaceOf_inj h h').mp (List.reverse_injective (String.ofList_injective heq))

/-- The keys of a map hold no blanks. -/
def TermMap.IsMarked (m : TermMap) : Prop := ∀ key ∈ m, ' ' ∉ key

namespace TermMap.IsMarked

variable {m : TermMap}

lemma empty : IsMarked ∅ := fun _ hkey => absurd hkey Finmap.notMem_empty

lemma add (h : m.IsMarked) (term : String) (tags : List String) :
    IsMarked (m.add (keyOf term) tags) := by
  intro key hkey
  rcases Finmap.mem_insert.mp hkey with rfl | hkey
  · exact blank_notMem_keyOf term
  · exact h key hkey

lemma erase (h : m.IsMarked) (key : Key) : IsMarked (m.erase key) :=
  fun key' hkey => h key' (Finmap.mem_erase.mp hkey).2

end TermMap.IsMarked

/-- The keys of a dictionary hold no blanks. -/
structure Terms.IsMarked (d : Terms) : Prop where
  everyone : d.everyone.IsMarked
  endings : d.endings.IsMarked
  ofTenant : ∀ id, (d.ofTenant id).IsMarked

namespace Terms.IsMarked

variable {d : Terms}

lemma empty : Terms.empty.IsMarked := ⟨.empty, .empty, fun _ => .empty⟩

lemma insert (h : d.IsMarked) (term : String) (tenant : Option Int) (tags : List String) :
    (d.insert term tenant tags).IsMarked where
  everyone := by
    rw [everyone_insert]
    split_ifs
    · exact h.everyone.add term tags
    · exact h.everyone
  endings := by
    rw [endings_insert]
    exact h.endings
  ofTenant id := by
    rw [ofTenant_insert]
    split_ifs
    · exact (h.ofTenant id).add term tags
    · exact h.ofTenant id

lemma insertSuffix (h : d.IsMarked) (reversedTerm : String) (tags : List String) :
    (d.insertSuffix reversedTerm tags).IsMarked :=
  { h with endings := h.endings.add reversedTerm tags }

lemma remove (h : d.IsMarked) (term : String) (retained : List String) :
    (d.remove term retained).IsMarked := by
  refine { h with everyone := ?_, endings := ?_ }
  · rw [Terms.remove]
    dsimp only
    split_ifs
    · exact h.everyone.erase (keyOf term)
    · exact TermMap.IsMarked.add (h.everyone.erase (keyOf term)) term retained
  · rw [Terms.remove]
    dsimp only
    split_ifs
    · exact h.endings.erase _
    · exact h.endings

lemma rebuild (additions : List Addition) :
    (additions.foldl Draft.give .empty).build.IsMarked := by
  have hterms : (additions.foldl Draft.give .empty).terms.IsMarked := by
    refine List.foldlRecOn (motive := fun b : Draft => b.terms.IsMarked) _ _ empty fun b h a _ => ?_
    cases a with
    | term e => exact h.insert e.term e.tenant e.tags
    | ending e => exact h
  exact List.foldlRecOn (motive := IsMarked) _ _ hterms fun d h ending _ => h.insertSuffix ending _

lemma step (h : d.IsMarked) (op : Op) : (d.step op).IsMarked := by
  cases op with
  | insert term tenant tags => exact h.insert term tenant tags
  | insertSuffix reversedTerm tags => exact h.insertSuffix reversedTerm tags
  | remove term retained => exact h.remove term retained
  | clear => exact empty
  | rebuild additions => exact rebuild additions
  | reload text =>
    rw [Terms.step]
    cases Entries.load text with
    | error _ => exact h
    | ok es => exact rebuild es.additions
  | lookupPrefix tenant text limit scope => exact h
  | lookupSuffix text limit scope => exact h

lemma run (h : d.IsMarked) (ops : List Op) : (d.run ops).IsMarked := by
  induction ops generalizing d with
  | nil => exact h
  | cons op ops ih => exact ih (h.step op)

end Terms.IsMarked

end SemanticQuery.Dictionary
