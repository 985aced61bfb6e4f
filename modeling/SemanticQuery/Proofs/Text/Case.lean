import Mathlib.Data.List.Infix
import Mathlib.Tactic.Common
import SemanticQuery.Text.Case

/-!
# Laws of case

The small form of a text is put together from its characters, and only a capital sigma looks at
what stands around it. So the beginning of a text begins the small form of the text, unless it ends
in a final sigma whose word goes on; and the small form can be read backwards, unless a sigma tells
the two directions apart or a character becomes several.

Both laws hold of every further map of characters that keeps the two small sigmas apart. The
characters before the letters have no other form, so the small form holds those of the text.
-/

namespace SemanticQuery.Text

/-! ### Parts of texts -/

/-- The small form of a character in a text. `before` holds the characters before it, the nearest
first, and `after` those behind it. -/
def lowerBetween (before after : List Char) (c : Char) : List Char :=
  if c == 'Σ' then [if meetsCased before && !meetsCased after then 'ς' else 'σ'] else lowerChar c

/-- The small form of a part of a text, between what stands before it and behind it. -/
def lowerWithin (before after : List Char) : List Char → List Char
  | [] => []
  | c :: rest => lowerBetween before (rest ++ after) c ++ lowerWithin (c :: before) after rest

variable {f : Char → Char} {before after after' p q cs : List Char} {c : Char}

lemma lowerFrom_eq (before cs : List Char) : lowerFrom before cs = lowerWithin before [] cs := by
  induction cs generalizing before with
  | nil => rfl
  | cons c rest ih => rw [lowerFrom, lowerWithin, lowerBetween, ih, List.append_nil]

lemma lowerWithin_append (before after p q : List Char) :
    lowerWithin before after (p ++ q) =
      lowerWithin before (q ++ after) p ++ lowerWithin (p.reverse ++ before) after q := by
  induction p generalizing before with
  | nil => rfl
  | cons c p ih =>
    simp only [List.cons_append, lowerWithin, ih, List.append_assoc, List.reverse_cons,
      List.nil_append]

lemma lowerWithin_singleton (before after : List Char) (c : Char) :
    lowerWithin before after [c] = lowerBetween before after c := by
  rw [lowerWithin, lowerWithin, List.nil_append, List.append_nil]

/-! ### Single characters -/

lemma lowerBetween_sigma (before after : List Char) :
    lowerBetween before after 'Σ' =
      [if meetsCased before && !meetsCased after then 'ς' else 'σ'] := rfl

lemma lowerBetween_of_ne (h : c ≠ 'Σ') (before after : List Char) :
    lowerBetween before after c = lowerChar c := by
  simp [lowerBetween, h]

lemma mapped_lower (h : c ≠ 'İ') :
    mapped lowerExpansions lowerShifts c = [shifted lowerShifts c] := by
  have hcode : (c.toNat == 0x130) = false := by
    refine beq_eq_false_iff_ne.mpr fun hcode => h ?_
    rw [← Char.ofNat_toNat c, hcode]
  simp [mapped, lowerExpansions, List.lookup_cons, hcode]

/-- Only the dotted capital I becomes more than one character. -/
lemma exists_lowerChar (h : c ≠ 'İ') : ∃ d, lowerChar c = [d] := by
  unfold lowerChar
  split
  · exact ⟨_, rfl⟩
  · exact ⟨_, mapped_lower h⟩

lemma length_lowerBetween (before after : List Char) (c : Char) :
    (lowerBetween before after c).length = (lowerChar c).length := by
  by_cases h : c = 'Σ'
  · rw [h]; rfl
  · rw [lowerBetween_of_ne h]

lemma length_lowerWithin (before after : List Char) (cs : List Char) :
    (lowerWithin before after cs).length = (cs.flatMap lowerChar).length := by
  induction cs generalizing before with
  | nil => rfl
  | cons c cs ih =>
    rw [lowerWithin, List.length_append, length_lowerBetween, ih, List.flatMap_cons,
      List.length_append]

/-- The small form of a text is longer by its dotted capitals. -/
lemma length_lowerChars (cs : List Char) : (lowerChars cs).length = cs.length + cs.count 'İ' := by
  have hdotted : (lowerChar 'İ').length = 2 := by decide
  rw [lowerChars, lowerFrom_eq, length_lowerWithin]
  induction cs with
  | nil => rfl
  | cons c cs ih =>
    rw [List.flatMap_cons, List.length_append, List.length_cons, List.count_cons, ih]
    by_cases h : c = 'İ'
    · rw [h, hdotted, beq_self_eq_true, if_pos rfl]
      omega
    · obtain ⟨d, hd⟩ := exists_lowerChar h
      rw [hd, List.length_singleton, if_neg (by simpa using h)]
      omega

/-! ### Characters without case -/

lemma exists_of_shiftOf {n : ℕ} {distance : ℤ} {shifts : List (ℕ × ℕ × ℕ × ℤ)}
    (h : shiftOf n shifts = some distance) :
    ∃ shift ∈ shifts, shift.1 ≤ n ∧ shift.2.2.2 = distance := by
  induction shifts with
  | nil => simp [shiftOf] at h
  | cons shift shifts ih =>
    rw [shiftOf] at h
    split at h
    case isTrue hspan =>
      simp only [CharSet.spanHas, Bool.and_eq_true, decide_eq_true_eq] at hspan
      exact ⟨shift, List.mem_cons_self, hspan.1.1, Option.some.inj h⟩
    case isFalse =>
      obtain ⟨shift, hmem, hshift⟩ := ih h
      exact ⟨shift, List.mem_cons_of_mem _ hmem, hshift⟩

/-- A code that is no character is read as zero. -/
lemma toNat_ofNat (n : ℕ) : (Char.ofNat n).toNat = 0 ∨ (Char.ofNat n).toNat = n := by
  by_cases h : n.isValidChar
  · rw [Char.ofNat, dif_pos h]
    exact .inr rfl
  · rw [Char.ofNat, dif_neg h]
    exact .inl rfl

lemma letter_shifted_lower (h : 'A'.toNat ≤ c.toNat) :
    (shifted lowerShifts c).toNat = 0 ∨ 'A'.toNat ≤ (shifted lowerShifts c).toNat := by
  have hshifts : ∀ shift ∈ lowerShifts, ('A'.toNat : ℤ) ≤ shift.1 + shift.2.2.2 := by
    decide +kernel
  unfold shifted
  split
  case h_1 distance hdistance =>
    obtain ⟨shift, hmem, hfirst, rfl⟩ := exists_of_shiftOf hdistance
    have := hshifts shift hmem
    exact (toNat_ofNat _).imp_right fun hcode => by omega
  case h_2 => exact .inr h

/-- What changes its case comes behind the capital A, and so does what it becomes. -/
lemma lowerChar_cases (c : Char) :
    lowerChar c = [c] ∨
      'A'.toNat ≤ c.toNat ∧ ∀ d ∈ lowerChar c, d.toNat = 0 ∨ 'A'.toNat ≤ d.toNat := by
  unfold lowerChar
  split_ifs with hascii
  · have hcodes : ∀ n < 0x80, (Char.ofNat n).toLower = Char.ofNat n ∨
        'A'.toNat ≤ n ∧ 'A'.toNat ≤ (Char.ofNat n).toLower.toNat := by
      decide +kernel
    have hcode := hcodes c.toNat hascii
    rw [Char.ofNat_toNat] at hcode
    refine hcode.imp (congrArg fun d => [d]) fun ⟨hfrom, hto⟩ => ⟨hfrom, ?_⟩
    simpa using .inr hto
  · have hletter : 'A'.toNat ≤ c.toNat := le_trans (by decide) (Nat.le_of_not_lt hascii)
    refine .inr ⟨hletter, ?_⟩
    by_cases hdotted : c = 'İ'
    · have hlower : mapped lowerExpansions lowerShifts 'İ' = ['i', '\u0307'] := by decide
      simp [hdotted, hlower]
    · simpa [mapped_lower hdotted] using letter_shifted_lower hletter

/-- No character before the capital A is the small form of another. -/
lemma mem_lowerChar_iff {d : Char} (hpos : 0 < c.toNat) (hlt : c.toNat < 'A'.toNat) :
    c ∈ lowerChar d ↔ c = d := by
  rcases lowerChar_cases d with hsame | ⟨hletter, hletters⟩
  · rw [hsame, List.mem_singleton]
  · refine iff_of_false (fun hmem => ?_) fun heq => ?_
    · have := hletters c hmem
      omega
    · rw [heq] at hlt
      omega

lemma mem_lowerWithin_iff (hpos : 0 < c.toNat) (hlt : c.toNat < 'A'.toNat)
    (before after cs : List Char) : c ∈ lowerWithin before after cs ↔ c ∈ cs := by
  have hbetween : ∀ before after d, c ∈ lowerBetween before after d ↔ c = d := by
    intro before after d
    by_cases hsigma : d = 'Σ'
    · have hbehind : 'A'.toNat ≤ 'Σ'.toNat ∧ 'A'.toNat ≤ 'σ'.toNat ∧ 'A'.toNat ≤ 'ς'.toNat := by
        decide
      rw [hsigma, lowerBetween_sigma, List.mem_singleton]
      refine iff_of_false ?_ ?_ <;> rintro rfl
      · split_ifs at hlt <;> omega
      · omega
    · rw [lowerBetween_of_ne hsigma, mem_lowerChar_iff hpos hlt]
  induction cs generalizing before with
  | nil => simp [lowerWithin]
  | cons d cs ih => simp only [lowerWithin, List.mem_append, List.mem_cons, hbetween, ih]

/-- A character before the capital A is in the small form of a text where it is in the text. -/
lemma mem_lowerChars_iff (hpos : 0 < c.toNat) (hlt : c.toNat < 'A'.toNat) (cs : List Char) :
    c ∈ lowerChars cs ↔ c ∈ cs := by
  rw [lowerChars, lowerFrom_eq, mem_lowerWithin_iff hpos hlt]

/-! ### Beginnings -/

lemma meetsCased_append (p q : List Char) :
    meetsCased (p ++ q) =
      if p.all caseIgnorable.contains then meetsCased q else meetsCased p := by
  induction p with
  | nil => rfl
  | cons c p ih =>
    rw [List.cons_append, meetsCased, meetsCased, List.all_cons, ih]
    cases caseIgnorable.contains c <;> rfl

lemma meetsCased_eq_false (h : p.all caseIgnorable.contains = true) : meetsCased p = false := by
  have happend := meetsCased_append p []
  rwa [if_pos h, List.append_nil] at happend

/-- A text ends in a capital sigma that is final there: a cased letter stands before it, and behind
it nothing that is looked at. -/
def EndsInFinalSigma (cs : List Char) : Prop :=
  ∃ start rest, cs = start ++ 'Σ' :: rest ∧ meetsCased start.reverse = true ∧
    rest.all caseIgnorable.contains = true

lemma map_lowerBetween_eq_iff (hf : f 'σ' ≠ f 'ς') :
    (lowerBetween before after c).map f = (lowerBetween before after' c).map f ↔
      (c = 'Σ' → meetsCased before = true → meetsCased after = meetsCased after') := by
  by_cases h : c = 'Σ'
  · subst h
    cases hbefore : meetsCased before <;> cases hafter : meetsCased after <;>
      cases hafter' : meetsCased after' <;>
      simp [lowerBetween_sigma, hbefore, hafter, hafter', hf, hf.symm]
  · simp [lowerBetween_of_ne h, h]

/-- What stands behind a part of a text matters for the sigmas behind cased letters. -/
lemma map_lowerWithin_eq_iff (hf : f 'σ' ≠ f 'ς') (before p : List Char) :
    (lowerWithin before after p).map f = (lowerWithin before after' p).map f ↔
      ∀ start rest, p = start ++ 'Σ' :: rest → meetsCased (start.reverse ++ before) = true →
        meetsCased (rest ++ after) = meetsCased (rest ++ after') := by
  induction p generalizing before with
  | nil => simp [lowerWithin]
  | cons c p ih =>
    have hlength : ((lowerBetween before (p ++ after) c).map f).length =
        ((lowerBetween before (p ++ after') c).map f).length := by
      simp only [List.length_map, length_lowerBetween]
    rw [lowerWithin, lowerWithin, List.map_append, List.map_append,
      List.append_eq_append_iff_of_size_eq_left hlength, map_lowerBetween_eq_iff hf, ih]
    constructor
    · rintro ⟨hfirst, hrest⟩ start rest hsplit
      rcases List.cons_eq_append_iff.mp hsplit with ⟨rfl, hcons⟩ | ⟨start, rfl, rfl⟩
      · obtain ⟨rfl, rfl⟩ := List.cons.inj hcons
        exact hfirst rfl
      · simpa using hrest start rest rfl
    · intro h
      refine ⟨fun hc => h [] p (by rw [hc]; rfl), fun start rest hsplit => ?_⟩
      simpa using h (c :: start) rest (by rw [hsplit]; rfl)

/-- The small form of a text begins with that of its beginning, unless the beginning ends in a
final sigma and the word goes on. -/
theorem map_lowerChars_prefix_iff (hf : f 'σ' ≠ f 'ς') (p q : List Char) :
    (lowerChars p).map f <+: (lowerChars (p ++ q)).map f ↔
      ¬ (EndsInFinalSigma p ∧ meetsCased q = true) := by
  have hlength : ((lowerWithin [] [] p).map f).length = ((lowerWithin [] q p).map f).length := by
    simp only [List.length_map, length_lowerWithin]
  have hbegins : (lowerChars p).map f <+: (lowerChars (p ++ q)).map f ↔
      (lowerWithin [] [] p).map f = (lowerWithin [] q p).map f := by
    rw [lowerChars, lowerChars, lowerFrom_eq, lowerFrom_eq, lowerWithin_append, List.append_nil,
      List.map_append, List.isPrefix_append_of_length (Nat.le_of_eq hlength)]
    exact ⟨fun h => h.eq_of_length hlength, fun h => h ▸ List.prefix_rfl⟩
  rw [hbegins, map_lowerWithin_eq_iff hf]
  constructor
  · rintro h ⟨⟨start, rest, rfl, hstart, hrest⟩, hq⟩
    have hsame := h start rest rfl (by simpa using hstart)
    rw [List.append_nil, meetsCased_eq_false hrest, meetsCased_append, if_pos hrest, hq] at hsame
    exact Bool.noConfusion hsame
  · intro h start rest hsplit hstart
    rw [List.append_nil, meetsCased_append]
    split_ifs with hrest
    · rw [meetsCased_eq_false hrest, eq_comm, Bool.eq_false_iff]
      exact fun hq => h ⟨⟨start, rest, hsplit, by simpa using hstart, hrest⟩, hq⟩
    · rfl

/-! ### Reading backwards -/

/-- A text has one small form in both directions: no character becomes several, and every capital
sigma has a cased letter on both sides or on none. -/
structure LowersBothWays (cs : List Char) : Prop where
  not_mem : 'İ' ∉ cs
  sigma : ∀ start rest, cs = start ++ 'Σ' :: rest → meetsCased start.reverse = meetsCased rest

/-- Texts without the two letters have one small form in both directions. -/
lemma LowersBothWays.of_notMem (hdotted : 'İ' ∉ cs) (hsigma : 'Σ' ∉ cs) : LowersBothWays cs where
  not_mem := hdotted
  sigma start _ hsplit :=
    absurd (hsplit ▸ List.mem_append_right start List.mem_cons_self) hsigma

lemma map_lowerBetween_reverse_iff (hf : f 'σ' ≠ f 'ς') (hdot : f 'i' ≠ f '\u0307') :
    (lowerBetween after before c).map f = ((lowerBetween before after c).map f).reverse ↔
      c ≠ 'İ' ∧ (c = 'Σ' → meetsCased before = meetsCased after) := by
  by_cases hsigma : c = 'Σ'
  · subst hsigma
    cases hbefore : meetsCased before <;> cases hafter : meetsCased after <;>
      simp [lowerBetween_sigma, hbefore, hafter, hf, hf.symm]
  · rw [lowerBetween_of_ne hsigma, lowerBetween_of_ne hsigma]
    by_cases h : c = 'İ'
    · have hlower : lowerChar 'İ' = ['i', '\u0307'] := by decide
      subst h
      simp [hlower, hdot]
    · obtain ⟨d, hd⟩ := exists_lowerChar h
      simp [hd, h, hsigma]

lemma map_lowerWithin_reverse_iff (hf : f 'σ' ≠ f 'ς') (hdot : f 'i' ≠ f '\u0307')
    (before cs : List Char) :
    (lowerWithin after before cs.reverse).map f =
        ((lowerWithin before after cs).map f).reverse ↔
      'İ' ∉ cs ∧ ∀ start rest, cs = start ++ 'Σ' :: rest →
        meetsCased (start.reverse ++ before) = meetsCased (rest ++ after) := by
  induction cs generalizing before with
  | nil => simp [lowerWithin]
  | cons c cs ih =>
    have hlength : ((lowerWithin after (c :: before) cs.reverse).map f).length =
        ((lowerWithin (c :: before) after cs).map f).reverse.length := by
      simp [length_lowerWithin, List.length_flatMap]
    rw [List.reverse_cons, lowerWithin_append, lowerWithin_singleton, lowerWithin,
      List.reverse_reverse, List.map_append, List.map_append, List.reverse_append,
      List.singleton_append, List.append_eq_append_iff_of_size_eq_left hlength, ih,
      map_lowerBetween_reverse_iff hf hdot]
    constructor
    · rintro ⟨⟨hcs, hrest⟩, hc, hfirst⟩
      refine ⟨by simp [hcs, hc.symm], fun start rest hsplit => ?_⟩
      rcases List.cons_eq_append_iff.mp hsplit with ⟨rfl, hcons⟩ | ⟨start, rfl, rfl⟩
      · obtain ⟨rfl, rfl⟩ := List.cons.inj hcons
        exact hfirst rfl
      · simpa using hrest start rest rfl
    · rintro ⟨hcs, h⟩
      simp only [List.mem_cons, not_or] at hcs
      refine ⟨⟨hcs.2, fun start rest hsplit => ?_⟩, Ne.symm hcs.1, fun hc => ?_⟩
      · simpa using h (c :: start) rest (by rw [hsplit]; rfl)
      · exact h [] cs (by rw [hc]; rfl)

/-- Reading a text backwards reads its small form backwards exactly where the text has one small
form in both directions. -/
theorem map_lowerChars_reverse_iff (hf : f 'σ' ≠ f 'ς') (hdot : f 'i' ≠ f '\u0307')
    (cs : List Char) :
    (lowerChars cs.reverse).map f = ((lowerChars cs).map f).reverse ↔ LowersBothWays cs := by
  rw [lowerChars, lowerChars, lowerFrom_eq, lowerFrom_eq, map_lowerWithin_reverse_iff hf hdot]
  simp only [List.append_nil]
  exact ⟨fun ⟨hcs, hsigma⟩ => ⟨hcs, hsigma⟩, fun h => ⟨h.not_mem, h.sigma⟩⟩

end SemanticQuery.Text
