import Mathlib.Data.List.TakeWhile
import Mathlib.Tactic.Common
import Mathlib.Tactic.IntervalCases
import SemanticQuery.Sql.Lexer

/-!
# What words and numbers are read from

A bare word is the text that it was read from, and no blank stands in it. A character that may be
passed over opens no word, so a text that has a first word before anything else starts with it.
-/

namespace SemanticQuery.Sql.Lexer

/-! ### Words -/

/-- Whether a character may open a bare word. -/
def opensWord (c : Char) : Bool := startsWord c || c.isDigit || c == '.'

/-- A word is the head of the characters that it was read from, and no blank stands in it. -/
structure IsWordOf (cs : List Char) (text : String) (rest : List Char) : Prop where
  append : text.toList ++ rest = cs
  blank : ' ' ∉ text.toList
  ne_nil : text.toList ≠ []

lemma blank_not_mem_takeWhile {p : Char → Bool} (hp : p ' ' = false) (cs : List Char) :
    ' ' ∉ cs.takeWhile p := by
  intro h
  rw [List.mem_takeWhile_imp h] at hp
  exact Bool.noConfusion hp

lemma isWordOf_takeWhile {start cs : List Char} (h : ' ' ∉ start)
    (hne : start ++ cs.takeWhile continuesWord ≠ []) :
    IsWordOf (start ++ cs) (String.ofList (start ++ cs.takeWhile continuesWord))
      (cs.dropWhile continuesWord) where
  append := by simp
  blank := by simpa using ⟨h, blank_not_mem_takeWhile (by decide) cs⟩
  ne_nil := by simpa using hne

lemma isWordOf_of_ofWord {cs rest rest' : List Char} {word text key : String}
    (h : (Token.ofWord word, rest') = (.word text key, rest)) (hword : IsWordOf cs word rest') :
    IsWordOf cs text rest := by
  obtain ⟨htoken, rfl⟩ := Prod.mk.inj h
  obtain ⟨rfl, -⟩ := Token.word.inj htoken
  exact hword

lemma isWordOf_readWord {start cs rest : List Char} {text key : String}
    (h : readWord start cs = (.word text key, rest)) (hstart : ' ' ∉ start) (hne : start ≠ []) :
    IsWordOf (start ++ cs) text rest := by
  unfold readWord at h
  dsimp only at h
  split at h
  · simp at h
  · exact isWordOf_of_ofWord h (isWordOf_takeWhile hstart (by simp [hne]))

lemma quotedToken_ne_word {q : Char} {escapes : Bool} {make : String → Token}
    {cs rest : List Char} {text key : String} (hmake : ∀ s, make s ≠ .word text key) :
    quotedToken q escapes make cs ≠ .ok (.word text key, rest) := by
  unfold quotedToken
  split
  · rename_i s _ _
    exact fun h => hmake (String.ofList s) (Prod.mk.inj (Except.ok.inj h)).1
  · simp

lemma isWordOf_readLettered {c : Char} {cs rest : List Char} {text key : String}
    {quotes : List (Char × Bool × (String → Token))}
    (h : readLettered c cs quotes = .ok (.word text key, rest)) (hc : ' ' ≠ c)
    (hquotes : ∀ q ∈ quotes, ∀ s, q.2.2 s ≠ .word text key) :
    IsWordOf (c :: cs) text rest := by
  unfold readLettered at h
  split at h
  · split at h
    next quote escapes make hfind =>
      exact absurd h (quotedToken_ne_word (hquotes _ (List.mem_of_find?_eq_some hfind)))
    next _ =>
      exact isWordOf_of_ofWord (Except.ok.inj h)
        (@isWordOf_takeWhile [c] _ (by simpa using hc) (by simp))
  · refine isWordOf_of_ofWord (Except.ok.inj h) ⟨?_, ?_, ?_⟩
    · simp [Char.toString]
    · simpa [Char.toString]
    · simp [Char.toString]

/-- The point at the head of a text, if one stands there, and what follows it. -/
def pointOf : List Char → List Char × List Char
  | '.' :: rest => (['.'], rest)
  | rest => ([], rest)

lemma pointOf_append (cs : List Char) :
    (pointOf cs).1 ++ (pointOf cs).2 = cs ∧ ' ' ∉ (pointOf cs).1 := by
  unfold pointOf
  split <;> simp

/-- What the digits and the point at the head of a text make with what follows them. -/
def fromMantissa (mantissa rest : List Char) : Except Fault (Token × List Char) :=
  if mantissa == ['.'] then .ok (.symbol ".", rest)
  else
    match readExponent rest with
    | some (exponent, rest) => .ok (readNumber.withLong (mantissa ++ exponent) rest)
    | none =>
      let tail := rest.takeWhile continuesWord
      if tail.isEmpty then .ok (readNumber.withLong mantissa rest)
      else .ok (.ofWord (String.ofList (mantissa ++ tail)), rest.dropWhile continuesWord)

lemma withLong_ne_word (digits cs rest : List Char) (text key : String) :
    readNumber.withLong digits cs ≠ (.word text key, rest) := by
  unfold readNumber.withLong
  split <;> simp

lemma exists_fromMantissa_of_readNumber {afterWord : Bool} {cs rest : List Char}
    {text key : String} (h : readNumber afterWord cs = .ok (.word text key, rest)) :
    ∃ mantissa tail, mantissa ++ tail = cs ∧ ' ' ∉ mantissa ∧
      fromMantissa mantissa tail = .ok (.word text key, rest) := by
  have hdigits := blank_not_mem_takeWhile (p := Char.isDigit) (by decide)
  unfold readNumber at h
  split at h
  · split at h <;> simp at h
  dsimp only at h
  split at h
  · simp at h
  have hwhole := List.takeWhile_append_dropWhile (p := Char.isDigit) (l := cs)
  have hblank := hdigits cs
  generalize cs.dropWhile Char.isDigit = after at h hwhole
  generalize cs.takeWhile Char.isDigit = whole at h hwhole hblank
  obtain ⟨happend, hpoint⟩ := pointOf_append after
  have hmade : fromMantissa (whole ++ (pointOf after).1 ++
      (pointOf after).2.takeWhile Char.isDigit) ((pointOf after).2.dropWhile Char.isDigit) =
        .ok (.word text key, rest) := h
  refine ⟨_, _, ?_, ?_, hmade⟩
  · simp [happend, hwhole]
  · simpa using ⟨hblank, hpoint, hdigits (pointOf after).2⟩

lemma isWordOf_fromMantissa {mantissa tail rest : List Char} {text key : String}
    (h : fromMantissa mantissa tail = .ok (.word text key, rest)) (hmantissa : ' ' ∉ mantissa) :
    IsWordOf (mantissa ++ tail) text rest := by
  unfold fromMantissa at h
  split at h
  · simp at h
  split at h
  · exact absurd (Except.ok.inj h) (withLong_ne_word _ _ _ _ _)
  · dsimp only at h
    split at h
    · exact absurd (Except.ok.inj h) (withLong_ne_word _ _ _ _ _)
    · exact isWordOf_of_ofWord (Except.ok.inj h) (isWordOf_takeWhile hmantissa (by simp_all))

lemma isWordOf_readAt {cs rest : List Char} {text key : String}
    (h : readAt cs = (.word text key, rest)) : IsWordOf ('@' :: cs) text rest := by
  unfold readAt at h
  split at h
  · simp at h
  · simp at h
  · split at h
    · simp at h
    · simp at h
    next c rest' hc =>
      exact isWordOf_readWord h (by simpa using fun hblank => hc hblank.symm) (by simp)
  · simp at h
  next c rest' _ _ _ =>
    split at h
    · simp at h
    next hc =>
      have hblank : ' ' ≠ c := by
        rintro rfl
        simp at hc
      exact isWordOf_readWord h (by simpa using hblank) (by simp)

/-! ### One step -/

lemma eq_ok_of_ofToken {r : Except Fault (Token × List Char)} {t : Token} {rest : List Char}
    (h : Step.ofToken r = .ok (some t, rest)) : r = .ok (t, rest) := by
  unfold Step.ofToken at h
  split at h
  · simp_all
  · simp at h

lemma ofToken_ne_none (r : Except Fault (Token × List Char)) (rest : List Char) :
    Step.ofToken r ≠ .ok (none, rest) := by
  unfold Step.ofToken
  split <;> simp

/-- A word is read from a character that opens one. -/
lemma isWordOf_step {afterWord : Bool} {c : Char} {cs rest : List Char} {text key : String}
    (h : step afterWord c cs = .ok (some (.word text key), rest)) :
    opensWord c = true ∧ IsWordOf (c :: cs) text rest := by
  unfold step at h
  rcases ite_eq_iff.mp h with ⟨_, h⟩ | ⟨_, h⟩
  · simp at h
  have hlettered : ∀ {quotes : List (Char × Bool × (String → Token))}, opensWord c = true →
      (∀ q ∈ quotes, ∀ s, q.2.2 s ≠ .word text key) →
      Step.ofToken (readLettered c cs quotes) = .ok (some (.word text key), rest) →
      opensWord c = true ∧ IsWordOf (c :: cs) text rest := by
    intro quotes hc hquotes h
    refine ⟨hc, isWordOf_readLettered (eq_ok_of_ofToken h) ?_ hquotes⟩
    rintro rfl
    exact absurd hc (by decide)
  rcases ite_eq_iff.mp h with ⟨hc, h⟩ | ⟨_, h⟩
  · refine hlettered ?_ (by simp) h
    rcases (by simpa using hc : c = 'b' ∨ c = 'B') with rfl | rfl <;> decide
  rcases ite_eq_iff.mp h with ⟨hc, h⟩ | ⟨_, h⟩
  · refine hlettered ?_ (by simp) h
    rcases (by simpa using hc : c = 'n' ∨ c = 'N') with rfl | rfl <;> decide
  rcases ite_eq_iff.mp h with ⟨hc, h⟩ | ⟨_, h⟩
  · refine hlettered ?_ (by simp) h
    rcases (by simpa using hc : c = 'x' ∨ c = 'X') with rfl | rfl <;> decide
  rcases ite_eq_iff.mp h with ⟨_, h⟩ | ⟨_, h⟩
  · exact absurd (eq_ok_of_ofToken h) (quotedToken_ne_word (by simp))
  rcases ite_eq_iff.mp h with ⟨_, h⟩ | ⟨_, h⟩
  · exact absurd (eq_ok_of_ofToken h) (quotedToken_ne_word (by simp))
  rcases ite_eq_iff.mp h with ⟨_, h⟩ | ⟨_, h⟩
  · exact absurd (eq_ok_of_ofToken h) (quotedToken_ne_word (by simp))
  rcases ite_eq_iff.mp h with ⟨hc, h⟩ | ⟨_, h⟩
  · obtain ⟨mantissa, tail, happend, hblank, hmade⟩ :=
      exists_fromMantissa_of_readNumber (eq_ok_of_ofToken h)
    refine ⟨by simp only [opensWord, Bool.or_assoc, hc, Bool.or_true], ?_⟩
    rw [← happend]
    exact isWordOf_fromMantissa hmade hblank
  rcases ite_eq_iff.mp h with ⟨_, h⟩ | ⟨_, h⟩
  · simp at h
  rcases ite_eq_iff.mp h with ⟨_, h⟩ | ⟨_, h⟩
  · simp at h
  rcases ite_eq_iff.mp h with ⟨_, h⟩ | ⟨_, h⟩
  · split at h <;> simp at h
  rcases ite_eq_iff.mp h with ⟨hc, h⟩ | ⟨_, h⟩
  · obtain rfl : c = '@' := by simpa using hc
    exact ⟨by decide, isWordOf_readAt (Except.ok.inj (eq_ok_of_ofToken h))⟩
  rcases ite_eq_iff.mp h with ⟨_, h⟩ | ⟨_, h⟩
  · simp at h
  rcases ite_eq_iff.mp h with ⟨hc, h⟩ | ⟨_, h⟩
  · refine ⟨by simp [opensWord, hc],
      isWordOf_readWord (Except.ok.inj (eq_ok_of_ofToken h)) ?_ (by simp)⟩
    simp only [List.mem_singleton]
    rintro rfl
    exact absurd hc (by decide)
  rcases ite_eq_iff.mp h with ⟨_, h⟩ | ⟨_, h⟩
  · simp at h
  · have hsymbol := Except.ok.inj (eq_ok_of_ofToken h)
    unfold readSymbol at hsymbol
    split at hsymbol <;> simp at hsymbol

/-- What is passed over starts with a character that opens no word. -/
lemma opensWord_of_step_none {afterWord : Bool} {c : Char} {cs rest : List Char}
    (h : step afterWord c cs = .ok (none, rest)) : opensWord c = false := by
  unfold step at h
  rcases ite_eq_iff.mp h with ⟨hc, -⟩ | ⟨_, h⟩
  · rcases (by simpa [or_assoc] using hc : c = ' ' ∨ c = '\t' ∨ c = '\n' ∨ c = '\r')
      with rfl | rfl | rfl | rfl <;> decide
  rcases ite_eq_iff.mp h with ⟨_, h⟩ | ⟨_, h⟩
  · exact absurd h (ofToken_ne_none _ _)
  rcases ite_eq_iff.mp h with ⟨_, h⟩ | ⟨_, h⟩
  · exact absurd h (ofToken_ne_none _ _)
  rcases ite_eq_iff.mp h with ⟨_, h⟩ | ⟨_, h⟩
  · exact absurd h (ofToken_ne_none _ _)
  rcases ite_eq_iff.mp h with ⟨_, h⟩ | ⟨_, h⟩
  · exact absurd h (ofToken_ne_none _ _)
  rcases ite_eq_iff.mp h with ⟨_, h⟩ | ⟨_, h⟩
  · exact absurd h (ofToken_ne_none _ _)
  rcases ite_eq_iff.mp h with ⟨_, h⟩ | ⟨_, h⟩
  · exact absurd h (ofToken_ne_none _ _)
  rcases ite_eq_iff.mp h with ⟨_, h⟩ | ⟨hdigit, h⟩
  · exact absurd h (ofToken_ne_none _ _)
  rcases ite_eq_iff.mp h with ⟨hc, -⟩ | ⟨_, h⟩
  · obtain rfl : c = '-' := by simpa using (Bool.and_eq_true_iff.mp hc).1
    decide
  rcases ite_eq_iff.mp h with ⟨hc, -⟩ | ⟨_, h⟩
  · obtain rfl : c = '#' := by simpa using hc
    decide
  rcases ite_eq_iff.mp h with ⟨hc, -⟩ | ⟨_, h⟩
  · obtain rfl : c = '/' := by simpa using (Bool.and_eq_true_iff.mp hc).1
    decide
  rcases ite_eq_iff.mp h with ⟨_, h⟩ | ⟨_, h⟩
  · exact absurd h (ofToken_ne_none _ _)
  rcases ite_eq_iff.mp h with ⟨_, h⟩ | ⟨_, h⟩
  · simp at h
  rcases ite_eq_iff.mp h with ⟨_, h⟩ | ⟨hword, h⟩
  · exact absurd h (ofToken_ne_none _ _)
  rcases ite_eq_iff.mp h with ⟨_, h⟩ | ⟨_, h⟩
  · rw [opensWord, Bool.or_assoc, Bool.eq_false_iff.mpr hword, Bool.eq_false_iff.mpr hdigit]
    rfl
  · exact absurd h (ofToken_ne_none _ _)

/-! ### All tokens -/

/-- The tokens of a text are those of its first step and those of what the step leaves. -/
lemma exists_step_of_tokensWithin {n : Nat} {afterWord : Bool} {c : Char} {cs : List Char}
    {ts : List Token} (h : tokensWithin n afterWord (c :: cs) = .ok ts) :
    ∃ m afterWord' t rest ts', n = m + 1 ∧ step afterWord c cs = .ok (t, rest) ∧
      tokensWithin m afterWord' rest = .ok ts' ∧ ts = t.toList ++ ts' := by
  cases n with
  | zero => simp [tokensWithin] at h
  | succ n =>
    rw [tokensWithin] at h
    split at h
    · simp at h
    next rest hstep => exact ⟨n, false, none, rest, ts, rfl, hstep, h, rfl⟩
    next t rest hstep =>
      cases hrest : tokensWithin n t.isWord rest with
      | error fault => simp [hrest, Except.map] at h
      | ok ts' =>
        obtain rfl : t :: ts' = ts := by simpa [hrest, Except.map] using h
        exact ⟨n, t.isWord, some t, rest, ts', rfl, hstep, hrest, rfl⟩

lemma exists_opensWord_of_tokensWithin {n : Nat} {afterWord : Bool} {cs : List Char}
    {text key : String} {ts : List Token}
    (h : tokensWithin n afterWord cs = .ok (.word text key :: ts)) :
    ∃ c rest, text.toList = c :: rest ∧ opensWord c = true := by
  induction n generalizing afterWord cs with
  | zero => cases cs <;> simp [tokensWithin] at h
  | succ n ih =>
    cases cs with
    | nil => simp [tokensWithin] at h
    | cons c cs =>
      obtain ⟨m, _, t, rest, ts', hm, hstep, hrest, hts⟩ := exists_step_of_tokensWithin h
      obtain rfl : n = m := by omega
      cases t with
      | none =>
        rw [Option.toList_none, List.nil_append] at hts
        exact ih (hts ▸ hrest)
      | some t =>
        obtain ⟨rfl, -⟩ := List.cons.inj hts
        obtain ⟨hopens, hword⟩ := isWordOf_step hstep
        obtain ⟨d, rest', htext⟩ := List.exists_cons_of_ne_nil hword.ne_nil
        obtain rfl : d = c := by simpa [htext] using congrArg List.head? hword.append
        exact ⟨d, rest', htext, hopens⟩

/-- A text that starts with its first word goes on behind it. -/
lemma exists_rest_of_tokensWithin {n : Nat} {afterWord : Bool} {tail : List Char}
    {text key : String} {ts : List Token}
    (h : tokensWithin n afterWord (text.toList ++ tail) = .ok (.word text key :: ts)) :
    ' ' ∉ text.toList ∧ ∃ m afterWord', tokensWithin m afterWord' tail = .ok ts := by
  obtain ⟨c, rest, htext, hopens⟩ := exists_opensWord_of_tokensWithin h
  have happend : text.toList ++ tail = c :: (rest ++ tail) := by simp [htext]
  rw [happend] at h
  obtain ⟨m, afterWord', t, rest', ts', -, hstep, hrest, hts⟩ := exists_step_of_tokensWithin h
  cases t with
  | none =>
    rw [opensWord_of_step_none hstep] at hopens
    exact Bool.noConfusion hopens
  | some t =>
    obtain ⟨rfl, rfl⟩ := List.cons.inj hts
    have hword := (isWordOf_step hstep).2
    obtain rfl := List.append_cancel_left (hword.append.trans happend.symm)
    exact ⟨hword.blank, m, afterWord', hrest⟩

/-! ### Comparisons with a number -/

lemma mem_digits_of_isDigit {c : Char} (h : c.isDigit = true) :
    c ∈ ['0', '1', '2', '3', '4', '5', '6', '7', '8', '9'] := by
  have hbounds : 48 ≤ c.toNat ∧ c.toNat ≤ 57 := by
    simpa [Char.isDigit, UInt32.le_iff_toNat_le] using h
  rw [← Char.ofNat_toNat c]
  obtain ⟨hlow, hhigh⟩ := hbounds
  interval_cases c.toNat <;> decide

lemma ne_of_isDigit {c d : Char} (hc : c.isDigit = true) (hd : d.isDigit = false) : c ≠ d := by
  rintro rfl
  exact Bool.noConfusion (hd.symm.trans hc)

lemma readNumber_of_digits {afterWord : Bool} {cs : List Char} (hne : cs ≠ [])
    (hdigits : ∀ c ∈ cs, c.isDigit = true) :
    readNumber afterWord cs = .ok (.number (String.ofList cs) false, []) := by
  have htake : cs.takeWhile Char.isDigit = cs := List.takeWhile_eq_self_iff.mpr hdigits
  have hdrop : cs.dropWhile Char.isDigit = [] := List.dropWhile_eq_nil_iff.mpr hdigits
  have hpoint : '.' ∉ cs := fun h => absurd (hdigits _ h) (by decide)
  have hnot : (cs == ['.']) = false := by
    rw [beq_eq_false_iff_ne]
    rintro rfl
    simp at hpoint
  unfold readNumber
  split
  · simp at hpoint
  · rw [htake, hdrop]
    dsimp only
    split
    · simp_all
    · simp [hnot, readExponent, readNumber.withLong]

lemma step_of_digit {afterWord : Bool} {c : Char} {cs : List Char} (hc : c.isDigit = true) :
    step afterWord c cs = Step.ofToken (readNumber afterWord (c :: cs)) := by
  have hne : ∀ d : Char, d.isDigit = false → (c == d) = false := fun d hd =>
    beq_eq_false_iff_ne.mpr (ne_of_isDigit hc hd)
  unfold step
  simp only [hne ' ' rfl, hne '\t' rfl, hne '\n' rfl, hne '\r' rfl, hne 'b' rfl, hne 'B' rfl,
    hne 'n' rfl, hne 'N' rfl, hne 'x' rfl, hne 'X' rfl, hne '\'' rfl, hne '"' rfl,
    hne '\x60' rfl, hc, Bool.or_self, Bool.true_or, Bool.false_eq_true, if_false, if_true]

/-- A run of digits is one number. -/
lemma tokens_of_digits {n : Nat} {afterWord : Bool} {cs : List Char} {ts : List Token}
    (h : tokensWithin n afterWord cs = .ok ts) (hne : cs ≠ [])
    (hdigits : ∀ c ∈ cs, c.isDigit = true) : ts = [.number (String.ofList cs) false] := by
  obtain ⟨c, rest, rfl⟩ := List.exists_cons_of_ne_nil hne
  obtain ⟨m, afterWord', t, rest', ts', -, hstep, hrest, rfl⟩ := exists_step_of_tokensWithin h
  rw [step_of_digit (hdigits c (by simp)), readNumber_of_digits hne hdigits] at hstep
  obtain ⟨rfl, rfl⟩ := Prod.mk.inj (Except.ok.inj hstep)
  rw [tokensWithin, Except.ok.injEq] at hrest
  simp [← hrest]

/-- A minus that opens no comment and no arrow is one symbol. -/
lemma step_minus {afterWord : Bool} {cs : List Char} (h : ∀ c ∈ cs.head?, c ≠ '-' ∧ c ≠ '>') :
    step afterWord '-' cs = .ok (some (.symbol "-"), cs) := by
  cases cs with
  | nil => rfl
  | cons c rest =>
    obtain ⟨hminus, harrow⟩ := h c rfl
    have hsymbol : readSymbol '-' (c :: rest) = (.symbol "-", c :: rest) := by
      have hlong : ∀ p ∈ longSymbols, ¬ p.1.isPrefixOf ('-' :: c :: rest) = true := by
        simp [longSymbols, harrow.symm]
      rw [readSymbol, List.find?_eq_none.mpr hlong]
      rfl
    have hcomment : ('-' == '-' && ['-', ' '].isPrefixOf (c :: rest)) = false := by
      simp [List.isPrefixOf, hminus.symm]
    unfold step
    rw [hcomment, hsymbol]
    rfl

/-- A minus before digits is one symbol. -/
lemma tokens_of_minus {n : Nat} {afterWord : Bool} {cs : List Char} {ts : List Token}
    (h : tokensWithin n afterWord ('-' :: cs) = .ok ts) (hne : cs ≠ [])
    (hdigits : ∀ c ∈ cs, c.isDigit = true) :
    ts = [.symbol "-", .number (String.ofList cs) false] := by
  have hminus : step afterWord '-' cs = .ok (some (.symbol "-"), cs) := by
    refine step_minus fun c hc => ?_
    have hdigit := hdigits c (List.mem_of_mem_head? hc)
    exact ⟨ne_of_isDigit hdigit rfl, ne_of_isDigit hdigit rfl⟩
  obtain ⟨m, afterWord', t, rest', ts', -, hstep, hrest, rfl⟩ := exists_step_of_tokensWithin h
  rw [hminus] at hstep
  obtain ⟨rfl, rfl⟩ := Prod.mk.inj (Except.ok.inj hstep)
  simp [tokens_of_digits hrest hne hdigits]

/-- The sign of an equation between blanks is one symbol. -/
lemma tokens_of_equals {n : Nat} {afterWord : Bool} {cs : List Char} {ts : List Token}
    (h : tokensWithin n afterWord (' ' :: '=' :: ' ' :: cs) = .ok ts) :
    ∃ m afterWord' ts', tokensWithin m afterWord' cs = .ok ts' ∧ ts = .symbol "=" :: ts' := by
  obtain ⟨_, _, t, rest, ts', -, hstep, h, rfl⟩ := exists_step_of_tokensWithin h
  obtain ⟨rfl, rfl⟩ := Prod.mk.inj (Except.ok.inj hstep)
  obtain ⟨_, _, t, rest, ts', -, hstep, h, rfl⟩ := exists_step_of_tokensWithin h
  obtain ⟨rfl, rfl⟩ := Prod.mk.inj (Except.ok.inj hstep)
  obtain ⟨m, afterWord', t, rest, ts', -, hstep, h, rfl⟩ := exists_step_of_tokensWithin h
  obtain ⟨rfl, rfl⟩ := Prod.mk.inj (Except.ok.inj hstep)
  exact ⟨m, afterWord', ts', h, rfl⟩

end SemanticQuery.Sql.Lexer
