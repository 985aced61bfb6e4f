import Mathlib.Tactic.Common
import SemanticQuery.Sql.Lexer
import SemanticQuery.Sql.Printer

/-!
# Strings between quotes

A printed string is read back as itself exactly where it is plain: no quote stands next to another
one, and every backslash stands before a percent sign or an underscore. Any other backslash is
printed as it is and read as an escape, and it may swallow the closing quote.
-/

namespace SemanticQuery.Sql.Lexer

/-! ### Plain strings -/

/-- Whether `next` may stand behind `c` in a plain string between quotes `q`. -/
def mayPrecede (q c : Char) (next : Option Char) : Bool :=
  if c == q then next != some q
  else if c == '\\' then next == some '%' || next == some '_'
  else true

/-- Whether a string between quotes `q` holds no doubled quote and no backslash that is read as an
escape. -/
def isPlain (q : Char) : List Char → Bool
  | [] => true
  | c :: cs => mayPrecede q c cs.head? && isPlain q cs

/-! ### One step of reading -/

section

variable {q : Char} {cs rest : List Char}

lemma readQuoted_close (h : rest.head? ≠ some q) :
    readQuoted q true (q :: rest) = some ([], rest) := by
  cases rest with
  | nil => simp [readQuoted]
  | cons d rest =>
    have hd : d ≠ q := by simpa using h
    simp [readQuoted, hd]

lemma readQuoted_doubled :
    readQuoted q true (q :: q :: cs) =
      (readQuoted q true cs).map fun (s, r) => (q :: s, r) := by
  simp [readQuoted]

lemma readQuoted_other {c : Char} (hc : c ≠ q) (hbackslash : c ≠ '\\') :
    readQuoted q true (c :: cs) = (readQuoted q true cs).map fun (s, r) => (c :: s, r) := by
  rw [readQuoted.eq_def]
  simp [hc, hbackslash]

lemma readQuoted_wildcard {d : Char} (hq : '\\' ≠ q) (hd : d = '%' ∨ d = '_') :
    readQuoted q true ('\\' :: d :: cs) =
      (readQuoted q true cs).map fun (s, r) => ('\\' :: d :: s, r) := by
  simp [readQuoted, hq, hd]

lemma readQuoted_escape {d : Char} (hq : '\\' ≠ q) (hd : ¬ (d = '%' ∨ d = '_')) :
    readQuoted q true ('\\' :: d :: cs) =
      (readQuoted q true cs).map fun (s, r) => (unescaped d :: s, r) := by
  simp [readQuoted, hq, hd]

lemma exists_of_map_fst {f : List Char → List Char} {o : Option (List Char × List Char)}
    {s r : List Char} (h : (o.map fun (s, r) => (f s, r)) = some (s, r)) :
    ∃ s', o = some (s', r) ∧ f s' = s := by
  obtain ⟨⟨s', r'⟩, ho, heq⟩ := Option.map_eq_some_iff.mp h
  obtain ⟨hs, rfl⟩ := Prod.mk.inj heq
  exact ⟨s', ho, hs⟩

/-- Reading takes in the closing quote and at least one character for each that it gives. -/
lemma length_add_lt_of_readQuoted {escapes : Bool} {s r : List Char}
    (h : readQuoted q escapes cs = some (s, r)) : s.length + r.length < cs.length := by
  fun_induction readQuoted q escapes cs generalizing s r with
  | case1 | case5 => simp at h
  | case2 | case4 =>
    obtain ⟨rfl, rfl⟩ := Prod.mk.inj (Option.some.inj h)
    simp
  | case3 _ _ _ rest _ ih | case7 _ rest _ _ ih =>
    obtain ⟨s', hread, rfl⟩ := exists_of_map_fst h
    have hlt := ih hread
    simp only [List.length_cons]
    omega
  | case6 c _ _ d rest ih =>
    obtain ⟨⟨s', r'⟩, hread, heq⟩ := Option.map_eq_some_iff.mp h
    have hlt := ih hread
    dsimp only at heq
    split at heq
    all_goals
      obtain ⟨rfl, rfl⟩ := Prod.mk.inj heq
      simp only [List.length_cons]
      omega

/-! ### One step of printing -/

lemma quoteChars_other {c : Char} (escaped : Bool) (hc : c ≠ q) :
    quoteChars q escaped (c :: cs) = c :: quoteChars q (c == '\\') cs := by
  rw [quoteChars.eq_def]
  simp [hc]

lemma quoteChars_escaped : quoteChars q true (q :: cs) = q :: quoteChars q true cs := by
  rw [quoteChars.eq_def]
  simp

lemma quoteChars_doubled :
    quoteChars q false (q :: q :: cs) = q :: q :: quoteChars q false cs := by
  simp [quoteChars]

lemma quoteChars_alone (h : cs.head? ≠ some q) :
    quoteChars q false (q :: cs) = q :: q :: quoteChars q false cs := by
  cases cs with
  | nil => simp [quoteChars]
  | cons d cs =>
    have hd : d ≠ q := by simpa using h
    simp [quoteChars, hd]

/-! ### Reading what is printed -/

/-- No more characters `s` are read than the string `cs` has, and as many only where it is plain and
the remainder `r` is the text `rest` behind it. -/
structure IsReadOf (q : Char) (cs rest s r : List Char) : Prop where
  length_le : s.length ≤ cs.length
  plain : s.length = cs.length → isPlain q cs = true ∧ r = rest

lemma IsReadOf.of_lt {s r : List Char} (h : s.length < cs.length) : IsReadOf q cs rest s r :=
  ⟨Nat.le_of_lt h, fun heq => absurd heq (Nat.ne_of_lt h)⟩

lemma IsReadOf.cons {s r : List Char} {c c' : Char} (h : IsReadOf q cs rest s r)
    (hc : mayPrecede q c cs.head? = true) : IsReadOf q (c :: cs) rest (c' :: s) r where
  length_le := Nat.succ_le_succ h.length_le
  plain heq := by
    obtain ⟨hcs, hr⟩ := h.plain (Nat.succ.inj heq)
    exact ⟨Bool.and_eq_true_iff.mpr ⟨hc, hcs⟩, hr⟩

/-- Printed strings shorter than `n` are read as far as to the remainder `r`. -/
def ReadsBelow (q : Char) (rest r : List Char) (n : Nat) : Prop :=
  ∀ cs : List Char, cs.length < n → ∀ escaped s,
    readQuoted q true (quoteChars q escaped cs ++ q :: rest) = some (s, r) →
      IsReadOf q cs rest s r

/-- Of two quotes one is lost, and an escaped quote ends the string. -/
lemma isReadOf_quote {escaped : Bool} {s r : List Char} (ih : ReadsBelow q rest r (q :: cs).length)
    (hbehind : ∀ s', readQuoted q true rest ≠ some (s', r))
    (h : readQuoted q true (quoteChars q escaped (q :: cs) ++ q :: rest) = some (s, r)) :
    IsReadOf q (q :: cs) rest s r := by
  by_cases hnext : cs.head? = some q
  · obtain ⟨cs', rfl⟩ : ∃ cs', cs = q :: cs' := by
      cases cs with
      | nil => simp at hnext
      | cons d cs' => exact ⟨cs', by simpa using hnext⟩
    have hprint : quoteChars q escaped (q :: q :: cs') = q :: q :: quoteChars q escaped cs' := by
      cases escaped with
      | true => rw [quoteChars_escaped, quoteChars_escaped]
      | false => exact quoteChars_doubled
    rw [hprint, List.cons_append, List.cons_append, readQuoted_doubled] at h
    obtain ⟨s', hread, rfl⟩ := exists_of_map_fst h
    have hlength : cs'.length < (q :: q :: cs').length := by
      simp only [List.length_cons]
      omega
    have hle := (ih cs' hlength _ _ hread).length_le
    exact .of_lt (Nat.succ_lt_succ (Nat.lt_succ_of_le hle))
  cases escaped with
  | false =>
    rw [quoteChars_alone hnext, List.cons_append, List.cons_append, readQuoted_doubled] at h
    obtain ⟨s', hread, rfl⟩ := exists_of_map_fst h
    exact (ih cs (by simp) _ _ hread).cons (by simp [mayPrecede, hnext])
  | true =>
    rw [quoteChars_escaped, List.cons_append] at h
    rcases cs with _ | ⟨d, cs⟩
    · -- The closing quote is taken for the second one of two.
      rw [quoteChars, List.nil_append, readQuoted_doubled] at h
      obtain ⟨s', hread, -⟩ := exists_of_map_fst h
      exact absurd hread (hbehind s')
    · have hd : d ≠ q := by simpa using hnext
      rw [quoteChars_other _ hd, List.cons_append, readQuoted_close (by simpa using hd)] at h
      obtain ⟨rfl, -⟩ := Prod.mk.inj (Option.some.inj h)
      exact .of_lt (by simp)

section

variable (hq : q = '\'' ∨ q = '"')
include hq

/-- A backslash is lost unless a wildcard stands behind it. -/
lemma isReadOf_backslash {escaped : Bool} {s r : List Char}
    (ih : ReadsBelow q rest r ('\\' :: cs).length)
    (hbehind : ∀ s', readQuoted q true rest ≠ some (s', r))
    (h : readQuoted q true (quoteChars q escaped ('\\' :: cs) ++ q :: rest) = some (s, r)) :
    IsReadOf q ('\\' :: cs) rest s r := by
  have hbackslash : '\\' ≠ q := by rcases hq with rfl | rfl <;> decide
  rw [quoteChars_other _ hbackslash, beq_self_eq_true, List.cons_append] at h
  rcases cs with _ | ⟨d, cs⟩
  · have hclose : ¬ (q = '%' ∨ q = '_') := by rcases hq with rfl | rfl <;> decide
    rw [quoteChars, List.nil_append, readQuoted_escape hbackslash hclose] at h
    obtain ⟨s', hread, -⟩ := exists_of_map_fst h
    exact absurd hread (hbehind s')
  have hlength : cs.length < ('\\' :: d :: cs).length := by
    simp only [List.length_cons]
    omega
  obtain ⟨e, hprint⟩ : ∃ e, quoteChars q true (d :: cs) = d :: quoteChars q e cs := by
    by_cases hdq : d = q
    · exact ⟨true, hdq ▸ quoteChars_escaped⟩
    · exact ⟨_, quoteChars_other _ hdq⟩
  rw [hprint, List.cons_append] at h
  by_cases hd : d = '%' ∨ d = '_'
  · have hd' : d ≠ q ∧ d ≠ '\\' := by
      rcases hq with rfl | rfl <;> rcases hd with rfl | rfl <;> decide
    rw [readQuoted_wildcard hbackslash hd] at h
    obtain ⟨s', hread, rfl⟩ := exists_of_map_fst (f := fun s => '\\' :: d :: s) h
    have hcons : IsReadOf q (d :: cs) rest (d :: s') r :=
      (ih cs hlength _ _ hread).cons (by simp [mayPrecede, hd'])
    exact hcons.cons (by simp [mayPrecede, hbackslash, hd])
  · rw [readQuoted_escape hbackslash hd] at h
    obtain ⟨s', hread, rfl⟩ := exists_of_map_fst h
    have hle := (ih cs hlength _ _ hread).length_le
    exact .of_lt (Nat.succ_lt_succ (Nat.lt_succ_of_le hle))

variable (hrest : rest.head? ≠ some q)
include hrest

/-- Whatever is read from a printed string, if the reader does not go on behind it, is a read of the
string. Behind a backslash, `escaped` tells that the printer takes a quote for an escaped one, which
the reader need not do. -/
lemma isReadOf_of_readQuoted {escaped : Bool} {s r : List Char}
    (h : readQuoted q true (quoteChars q escaped cs ++ q :: rest) = some (s, r))
    (hr : rest.length ≤ r.length) : IsReadOf q cs rest s r := by
  have hbehind : ∀ s', readQuoted q true rest ≠ some (s', r) := by
    intro s' hread
    have hlt := length_add_lt_of_readQuoted hread
    omega
  induction hn : cs.length using Nat.strongRecOn generalizing cs escaped s with
  | ind n ih =>
  subst hn
  have ih : ReadsBelow q rest r cs.length := fun cs' hlt _ _ h' => ih _ hlt h' rfl
  rcases cs with _ | ⟨c, cs⟩
  · rw [quoteChars, List.nil_append, readQuoted_close hrest] at h
    obtain ⟨rfl, rfl⟩ := Prod.mk.inj (Option.some.inj h)
    exact ⟨Nat.le_refl _, fun _ => ⟨rfl, rfl⟩⟩
  by_cases hc : c = q
  · subst hc
    exact isReadOf_quote ih hbehind h
  by_cases hc' : c = '\\'
  · subst hc'
    exact isReadOf_backslash hq ih hbehind h
  · rw [quoteChars_other _ hc, List.cons_append, readQuoted_other hc hc'] at h
    obtain ⟨s', hread, rfl⟩ := exists_of_map_fst h
    exact (ih cs (by simp) _ _ hread).cons (by simp [mayPrecede, hc, hc'])

/-- Plain strings are read back. -/
lemma readQuoted_quoteChars_of_isPlain (h : isPlain q cs = true) :
    readQuoted q true (quoteChars q false cs ++ q :: rest) = some (cs, rest) := by
  have hbackslash : '\\' ≠ q := by rcases hq with rfl | rfl <;> decide
  induction hn : cs.length using Nat.strongRecOn generalizing cs with
  | ind n ih =>
  subst hn
  rcases cs with _ | ⟨c, cs⟩
  · simpa [quoteChars] using readQuoted_close hrest
  obtain ⟨hhead, htail⟩ := Bool.and_eq_true_iff.mp h
  by_cases hc : c = q
  · subst hc
    have halone : cs.head? ≠ some c := by simpa [mayPrecede] using hhead
    rw [quoteChars_alone halone, List.cons_append, List.cons_append, readQuoted_doubled,
      ih _ (by simp) htail rfl, Option.map_some]
  by_cases hc' : c = '\\'
  · subst hc'
    -- The backslash and the wildcard behind it are read as one.
    rcases cs with _ | ⟨d, cs⟩
    · simp [mayPrecede, hc] at hhead
    have hd : d = '%' ∨ d = '_' := by simpa [mayPrecede, hc] using hhead
    have hdq : d ≠ q := by rcases hq with rfl | rfl <;> rcases hd with rfl | rfl <;> decide
    have hd' : (d == '\\') = false := by rcases hd with rfl | rfl <;> decide
    rw [quoteChars_other _ hc, quoteChars_other _ hdq, hd', List.cons_append, List.cons_append,
      readQuoted_wildcard hbackslash hd,
      ih _ (by simp only [List.length_cons]; omega) (Bool.and_eq_true_iff.mp htail).2 rfl,
      Option.map_some]
  · rw [quoteChars_other _ hc, beq_false_of_ne hc', List.cons_append, readQuoted_other hc hc',
      ih _ (by simp) htail rfl, Option.map_some]

end

end

/-! ### One token -/

/-- A string token is read between its quotes. -/
inductive IsString : Char → (String → Token) → Prop where
  | single : IsString '\'' .single
  | double : IsString '"' .double

namespace IsString

variable {q : Char} {make : String → Token} (hstring : IsString q make)
include hstring

lemma quote : q = '\'' ∨ q = '"' := by
  cases hstring <;> simp

lemma make_inj {s s' : String} (h : make s = make s') : s = s' := by
  cases hstring <;> simpa using h

lemma step_quote (afterWord : Bool) (rest : List Char) :
    step afterWord q rest = Step.ofToken (quotedToken q true make rest) := by
  cases hstring <;> rfl

end IsString

lemma tokenize_quoteText {q : Char} {make : String → Token} (hstring : IsString q make)
    (text : String) :
    tokenize (quoteText q text) =
      (quotedToken q true make (quoteChars q false text.toList ++ [q])).bind fun p =>
        (tokensWithin (quoteChars q false text.toList ++ [q]).length p.1.isWord p.2).map
          (p.1 :: ·) := by
  rw [tokenize, quoteText, String.length_ofList, String.toList_ofList, List.cons_append,
    List.length_cons, tokensWithin, hstring.step_quote]
  cases quotedToken q true make (quoteChars q false text.toList ++ [q]) <;> rfl

/-- A printed string is one token, the string itself, exactly where the string is plain. -/
theorem tokenize_quoteText_iff {q : Char} {make : String → Token} (hstring : IsString q make)
    (text : String) :
    tokenize (quoteText q text) = .ok [make text] ↔ isPlain q text.toList = true := by
  have hnil : ([] : List Char).head? ≠ some q := by simp
  rw [tokenize_quoteText hstring, quotedToken]
  constructor
  · intro h
    cases hread : readQuoted q true (quoteChars q false text.toList ++ [q]) with
    | none => simp [hread, Except.bind] at h
    | some p =>
      obtain ⟨s, r⟩ := p
      simp only [hread, Except.bind] at h
      have hmake : make (String.ofList s) = make text := by
        cases hrest : tokensWithin (quoteChars q false text.toList ++ [q]).length
            (make (String.ofList s)).isWord r with
        | error fault =>
          rw [hrest] at h
          cases h
        | ok ts =>
          rw [hrest] at h
          exact (List.cons.inj (Except.ok.inj h)).1
      have hs : s = text.toList := by
        rw [← hstring.make_inj hmake, String.toList_ofList]
      have hof : IsReadOf q text.toList [] s r :=
        isReadOf_of_readQuoted hstring.quote hnil hread (Nat.zero_le _)
      exact (hof.plain (congrArg List.length hs)).1
  · intro h
    rw [readQuoted_quoteChars_of_isPlain hstring.quote hnil h]
    simp [Except.bind, tokensWithin, Except.map]

example : isPlain '\'' "it's 5\\%".toList = true := by decide

example : isPlain '\'' "x\\".toList = false := by decide

end SemanticQuery.Sql.Lexer
