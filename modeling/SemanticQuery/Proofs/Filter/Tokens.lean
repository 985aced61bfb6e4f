import SemanticQuery.Filter
import SemanticQuery.Proofs.Sql.Lexer
import SemanticQuery.Proofs.Sql.Quote

/-!
# The tokens of a filter

A filter writes the quotes of a text twice and its backslashes as they are, while the reader takes a
backslash for an escape unless a percent sign or an underscore stands behind it. So a text is read
back exactly where every backslash in it stands before one of these.
-/

namespace SemanticQuery

open Sql

/-! ### Texts with their quotes doubled -/

/-- Whether every backslash stands before a percent sign or an underscore. -/
def keepsBackslashes : List Char → Bool
  | [] => true
  | c :: cs => (c != '\\' || cs.head? == some '%' || cs.head? == some '_') && keepsBackslashes cs

/-- Characters with every single quote written twice. -/
def doubled (cs : List Char) : List Char :=
  cs.flatMap fun c => if c == '\'' then ['\'', '\''] else [c]

section

variable {c : Char} {cs rest : List Char}

lemma doubled_quote : doubled ('\'' :: cs) = '\'' :: '\'' :: doubled cs := by
  simp [doubled]

lemma doubled_other (hc : c ≠ '\'') : doubled (c :: cs) = c :: doubled cs := by
  simp [doubled, hc]

lemma keepsBackslashes_other (hc : c ≠ '\\') :
    keepsBackslashes (c :: cs) = keepsBackslashes cs := by
  simp [keepsBackslashes, hc]

lemma keepsBackslashes_wildcard {d : Char} (hd : d = '%' ∨ d = '_') :
    keepsBackslashes ('\\' :: d :: cs) = keepsBackslashes cs := by
  rcases hd with rfl | rfl <;> simp [keepsBackslashes]

lemma keepsBackslashes_of_not_mem (h : '\\' ∉ cs) : keepsBackslashes cs = true := by
  induction cs with
  | nil => rfl
  | cons c cs ih =>
    rw [List.mem_cons, not_or] at h
    rw [keepsBackslashes_other (Ne.symm h.1), ih h.2]

lemma eq_backslash_of_unescaped (h : Lexer.unescaped c = '\\') : c = '\\' := by
  unfold Lexer.unescaped at h
  split at h <;> simp_all

/-- A text that keeps its backslashes is read back. -/
lemma readQuoted_doubled_of_keepsBackslashes (hrest : rest.head? ≠ some '\'')
    (h : keepsBackslashes cs = true) :
    Lexer.readQuoted '\'' true (doubled cs ++ '\'' :: rest) = some (cs, rest) := by
  induction hn : cs.length using Nat.strongRecOn generalizing cs with
  | ind n ih =>
  subst hn
  rcases cs with _ | ⟨c, cs⟩
  · exact Lexer.readQuoted_close hrest
  by_cases hquote : c = '\''
  · subst hquote
    rw [keepsBackslashes_other (by decide)] at h
    rw [doubled_quote, List.cons_append, List.cons_append, Lexer.readQuoted_doubled,
      ih _ (by simp) h rfl, Option.map_some]
  by_cases hbackslash : c = '\\'
  · subst hbackslash
    -- The backslash and the wildcard behind it are read as one.
    rcases cs with _ | ⟨d, cs⟩
    · simp [keepsBackslashes] at h
    have hd : d = '%' ∨ d = '_' := by
      simpa [keepsBackslashes] using (Bool.and_eq_true_iff.mp h).1
    have hd' : d ≠ '\'' := by rcases hd with rfl | rfl <;> decide
    rw [keepsBackslashes_wildcard hd] at h
    rw [doubled_other hquote, doubled_other hd', List.cons_append, List.cons_append,
      Lexer.readQuoted_wildcard (by decide) hd,
      ih _ (by simp only [List.length_cons]; omega) h rfl, Option.map_some]
  · rw [keepsBackslashes_other hbackslash] at h
    rw [doubled_other hquote, List.cons_append, Lexer.readQuoted_other hquote hbackslash,
      ih _ (by simp) h rfl, Option.map_some]

/-- Behind a backslash only a second one is read as a backslash, but for the wildcards. -/
lemma eq_backslash_of_readQuoted_doubled {d : Char} {s r : List Char} (hd : ¬ (d = '%' ∨ d = '_'))
    (h : Lexer.readQuoted '\'' true ('\\' :: (doubled (d :: cs) ++ '\'' :: rest)) =
      some ('\\' :: s, r)) :
    d = '\\' ∧ Lexer.readQuoted '\'' true (doubled cs ++ '\'' :: rest) = some (s, r) := by
  obtain ⟨tail, htail⟩ : ∃ tail, doubled (d :: cs) = d :: tail := by
    by_cases hquote : d = '\''
    · exact ⟨_, hquote ▸ doubled_quote⟩
    · exact ⟨_, doubled_other hquote⟩
  rw [htail, List.cons_append, Lexer.readQuoted_escape (by decide) hd] at h
  obtain ⟨s', hread, hs⟩ := Lexer.exists_of_map_fst h
  obtain ⟨hbackslash, rfl⟩ := List.cons.inj hs
  obtain rfl := eq_backslash_of_unescaped hbackslash
  rw [doubled_other (by decide)] at htail
  obtain ⟨-, rfl⟩ := List.cons.inj htail
  exact ⟨rfl, hread⟩

/-- What is read for a text is the text with no further backslashes before it only where the text
keeps its backslashes. Each of two backslashes that are read as one leaves one more to come. -/
lemma keepsBackslashes_of_readQuoted_doubled {k : Nat} {r : List Char}
    (hrest : rest.head? ≠ some '\'')
    (h : Lexer.readQuoted '\'' true (doubled cs ++ '\'' :: rest) =
      some (List.replicate k '\\' ++ cs, r)) :
    k = 0 ∧ keepsBackslashes cs = true ∧ r = rest := by
  have hhead : ∀ {k : Nat} {c : Char} {cs s : List Char},
      c :: s = List.replicate k '\\' ++ c :: cs → c ≠ '\\' → k = 0 ∧ s = cs := by
    intro k c cs s heq hc
    cases k with
    | zero => exact ⟨rfl, (List.cons.inj heq).2⟩
    | succ k => exact absurd (List.cons.inj heq).1 hc
  induction hn : cs.length using Nat.strongRecOn generalizing cs k with
  | ind n ih =>
  subst hn
  rcases cs with _ | ⟨c, cs⟩
  · rw [doubled, List.flatMap_nil, List.nil_append, Lexer.readQuoted_close hrest] at h
    obtain ⟨hs, rfl⟩ := Prod.mk.inj (Option.some.inj h)
    exact ⟨by simpa using hs.symm, rfl, rfl⟩
  by_cases hquote : c = '\''
  · subst hquote
    rw [doubled_quote, List.cons_append, List.cons_append, Lexer.readQuoted_doubled] at h
    obtain ⟨s, hread, hs⟩ := Lexer.exists_of_map_fst h
    obtain ⟨rfl, rfl⟩ := hhead hs (by decide)
    obtain ⟨-, hkeeps, rfl⟩ := ih s.length (by simp) (k := 0) hread rfl
    exact ⟨rfl, by rwa [keepsBackslashes_other (by decide)], rfl⟩
  by_cases hbackslash : c = '\\'
  · subst hbackslash
    rw [doubled_other hquote, List.cons_append] at h
    have hmore : ∀ s : List Char,
        List.replicate k '\\' ++ '\\' :: s = List.replicate (k + 1) '\\' ++ s := by
      intro s
      rw [List.replicate_succ', List.append_assoc, List.singleton_append]
    rw [hmore, List.replicate_succ, List.cons_append] at h
    rcases cs with _ | ⟨d, cs⟩
    · rw [doubled, List.flatMap_nil, List.nil_append,
        Lexer.readQuoted_escape (by decide) (by decide)] at h
      obtain ⟨s, -, hs⟩ := Lexer.exists_of_map_fst h
      exact absurd (List.cons.inj hs).1 (by decide)
    by_cases hd : d = '%' ∨ d = '_'
    · have hd' : d ≠ '\'' ∧ d ≠ '\\' := by rcases hd with rfl | rfl <;> decide
      rw [doubled_other hd'.1, List.cons_append, Lexer.readQuoted_wildcard (by decide) hd] at h
      obtain ⟨s, hread, hs⟩ := Lexer.exists_of_map_fst (f := fun s => '\\' :: d :: s) h
      obtain ⟨rfl, rfl⟩ := hhead (List.cons.inj hs).2 hd'.2
      obtain ⟨-, hkeeps, rfl⟩ :=
        ih s.length (by simp only [List.length_cons]; omega) (k := 0) hread rfl
      exact ⟨rfl, by rwa [keepsBackslashes_wildcard hd], rfl⟩
    · -- Of two backslashes one is read, so there is one more than before to come.
      obtain ⟨rfl, hread⟩ := eq_backslash_of_readQuoted_doubled hd h
      obtain ⟨hk, -⟩ :=
        ih cs.length (by simp only [List.length_cons]; omega) (k := k + 1) (hmore cs ▸ hread) rfl
      omega
  · rw [doubled_other hquote, List.cons_append, Lexer.readQuoted_other hquote hbackslash] at h
    obtain ⟨s, hread, hs⟩ := Lexer.exists_of_map_fst h
    obtain ⟨rfl, rfl⟩ := hhead hs hbackslash
    obtain ⟨-, hkeeps, rfl⟩ := ih s.length (by simp) (k := 0) hread rfl
    exact ⟨rfl, by rwa [keepsBackslashes_other hbackslash], rfl⟩

end

/-! ### The tokens of texts -/

/-- Tokens that start with a string, which is the text exactly where the text keeps its
backslashes. Behind the text they are as they should be. -/
def ReadsText (text : String) (Behind : List Token → Prop) (ts : List Token) : Prop :=
  ∃ s rest, ts = .single s :: rest ∧ (s = text ↔ keepsBackslashes text.toList = true) ∧
    (s = text → Behind rest)

/-- Tokens behind a text: the other texts behind commas, and a parenthesis behind the last of them if
all keep their backslashes. -/
def ReadsRest : List String → List Token → Prop
  | [], ts => ts = [.symbol ")"]
  | text :: texts, ts => ∃ ts', ts = .symbol "," :: ts' ∧ ReadsText text (ReadsRest texts) ts'

section

variable {n : Nat} {afterWord : Bool} {cs : List Char} {ts : List Token}

/-- The first step gives the first token, if it gives one. -/
lemma tokens_of_step {c : Char} {t : Option Token} {rest : List Char}
    (hstep : ∀ afterWord, Lexer.step afterWord c cs = .ok (t, rest))
    (h : Lexer.tokensWithin n afterWord (c :: cs) = .ok ts) :
    ∃ m afterWord' ts', Lexer.tokensWithin m afterWord' rest = .ok ts' ∧ ts = t.toList ++ ts' := by
  obtain ⟨m, afterWord', t', rest', ts', -, hstep', hrest, rfl⟩ :=
    Lexer.exists_step_of_tokensWithin h
  obtain ⟨rfl, rfl⟩ := Prod.mk.inj (Except.ok.inj ((hstep afterWord).symm.trans hstep'))
  exact ⟨m, afterWord', ts', hrest, rfl⟩

lemma tokens_of_blank (h : Lexer.tokensWithin n afterWord (' ' :: cs) = .ok ts) :
    ∃ m afterWord', Lexer.tokensWithin m afterWord' cs = .ok ts := by
  obtain ⟨m, afterWord', ts', hcs, rfl⟩ := tokens_of_step (fun _ => rfl) h
  exact ⟨m, afterWord', hcs⟩

lemma toList_singleQuoted (text : String) :
    (singleQuoted text).toList = '\'' :: (doubled text.toList ++ ['\'']) := by
  simp [singleQuoted, doubleQuotes, doubled, String.toList_append]

lemma readsText_of_tokens {text : String} {Behind : List Token → Prop}
    (h : Lexer.tokensWithin n afterWord ((singleQuoted text).toList ++ cs) = .ok ts)
    (hcs : cs.head? ≠ some '\'')
    (hbehind : ∀ m afterWord' ts', Lexer.tokensWithin m afterWord' cs = .ok ts' → Behind ts') :
    ReadsText text Behind ts := by
  rw [toList_singleQuoted, List.cons_append, List.append_assoc, List.singleton_append] at h
  obtain ⟨m, afterWord', t, rest, ts', -, hstep, hrest, rfl⟩ := Lexer.exists_step_of_tokensWithin h
  rw [Lexer.IsString.single.step_quote] at hstep
  unfold Lexer.quotedToken at hstep
  cases hread : Lexer.readQuoted '\'' true (doubled text.toList ++ '\'' :: cs) with
  | none =>
    rw [hread] at hstep
    cases hstep
  | some p =>
    obtain ⟨s, r⟩ := p
    rw [hread] at hstep
    obtain ⟨rfl, rfl⟩ := Prod.mk.inj (Except.ok.inj hstep)
    have hkeeps : s = text.toList → keepsBackslashes text.toList = true ∧ r = cs := by
      rintro rfl
      exact (keepsBackslashes_of_readQuoted_doubled (k := 0) hcs hread).2
    have hs : String.ofList s = text → s = text.toList := by
      rintro rfl
      rw [String.toList_ofList]
    refine ⟨String.ofList s, ts', rfl, ⟨fun heq => (hkeeps (hs heq)).1, fun hkept => ?_⟩,
      fun heq => ?_⟩
    · rw [readQuoted_doubled_of_keepsBackslashes hcs hkept] at hread
      obtain ⟨rfl, -⟩ := Prod.mk.inj (Option.some.inj hread)
      exact String.ofList_toList
    · obtain ⟨-, rfl⟩ := hkeeps (hs heq)
      exact hbehind m afterWord' ts' hrest

lemma tokens_of_parenthesis (h : Lexer.tokensWithin n afterWord [')'] = .ok ts) :
    ts = [.symbol ")"] := by
  have hstep : ∀ afterWord, Lexer.step afterWord ')' [] = .ok (some (.symbol ")"), []) :=
    fun _ => rfl
  obtain ⟨m, afterWord', ts', hnil, rfl⟩ := tokens_of_step hstep h
  obtain rfl : [] = ts' := by simpa [Lexer.tokensWithin.eq_def] using hnil
  rfl

lemma readsRest_of_tokens {text : String} {texts : List String}
    (h : Lexer.tokensWithin n afterWord
      ((sqlValues ((text :: texts).map .string)).toList ++ [')']) = .ok ts) :
    ReadsText text (ReadsRest texts) ts := by
  induction texts generalizing n afterWord text ts with
  | nil => exact readsText_of_tokens h (by decide) fun _ _ _ => tokens_of_parenthesis
  | cons text' texts ih =>
    have hsplit : (sqlValues ((text :: text' :: texts).map .string)).toList ++ [')'] =
        (singleQuoted text).toList ++
          (',' :: ' ' :: ((sqlValues ((text' :: texts).map .string)).toList ++ [')'])) := by
      simp [sqlValues, sqlValue, String.toList_append]
    rw [hsplit] at h
    refine readsText_of_tokens h (by simp) fun m afterWord' ts' hts' => ?_
    have hcomma : ∀ (cs : List Char) afterWord, Lexer.step afterWord ',' (' ' :: cs) =
        .ok (some (.symbol ","), ' ' :: cs) := fun _ _ => rfl
    obtain ⟨_, _, ts'', hblank, rfl⟩ := tokens_of_step (hcomma _) hts'
    obtain ⟨_, _, hts''⟩ := tokens_of_blank hblank
    exact ⟨ts'', rfl, ih hts''⟩

/-! ### The tokens of operators -/

/-- The tokens of an operator. -/
def FilterOperator.tokens : FilterOperator → List Token
  | .equals => [.symbol "="]
  | .notEquals => [.symbol "<>"]
  | .greaterThan => [.symbol ">"]
  | .greaterThanEquals => [.symbol ">="]
  | .minorThan => [.symbol "<"]
  | .minorThanEquals => [.symbol "<="]
  | .isIn => [.word "IN" "IN"]
  | .notIn => [.word "NOT" "NOT", .word "IN" "IN"]
  | .like => [.word "LIKE" "LIKE"]

/-- A spelling between blanks is one token. -/
lemma tokens_of_spelling (c : Char) (spelling : List Char) (t : Token)
    (hstep : ∀ afterWord,
      Lexer.step afterWord c (spelling ++ ' ' :: cs) = .ok (some t, ' ' :: cs))
    (h : Lexer.tokensWithin n afterWord (' ' :: c :: (spelling ++ ' ' :: cs)) = .ok ts) :
    ∃ m afterWord' ts', Lexer.tokensWithin m afterWord' (' ' :: cs) = .ok ts' ∧ ts = t :: ts' := by
  obtain ⟨m, afterWord', h⟩ := tokens_of_blank h
  exact tokens_of_step hstep h

lemma step_in (afterWord : Bool) :
    Lexer.step afterWord 'I' (['N'] ++ ' ' :: cs) = .ok (some (.word "IN" "IN"), ' ' :: cs) := by
  have hword : Token.ofWord "IN" = .word "IN" "IN" := by decide +kernel
  rw [← hword]
  rfl

lemma step_not (afterWord : Bool) :
    Lexer.step afterWord 'N' (['O', 'T'] ++ ' ' :: cs) =
      .ok (some (.word "NOT" "NOT"), ' ' :: cs) := by
  have hword : Token.ofWord "NOT" = .word "NOT" "NOT" := by decide +kernel
  rw [← hword]
  rfl

lemma step_like (afterWord : Bool) :
    Lexer.step afterWord 'L' (['I', 'K', 'E'] ++ ' ' :: cs) =
      .ok (some (.word "LIKE" "LIKE"), ' ' :: cs) := by
  have hword : Token.ofWord "LIKE" = .word "LIKE" "LIKE" := by decide +kernel
  rw [← hword]
  rfl

lemma tokens_of_operator (op : FilterOperator)
    (h : Lexer.tokensWithin n afterWord (' ' :: (op.sql.toList ++ ' ' :: cs)) = .ok ts) :
    ∃ m afterWord' ts', Lexer.tokensWithin m afterWord' cs = .ok ts' ∧ ts = op.tokens ++ ts' := by
  have hword : ∃ m afterWord' ts',
      Lexer.tokensWithin m afterWord' (' ' :: cs) = .ok ts' ∧ ts = op.tokens ++ ts' := by
    cases op with
    | equals => exact tokens_of_spelling '=' [] _ (fun _ => rfl) h
    | notEquals => exact tokens_of_spelling '<' ['>'] _ (fun _ => rfl) h
    | greaterThan => exact tokens_of_spelling '>' [] _ (fun _ => rfl) h
    | greaterThanEquals => exact tokens_of_spelling '>' ['='] _ (fun _ => rfl) h
    | minorThan => exact tokens_of_spelling '<' [] _ (fun _ => rfl) h
    | minorThanEquals => exact tokens_of_spelling '<' ['='] _ (fun _ => rfl) h
    | isIn => exact tokens_of_spelling 'I' ['N'] _ step_in h
    | notIn =>
      obtain ⟨_, _, _, hin, rfl⟩ := tokens_of_spelling 'N' ['O', 'T'] _ step_not h
      obtain ⟨m, afterWord', ts', hcs, rfl⟩ := tokens_of_spelling 'I' ['N'] _ step_in hin
      exact ⟨m, afterWord', ts', hcs, rfl⟩
    | like => exact tokens_of_spelling 'L' ['I', 'K', 'E'] _ step_like h
  obtain ⟨_, _, ts', hblank, rfl⟩ := hword
  obtain ⟨m, afterWord', hts'⟩ := tokens_of_blank hblank
  exact ⟨m, afterWord', ts', hts', rfl⟩

end

end SemanticQuery
