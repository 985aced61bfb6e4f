import SemanticQuery.Proofs.Sql.Lexer
import SemanticQuery.Proofs.Sql.Quote

/-!
# Texts that spell tokens

A text spells tokens if it is split into them wherever it stands, given that what stands behind it
does not go on with its last word. Texts are put together from words, strings, numbers and signs, so
what a text spells is found by going through it once.
-/

namespace SemanticQuery.Sql

namespace Lexer

/-! ### Splitting -/

/-- The characters are split into the tokens, with as many steps as there are characters or more. -/
def Splits (afterWord : Bool) (cs : List Char) (ts : List Token) : Prop :=
  ∀ n, cs.length ≤ n → tokensWithin n afterWord cs = .ok ts

variable {afterWord : Bool} {c : Char} {cs rest : List Char} {t : Token} {ts us : List Token}

lemma splits_nil : Splits afterWord [] [] := by
  intro n _
  cases n <;> rfl

lemma Splits.token (hstep : step afterWord c cs = .ok (some t, rest))
    (hle : rest.length ≤ cs.length) (h : Splits t.isWord rest ts) :
    Splits afterWord (c :: cs) (t :: ts) := by
  intro n hn
  obtain ⟨n, rfl⟩ := Nat.exists_eq_succ_of_ne_zero (n := n) (by rintro rfl; simp at hn)
  have hrest : tokensWithin n t.isWord rest = .ok ts :=
    h n (hle.trans (Nat.le_of_succ_le_succ hn))
  rw [tokensWithin, hstep]
  simp only [hrest, Except.map]

lemma Splits.blank (h : Splits false cs ts) : Splits afterWord (' ' :: cs) ts := by
  intro n hn
  obtain ⟨n, rfl⟩ := Nat.exists_eq_succ_of_ne_zero (n := n) (by rintro rfl; simp at hn)
  exact h n (Nat.le_of_succ_le_succ hn)

lemma tokenize_of_splits {text : String} (h : Splits false text.toList ts) :
    tokenize text = .ok ts :=
  h _ (le_of_eq String.length_toList)

/-! ### Ends of words -/

/-- The characters go on with no word, number or string that stands before them. -/
def Boundary (cs : List Char) : Prop := ∀ c ∈ cs.head?, c ∈ [' ', ')', ',', '(']

lemma boundary_nil : Boundary [] := by simp [Boundary]

lemma boundary_cons (h : c ∈ [' ', ')', ',', '(']) : Boundary (c :: cs) := by
  simpa [Boundary] using h

/-- The characters spell the tokens before any boundary. -/
structure Spells (cs : List Char) (ts : List Token) : Prop where
  splits : ∀ {rest us}, Boundary rest → (∀ afterWord, Splits afterWord rest us) →
    ∀ afterWord, Splits afterWord (cs ++ rest) (ts ++ us)

lemma tokenize_of_spells {text : String} (h : Spells text.toList ts) : tokenize text = .ok ts := by
  have hsplits := h.splits boundary_nil (fun _ => splits_nil) false
  rw [List.append_nil, List.append_nil] at hsplits
  exact tokenize_of_splits hsplits

/-! ### Signs -/

lemma spells_nil : Spells [] [] where
  splits _ hsplits := hsplits

/-- The characters spell the tokens and may stand behind other text. -/
structure Adjoins (cs : List Char) (ts : List Token) : Prop where
  boundary : Boundary cs
  spells : Spells cs ts

lemma adjoins_nil : Adjoins [] [] := ⟨boundary_nil, spells_nil⟩

lemma Boundary.append (h : Boundary cs) (hrest : Boundary rest) : Boundary (cs ++ rest) := by
  cases cs with
  | nil => exact hrest
  | cons c cs => exact h

lemma Spells.append (h : Spells cs ts) (hrest : Adjoins rest us) :
    Spells (cs ++ rest) (ts ++ us) where
  splits hbound hsplits afterWord := by
    rw [List.append_assoc, List.append_assoc]
    exact h.splits (hrest.boundary.append hbound) (hrest.spells.splits hbound hsplits) afterWord

lemma Adjoins.append (h : Adjoins cs ts) (hrest : Adjoins rest us) :
    Adjoins (cs ++ rest) (ts ++ us) :=
  ⟨h.boundary.append hrest.boundary, h.spells.append hrest⟩

/-- What stands behind a blank may stand behind other text. -/
lemma Spells.blank (h : Spells cs ts) : Adjoins (' ' :: cs) ts where
  boundary := boundary_cons (by simp)
  spells := ⟨fun hbound hsplits _ => (h.splits hbound hsplits false).blank⟩

/-- A sign is one symbol, whatever stands behind it. -/
lemma Spells.sign {text : String}
    (hstep : ∀ afterWord rest, step afterWord c rest = .ok (some (.symbol text), rest))
    (h : Spells cs ts) : Spells (c :: cs) (.symbol text :: ts) where
  splits hbound hsplits _ := .token (hstep _ _) (by simp) (h.splits hbound hsplits _)

lemma Spells.opening (h : Spells cs ts) : Adjoins ('(' :: cs) (.symbol "(" :: ts) :=
  ⟨boundary_cons (by simp), .sign (fun _ _ => rfl) h⟩

lemma Spells.closing (h : Spells cs ts) : Adjoins (')' :: cs) (.symbol ")" :: ts) :=
  ⟨boundary_cons (by simp), .sign (fun _ _ => rfl) h⟩

lemma Spells.comma (h : Spells cs ts) : Adjoins (',' :: cs) (.symbol "," :: ts) :=
  ⟨boundary_cons (by simp), .sign (fun _ _ => rfl) h⟩

/-- A minus before what goes on with it in no way. -/
lemma Spells.minus (h : Spells cs ts) (hhead : ∀ c ∈ cs.head?, c ≠ '-' ∧ c ≠ '>') :
    Spells ('-' :: cs) (.symbol "-" :: ts) where
  splits {rest us} hbound hsplits afterWord := by
    have hstep : step afterWord '-' (cs ++ rest) = .ok (some (.symbol "-"), cs ++ rest) := by
      refine step_minus fun c hc => ?_
      cases cs with
      | nil =>
        have hne : ∀ d, d ∉ [' ', ')', ',', '('] → c ≠ d := by
          rintro d hd rfl
          exact hd (hbound c hc)
        exact ⟨hne '-' (by decide), hne '>' (by decide)⟩
      | cons d cs => exact hhead c hc
    exact .token hstep (by simp) (h.splits hbound hsplits _)

/-- A sign of one or more characters between blanks. -/
lemma Spells.operator {text : String} {tail : List Char}
    (hstep : ∀ afterWord rest,
      step afterWord c (tail ++ ' ' :: rest) = .ok (some (.symbol text), ' ' :: rest))
    (h : Spells cs ts) : Adjoins (' ' :: c :: (tail ++ ' ' :: cs)) (.symbol text :: ts) := by
  refine Spells.blank ⟨fun {rest us} hbound hsplits afterWord => ?_⟩
  have hbehind := h.blank.spells.splits hbound hsplits (Token.symbol text).isWord
  rw [List.cons_append, List.append_assoc]
  exact .token (hstep _ _) (by simp) hbehind

/-! ### Words -/

/-- The text of a bare word. -/
structure IsBareWord (text : String) : Prop where
  head : ∀ c ∈ text.toList.head?, startsWord c = true ∧ c ≠ '@'
  ne_nil : text.toList ≠ []
  continues : ∀ c ∈ text.toList, continuesWord c = true

instance (text : String) : Decidable (IsBareWord text) :=
  decidable_of_iff (text.toList.head?.all (fun c => startsWord c && c != '@') = true ∧
      text.toList ≠ [] ∧ text.toList.all continuesWord = true)
    ⟨fun ⟨h, h', h''⟩ => ⟨by simpa [Option.all_eq_true] using h, h', List.all_eq_true.mp h''⟩,
      fun ⟨h, h', h''⟩ => ⟨by simpa [Option.all_eq_true] using h, h', List.all_eq_true.mpr h''⟩⟩

/-- The characters go on with no word, and open no string behind a letter. -/
def EndsWord (cs : List Char) : Prop :=
  ∀ c ∈ cs.head?, continuesWord c = false ∧ c ≠ '\'' ∧ c ≠ '"'

lemma Boundary.endsWord (h : Boundary cs) : EndsWord cs := by
  intro c hc
  have hmem := h c hc
  simp only [List.mem_cons, List.not_mem_nil, or_false] at hmem
  rcases hmem with rfl | rfl | rfl | rfl <;> exact ⟨by decide, by decide, by decide⟩

lemma takeWhile_continuesWord (hcs : ∀ c ∈ cs, continuesWord c = true) (hrest : EndsWord rest) :
    (cs ++ rest).takeWhile continuesWord = cs ∧ (cs ++ rest).dropWhile continuesWord = rest := by
  have hstop : rest.takeWhile continuesWord = [] ∧ rest.dropWhile continuesWord = rest := by
    cases rest with
    | nil => exact ⟨rfl, rfl⟩
    | cons c rest =>
      have hc := (hrest c rfl).1
      exact ⟨List.takeWhile_cons_of_neg (by simp [hc]), List.dropWhile_cons_of_neg (by simp [hc])⟩
  rw [List.takeWhile_append_of_pos hcs, List.dropWhile_append_of_pos hcs, hstop.1, hstop.2,
    List.append_nil]
  exact ⟨rfl, rfl⟩

/-- A letter before a word opens no string. -/
lemma readLettered_word {quotes : List (Char × Bool × (String → Token))}
    (hquotes : ∀ q ∈ quotes, q.1 = '\'' ∨ q.1 = '"')
    (hcs : ∀ c ∈ cs, continuesWord c = true) (hrest : EndsWord rest) :
    readLettered c (cs ++ rest) quotes = .ok (.ofWord (String.ofList (c :: cs)), rest) := by
  obtain ⟨htake, hdrop⟩ := takeWhile_continuesWord hcs hrest
  unfold readLettered
  split
  next q behind heq =>
    have hq : q ≠ '\'' ∧ q ≠ '"' := by
      cases cs with
      | nil => exact (hrest q (by simp [show rest = q :: behind from heq])).2
      | cons d cs =>
        obtain ⟨rfl, -⟩ := List.cons.inj heq
        have hd := hcs d List.mem_cons_self
        constructor <;> rintro rfl <;> exact absurd hd (by decide)
    have hnone : quotes.find? (fun p => p.1 == q) = none := by
      refine List.find?_eq_none.mpr fun p hp => ?_
      rcases hquotes p hp with h | h <;> simp [h, hq.1.symm, hq.2.symm]
    rw [hnone]
    dsimp only
    rw [htake, hdrop]
  next heq =>
    obtain ⟨rfl, rfl⟩ := List.append_eq_nil_iff.mp heq
    rfl

lemma isDigit_eq_false_of_startsWord (h : startsWord c = true) : c.isDigit = false := by
  have hall : ['0', '1', '2', '3', '4', '5', '6', '7', '8', '9'].all (!startsWord ·) = true := by
    decide
  rw [Bool.eq_false_iff]
  intro hdigit
  have hc := List.all_eq_true.mp hall c (mem_digits_of_isDigit hdigit)
  simp [h] at hc

lemma step_word (hc : startsWord c = true) (hat : c ≠ '@')
    (hcs : ∀ c ∈ cs, continuesWord c = true) (hrest : EndsWord rest) :
    step afterWord c (cs ++ rest) = .ok (some (.ofWord (String.ofList (c :: cs))), rest) := by
  have hne : ∀ d : Char, startsWord d = false → (c == d) = false := by
    intro d hd
    rw [beq_eq_false_iff_ne]
    rintro rfl
    exact Bool.noConfusion (hd.symm.trans hc)
  have hdigit : c.isDigit = false := isDigit_eq_false_of_startsWord hc
  have hat' : (c == '@') = false := beq_eq_false_iff_ne.mpr hat
  obtain ⟨htake, hdrop⟩ := takeWhile_continuesWord hcs hrest
  have hword : readWord [c] (cs ++ rest) = (.ofWord (String.ofList (c :: cs)), rest) := by
    have hpoint : (c == '.') = false := hne '.' rfl
    simp [readWord, htake, hdrop, hdigit, hpoint]
  unfold step
  simp only [hne ' ' rfl, hne '\t' rfl, hne '\n' rfl, hne '\r' rfl, hne '\'' rfl, hne '"' rfl,
    hne '\x60' rfl, hne '.' rfl, hne '-' rfl, hne '#' rfl, hne '/' rfl, hne '?' rfl, hdigit, hat',
    Bool.or_self, Bool.false_and, Bool.false_eq_true, if_false, hc, if_true, hword]
  have hletter : ∀ quotes : List (Char × Bool × (String → Token)),
      (∀ q ∈ quotes, q.1 = '\'' ∨ q.1 = '"') →
      Step.ofToken (readLettered c (cs ++ rest) quotes) =
        .ok (some (.ofWord (String.ofList (c :: cs))), rest) := by
    intro quotes hquotes
    rw [readLettered_word hquotes hcs hrest]
    rfl
  split_ifs
  · exact hletter _ (by simp)
  · exact hletter _ (by simp)
  · exact hletter _ (by simp)
  · rfl

/-- A bare word is split off before anything that ends it. -/
lemma IsBareWord.splits {text : String} (h : IsBareWord text) (hrest : EndsWord rest)
    (hsplits : Splits true rest us) :
    Splits afterWord (text.toList ++ rest) (.ofWord text :: us) := by
  obtain ⟨hhead, hne, hcontinues⟩ := h
  obtain ⟨c, cs, heq⟩ := List.exists_cons_of_ne_nil hne
  rw [heq] at hhead hcontinues
  obtain ⟨hc, hat⟩ := hhead c rfl
  have hcs : ∀ d ∈ cs, continuesWord d = true := fun d hd =>
    hcontinues d (List.mem_cons_of_mem c hd)
  have hstep : step afterWord c (cs ++ rest) = .ok (some (.ofWord text), rest) := by
    rw [step_word hc hat hcs hrest, ← heq, String.ofList_toList]
  rw [heq, List.cons_append]
  exact .token hstep (by simp) hsplits

lemma spells_word {text : String} (h : IsBareWord text) : Spells text.toList [.ofWord text] where
  splits hbound hsplits _ := h.splits hbound.endsWord (hsplits true)

/-! ### Strings -/

lemma quotedToken_of_readQuoted {q : Char} {escapes : Bool} {make : String → Token} {text : String}
    (h : readQuoted q escapes cs = some (text.toList, rest)) :
    quotedToken q escapes make cs = .ok (make text, rest) := by
  rw [quotedToken, h]
  simp only [String.ofList_toList]

lemma Boundary.ne_quote (h : Boundary rest) {q : Char} (hq : q ∉ [' ', ')', ',', '(']) :
    rest.head? ≠ some q := by
  intro hhead
  exact hq (h q hhead)

/-- A string that is read back alone is read back wherever it stands. -/
lemma spells_quoteText {q : Char} {make : String → Token} (hstring : IsString q make)
    {text : String} (h : tokenize (quoteText q text) = .ok [make text]) :
    Spells (quoteText q text).toList [make text] where
  splits {rest us} hbound hsplits afterWord := by
    have hquote : rest.head? ≠ some q :=
      hbound.ne_quote (by rcases hstring.quote with rfl | rfl <;> decide)
    have hread := readQuoted_quoteChars_of_isPlain hstring.quote hquote
      ((tokenize_quoteText_iff hstring text).mp h)
    have hstep : step afterWord q (quoteChars q false text.toList ++ q :: rest) =
        .ok (some (make text), rest) := by
      rw [hstring.step_quote, quotedToken_of_readQuoted hread]
      rfl
    rw [quoteText, String.toList_ofList, List.cons_append, List.cons_append, List.append_assoc,
      List.singleton_append]
    exact .token hstep (by simp; omega) (hsplits _)

lemma quoteChars_of_notMem {q : Char} (h : q ∉ cs) (escaped : Bool) :
    quoteChars q escaped cs = cs := by
  induction cs generalizing escaped with
  | nil => rfl
  | cons c cs ih =>
    rw [List.mem_cons, not_or] at h
    rw [quoteChars_other escaped (Ne.symm h.1), ih h.2]

lemma readQuoted_of_notMem {q : Char} (h : q ∉ cs) (hrest : rest.head? ≠ some q) :
    readQuoted q false (cs ++ q :: rest) = some (cs, rest) := by
  induction cs with
  | nil =>
    cases rest with
    | nil => simp [readQuoted]
    | cons d rest =>
      have hd : d ≠ q := by simpa using hrest
      simp [readQuoted, hd]
  | cons c cs ih =>
    rw [List.mem_cons, not_or] at h
    have hc : (c == q) = false := beq_eq_false_iff_ne.mpr (Ne.symm h.1)
    rw [List.cons_append, readQuoted.eq_def]
    simp [hc, ih h.2]

/-- A name in backticks is split off before anything but a backtick. -/
lemma splits_backticks {name : String} (h : '\x60' ∉ name.toList) (hrest : rest.head? ≠ some '\x60')
    (hsplits : Splits true rest us) :
    Splits afterWord ((quoteText '\x60' name).toList ++ rest) (.quoted name :: us) := by
  have hstep : step afterWord '\x60' (name.toList ++ '\x60' :: rest) =
      .ok (some (.quoted name), rest) := by
    have hquoted : step afterWord '\x60' (name.toList ++ '\x60' :: rest) =
        .ofToken (quotedToken '\x60' false .quoted (name.toList ++ '\x60' :: rest)) := rfl
    rw [hquoted, quotedToken_of_readQuoted (readQuoted_of_notMem h hrest)]
    rfl
  rw [quoteText, String.toList_ofList, quoteChars_of_notMem h, List.cons_append, List.cons_append,
    List.append_assoc, List.singleton_append]
  exact .token hstep (by simp; omega) hsplits

/-! ### Numbers -/

/-- The text of a decimal number: digits, and perhaps a point with more digits behind it. -/
def IsDecimal (text : String) : Prop :=
  ∃ whole point, text.toList = whole ++ point ∧ whole ≠ [] ∧ (∀ c ∈ whole, c.isDigit = true) ∧
    (point = [] ∨ ∃ fraction, point = '.' :: fraction ∧ ∀ c ∈ fraction, c.isDigit = true)

lemma Boundary.cases (h : Boundary (c :: cs)) : c = ' ' ∨ c = ')' ∨ c = ',' ∨ c = '(' := by
  simpa using h c rfl

lemma Boundary.takeWhile_isDigit (h : Boundary rest) :
    rest.takeWhile Char.isDigit = [] ∧ rest.dropWhile Char.isDigit = rest := by
  cases rest with
  | nil => exact ⟨rfl, rfl⟩
  | cons c rest => rcases h.cases with rfl | rfl | rfl | rfl <;> exact ⟨rfl, rfl⟩

/-- Nothing behind a number goes on with it. -/
lemma fromMantissa_boundary {mantissa : List Char} (h : Boundary rest) (hne : mantissa ≠ ['.']) :
    fromMantissa mantissa rest = .ok (.number (String.ofList mantissa) false, rest) := by
  have hne' : (mantissa == ['.']) = false := beq_eq_false_iff_ne.mpr hne
  cases rest with
  | nil => simp [fromMantissa, hne', readExponent, readNumber.withLong]
  | cons c rest =>
    have hc : continuesWord c = false := (h.endsWord c rfl).1
    rcases h.cases with rfl | rfl | rfl | rfl <;>
      simp [fromMantissa, hne', readExponent, readNumber.withLong, hc]

lemma takeWhile_digits (hcs : ∀ c ∈ cs, c.isDigit = true)
    (hrest : rest.takeWhile Char.isDigit = [] ∧ rest.dropWhile Char.isDigit = rest) :
    (cs ++ rest).takeWhile Char.isDigit = cs ∧ (cs ++ rest).dropWhile Char.isDigit = rest := by
  rw [List.takeWhile_append_of_pos hcs, List.dropWhile_append_of_pos hcs, hrest.1, hrest.2,
    List.append_nil]
  exact ⟨rfl, rfl⟩

/-- A number is what its digits and its point make. -/
lemma readNumber_eq_fromMantissa {whole after : List Char} (hne : whole ≠ [])
    (hwhole : ∀ c ∈ whole, c.isDigit = true)
    (hafter : after.takeWhile Char.isDigit = [] ∧ after.dropWhile Char.isDigit = after)
    (hhex : after.head? ≠ some 'x') :
    readNumber afterWord (whole ++ after) =
      fromMantissa (whole ++ (pointOf after).1 ++ (pointOf after).2.takeWhile Char.isDigit)
        ((pointOf after).2.dropWhile Char.isDigit) := by
  obtain ⟨htake, hdrop⟩ := takeWhile_digits hwhole hafter
  obtain ⟨d, ds, rfl⟩ := List.exists_cons_of_ne_nil hne
  have hd : d ≠ '.' := ne_of_isDigit (hwhole d List.mem_cons_self) rfl
  unfold readNumber
  split
  next heq => exact absurd (List.cons.inj heq).1 hd
  next =>
    rw [htake, hdrop]
    dsimp only
    split
    next heq => simp at hhex
    next => rfl

lemma spells_decimal {text : String} (h : IsDecimal text) :
    Spells text.toList [.number text false] where
  splits {rest us} hbound hsplits afterWord := by
    obtain ⟨whole, point, htext, hne, hwhole, hpoint⟩ := h
    have hmade : String.ofList (whole ++ point) = text := by rw [← htext, String.ofList_toList]
    have hread : readNumber afterWord (whole ++ (point ++ rest)) =
        .ok (.number text false, rest) := by
      rcases hpoint with rfl | ⟨fraction, rfl, hfraction⟩
      · have hrest : pointOf rest = ([], rest) ∧ rest.head? ≠ some 'x' := by
          cases rest with
          | nil => exact ⟨rfl, by simp⟩
          | cons c rest => rcases hbound.cases with rfl | rfl | rfl | rfl <;> exact ⟨rfl, by simp⟩
        rw [List.nil_append,
          readNumber_eq_fromMantissa hne hwhole hbound.takeWhile_isDigit hrest.2, hrest.1]
        have hpoint : whole ≠ ['.'] := by
          rintro rfl
          exact absurd (hwhole '.' List.mem_cons_self) (by decide)
        simp only [hbound.takeWhile_isDigit, List.append_nil]
        rw [fromMantissa_boundary hbound hpoint, ← hmade, List.append_nil]
      · obtain ⟨htake, hdrop⟩ := takeWhile_digits hfraction hbound.takeWhile_isDigit
        have hpoint : whole ++ ['.'] ++ fraction ≠ ['.'] := by
          cases whole with
          | nil => exact absurd rfl hne
          | cons d ds => simp
        rw [List.cons_append, readNumber_eq_fromMantissa hne hwhole ⟨rfl, rfl⟩ (by simp)]
        simp only [pointOf, htake, hdrop]
        rw [fromMantissa_boundary hbound hpoint, ← hmade, List.append_assoc, List.singleton_append]
    obtain ⟨d, ds, rfl⟩ := List.exists_cons_of_ne_nil hne
    have hd : d.isDigit = true := hwhole d List.mem_cons_self
    have hstep : step afterWord d (ds ++ point ++ rest) =
        .ok (some (.number text false), rest) := by
      rw [step_of_digit hd, List.append_assoc, ← List.cons_append, hread]
      rfl
    rw [htext, List.cons_append, List.cons_append]
    exact .token hstep (by simp; omega) (hsplits _)

/-! ### Names behind points -/

/-- A point behind a word is a symbol, unless a digit stands behind it. -/
lemma splits_point (hcs : ∀ c ∈ cs.head?, c.isDigit = false) (h : Splits false cs ts) :
    Splits true ('.' :: cs) (.symbol "." :: ts) := by
  have hdigits : cs.takeWhile Char.isDigit = [] ∧ cs.dropWhile Char.isDigit = cs := by
    cases cs with
    | nil => exact ⟨rfl, rfl⟩
    | cons c cs =>
      have hc : c.isDigit = false := hcs c rfl
      exact ⟨List.takeWhile_cons_of_neg (by simp [hc]), List.dropWhile_cons_of_neg (by simp [hc])⟩
  have hread : readNumber true ('.' :: cs) = .ok (.symbol ".", cs) := by
    unfold readNumber
    split
    next heq => simp
    next =>
      have hpoint : ('.' :: cs).takeWhile Char.isDigit = [] ∧
          ('.' :: cs).dropWhile Char.isDigit = '.' :: cs := ⟨rfl, rfl⟩
      simp [hpoint, hdigits]
  have hstep : step true '.' cs = .ok (some (.symbol "."), cs) := by
    have hnumber : step true '.' cs = .ofToken (readNumber true ('.' :: cs)) := rfl
    rw [hnumber, hread]
    rfl
  exact .token hstep le_rfl h

end Lexer

end SemanticQuery.Sql
