import Mathlib.Algebra.Ring.Nat
import Mathlib.Tactic.Common
import SemanticQuery.Calendar.Date
import SemanticQuery.Proofs.Number.Decimal
import SemanticQuery.Proofs.Text.Blank

/-!
# Written dates

What a text says about a date is a relation between the two: a year, a month and a day with hyphens
between them, each behind any blanks. The reader finds the date of a text exactly where there is
one, and the printer writes a date in one of its forms. So a printed date is read back.
-/

namespace SemanticQuery.Calendar.Date

open Text

variable {ds cs rest blanks : List Char} {d d' : Date} {text : String} {n : ℕ}

/-! ### Digits -/

/-- Digits, at least one. -/
structure IsDigits (ds : List Char) : Prop where
  ne_nil : ds ≠ []
  isDigit : ∀ c ∈ ds, c.isDigit = true

/-- No digit stands at the head of a text. -/
def StartsWithoutDigit (cs : List Char) : Prop := ∀ c ∈ cs.head?, c.isDigit = false

lemma startsWithoutDigit_nil : StartsWithoutDigit [] := by simp [StartsWithoutDigit]

lemma startsWithoutDigit_cons {c : Char} (h : c.isDigit = false) (cs : List Char) :
    StartsWithoutDigit (c :: cs) := by
  simpa [StartsWithoutDigit] using h

lemma isBlank_of_isDigit {c : Char} (h : c.isDigit = true) : isBlank c = false := by
  simp only [Char.isDigit, Bool.and_eq_true, decide_eq_true_eq, UInt32.le_iff_toNat_le] at h
  change 48 ≤ c.toNat ∧ c.toNat ≤ 57 at h
  simp only [isBlank, Bool.or_eq_false_iff, Bool.and_eq_false_iff, decide_eq_false_iff_not,
    beq_eq_false_iff_ne]
  omega

lemma digitsValue_eq (ds : List Char) : digitsValue ds = Nat.ofDigitChars 10 ds 0 :=
  Number.foldl_digits_eq ds

lemma takeWhile_isDigit (h : IsDigits ds) (hrest : StartsWithoutDigit rest) :
    (ds ++ rest).takeWhile Char.isDigit = ds := by
  have hnil : rest.takeWhile Char.isDigit = [] := by
    cases rest with
    | nil => rfl
    | cons c rest => rw [List.takeWhile_cons_of_neg (by simp [hrest c rfl])]
  rw [List.takeWhile_append_of_pos h.isDigit, hnil, List.append_nil]

/-- A number is read from digits. -/
lemma exists_digits_of_number {width : Option ℕ} (h : number width cs = some (n, rest)) :
    ∃ ds, IsDigits ds ∧ (∀ w ∈ width, ds.length ≤ w) ∧ digitsValue ds = n ∧ cs = ds ++ rest := by
  obtain ⟨ds, hrun, hlength, hnumber⟩ : ∃ ds, ds <+: cs.takeWhile Char.isDigit ∧
      (∀ w ∈ width, ds.length ≤ w) ∧
      number width cs = if ds.isEmpty then none else some (digitsValue ds, cs.drop ds.length) := by
    cases width with
    | none => exact ⟨_, List.prefix_rfl, by simp, rfl⟩
    | some w =>
      refine ⟨_, List.take_prefix w _, ?_, rfl⟩
      rintro _ ⟨⟩
      exact List.length_take_le w _
  rw [hnumber] at h
  split at h
  next => simp at h
  next hne =>
    obtain ⟨hvalue, rfl⟩ := Prod.mk.inj (Option.some.inj h)
    refine ⟨ds, ⟨by simpa using hne, fun c hc => ?_⟩, hlength, hvalue, ?_⟩
    · exact List.mem_takeWhile_imp (hrun.subset hc)
    · obtain ⟨after, rfl⟩ := hrun.trans (List.takeWhile_prefix _)
      rw [List.drop_left]

/-- Digits are read as far as they go, if they are not too many. -/
lemma number_digits (width : Option ℕ) (h : IsDigits ds) (hlength : ∀ w ∈ width, ds.length ≤ w)
    (hrest : StartsWithoutDigit rest) :
    number width (ds ++ rest) = some (digitsValue ds, rest) := by
  have hne : ¬ds.isEmpty = true := by simpa using h.ne_nil
  cases width with
  | none => simp only [number, takeWhile_isDigit h hrest, if_neg hne, List.drop_left]
  | some w =>
    simp only [number, takeWhile_isDigit h hrest, List.take_of_length_le (hlength w rfl), if_neg hne,
      List.drop_left]

/-! ### Years, months and days -/

/-- A year as it may be written: behind a sign in any number of digits, else in at most four. -/
inductive IsYear : List Char → ℤ → Prop
  | unsigned {ds : List Char} : IsDigits ds → ds.length ≤ 4 → IsYear ds (digitsValue ds)
  | positive {ds : List Char} : IsDigits ds → IsYear ('+' :: ds) (digitsValue ds)
  | negative {ds : List Char} : IsDigits ds → IsYear ('-' :: ds) (-(digitsValue ds : ℤ))

/-- A month or a day as it may be written: in one digit or two. -/
structure IsPart (ds : List Char) (n : ℕ) : Prop where
  isDigits : IsDigits ds
  length_le : ds.length ≤ 2
  value_eq : digitsValue ds = n

lemma IsDigits.isBlank_head (h : IsDigits ds) : ∀ c ∈ ds.head?, isBlank c = false :=
  fun c hc => isBlank_of_isDigit (h.isDigit c (List.mem_of_mem_head? hc))

lemma IsYear.isBlank_head {year : ℤ} (h : IsYear cs year) : ∀ c ∈ cs.head?, isBlank c = false := by
  cases h with
  | unsigned hds => exact hds.isBlank_head
  | positive _ => exact fun c hc => by cases hc; decide
  | negative _ => exact fun c hc => by cases hc; decide

lemma skipBlanks_append (hblanks : AreBlanks blanks) (hcs : ∀ c ∈ cs.head?, isBlank c = false) :
    skipBlanks (blanks ++ cs) = cs := by
  rw [skipBlanks, List.dropWhile_append_of_pos hblanks, dropWhile_of_head hcs]

lemma takeWhile_append_skipBlanks (cs : List Char) : cs.takeWhile isBlank ++ skipBlanks cs = cs :=
  List.takeWhile_append_dropWhile

lemma exists_year_of_yearPart {year : ℤ} (h : yearPart cs = some (year, rest)) :
    ∃ blanks ys, AreBlanks blanks ∧ IsYear ys year ∧ cs = blanks ++ (ys ++ rest) := by
  suffices ∃ ys, IsYear ys year ∧ skipBlanks cs = ys ++ rest by
    obtain ⟨ys, hys, hcs⟩ := this
    refine ⟨_, ys, areBlanks_takeWhile cs, hys, ?_⟩
    rw [← hcs, takeWhile_append_skipBlanks]
  unfold yearPart at h
  split at h
  next after hminus =>
    obtain ⟨⟨n, _⟩, hn, heq⟩ := Option.map_eq_some_iff.mp h
    obtain ⟨rfl, rfl⟩ := Prod.mk.inj heq
    obtain ⟨ds, hds, -, rfl, rfl⟩ := exists_digits_of_number hn
    exact ⟨_, .negative hds, hminus⟩
  next after hplus =>
    obtain ⟨⟨n, _⟩, hn, heq⟩ := Option.map_eq_some_iff.mp h
    obtain ⟨rfl, rfl⟩ := Prod.mk.inj heq
    obtain ⟨ds, hds, -, rfl, rfl⟩ := exists_digits_of_number hn
    exact ⟨_, .positive hds, hplus⟩
  next =>
    obtain ⟨⟨n, _⟩, hn, heq⟩ := Option.map_eq_some_iff.mp h
    obtain ⟨rfl, rfl⟩ := Prod.mk.inj heq
    obtain ⟨ds, hds, hlength, rfl, hcs⟩ := exists_digits_of_number hn
    exact ⟨ds, .unsigned hds (hlength 4 rfl), hcs⟩

lemma IsYear.ne_nil {year : ℤ} (h : IsYear cs year) : cs ≠ [] := by
  cases h with
  | unsigned hds => exact hds.ne_nil
  | positive _ => simp
  | negative _ => simp

lemma yearPart_year {ys : List Char} {year : ℤ} (hblanks : AreBlanks blanks) (h : IsYear ys year)
    (hrest : StartsWithoutDigit rest) :
    yearPart (blanks ++ (ys ++ rest)) = some (year, rest) := by
  have hhead : ∀ c ∈ (ys ++ rest).head?, isBlank c = false := by
    obtain ⟨c, ys, rfl⟩ := List.exists_cons_of_ne_nil h.ne_nil
    exact h.isBlank_head
  unfold yearPart
  rw [skipBlanks_append hblanks hhead]
  cases h with
  | unsigned hds hlength =>
    have hnumber := number_digits (some 4) hds (by simpa using hlength) hrest
    -- a digit is no sign
    have hsign : ∀ c after, ys ++ rest = c :: after → c.isDigit = true := by
      obtain ⟨d, ds, rfl⟩ := List.exists_cons_of_ne_nil hds.ne_nil
      rintro c after ⟨⟩
      exact hds.isDigit d List.mem_cons_self
    split
    next heq => exact absurd (hsign _ _ heq) (by decide)
    next heq => exact absurd (hsign _ _ heq) (by decide)
    next => rw [hnumber, Option.map_some]
  | positive hds =>
    rw [List.cons_append]
    simp only [number_digits none hds (by simp) hrest, Option.map_some]
  | negative hds =>
    rw [List.cons_append]
    simp only [number_digits none hds (by simp) hrest, Option.map_some]

lemma exists_part_of_nextPart (h : nextPart cs = some (n, rest)) :
    ∃ blanks ds, AreBlanks blanks ∧ IsPart ds n ∧ cs = '-' :: (blanks ++ (ds ++ rest)) := by
  unfold nextPart at h
  split at h
  next after =>
    obtain ⟨ds, hds, hlength, hvalue, hafter⟩ := exists_digits_of_number h
    refine ⟨_, ds, areBlanks_takeWhile after, ⟨hds, hlength 2 rfl, hvalue⟩, ?_⟩
    rw [← hafter, takeWhile_append_skipBlanks]
  next => simp at h

lemma nextPart_part (hblanks : AreBlanks blanks) (h : IsPart ds n)
    (hrest : StartsWithoutDigit rest) :
    nextPart ('-' :: (blanks ++ (ds ++ rest))) = some (n, rest) := by
  have hhead : ∀ c ∈ (ds ++ rest).head?, isBlank c = false := by
    obtain ⟨c, ds, rfl⟩ := List.exists_cons_of_ne_nil h.isDigits.ne_nil
    exact h.isDigits.isBlank_head
  rw [nextPart, skipBlanks_append hblanks hhead,
    number_digits (some 2) h.isDigits (by simpa using h.length_le) hrest, h.value_eq]

/-! ### Dates -/

/-- What a text says about a date: its year, month and day stand there, with hyphens between them
and blanks in front of each and at the end, and there is such a day. -/
inductive Denotes (text : String) (d : Date) : Prop
  | intro (front year middle month between day back : List Char)
      (text_eq : text.toList =
        front ++ (year ++ '-' :: (middle ++ (month ++ '-' :: (between ++ (day ++ back))))))
      (front_blank : AreBlanks front) (middle_blank : AreBlanks middle)
      (between_blank : AreBlanks between) (back_blank : AreBlanks back)
      (isYear : IsYear year d.year) (isMonth : IsPart month d.month) (isDay : IsPart day d.day)
      (isValid : d.isValid = true)

lemma denotes_of_read? (h : read? text = some d) : Denotes text d := by
  simp only [read?, Option.bind_eq_bind, Option.bind_eq_some_iff] at h
  obtain ⟨⟨year, afterYear⟩, hyear, ⟨month, afterMonth⟩, hmonth, ⟨day, afterDay⟩, hday, h⟩ := h
  obtain ⟨front, back, hfront, hback, htext⟩ := exists_blanks_around text.toList
  obtain ⟨front', ys, hfront', hys, htrimmed⟩ := exists_year_of_yearPart hyear
  obtain ⟨middle, ms, hmiddle, hms, rfl⟩ := exists_part_of_nextPart hmonth
  obtain ⟨between, ds, hbetween, hds, rfl⟩ := exists_part_of_nextPart hday
  split at h
  next hend =>
    rw [Bool.and_eq_true, List.isEmpty_iff] at hend
    obtain ⟨rfl, hvalid⟩ := hend
    obtain rfl := Option.some.inj h
    refine .intro (front ++ front') ys middle ms between ds back ?_ (hfront.append hfront') hmiddle
      hbetween hback hys hms hds hvalid
    rw [htext, htrimmed]
    simp only [List.append_assoc, List.cons_append, List.nil_append]
  next => simp at h

lemma read?_of_denotes (h : Denotes text d) : read? text = some d := by
  obtain ⟨front, year, middle, month, between, day, back, htext, hfront, hmiddle, hbetween, hback,
    hyear, hmonth, hday, hvalid⟩ := h
  let core := year ++ '-' :: (middle ++ (month ++ '-' :: (between ++ (day ++ []))))
  have htrimmed : trimChars text.toList = core := by
    have hcore : text.toList = front ++ (core ++ back) := by
      simp only [core, htext, List.append_assoc, List.cons_append, List.nil_append]
    rw [hcore]
    refine trimChars_around hfront hback ?_ ?_
    · obtain ⟨c, year, rfl⟩ := List.exists_cons_of_ne_nil hyear.ne_nil
      exact hyear.isBlank_head
    · obtain ⟨day, c, rfl⟩ := (List.eq_nil_or_concat day).resolve_left hday.isDigits.ne_nil
      have hlast : core.getLast? = some c := by
        simp [core, List.getLast?_append, List.getLast?_cons]
      rintro _ hc
      obtain rfl := Option.some.inj (hlast.symm.trans hc)
      exact isBlank_of_isDigit (hday.isDigits.isDigit c (by simp))
  have hhyphen : ∀ cs, StartsWithoutDigit ('-' :: cs) := startsWithoutDigit_cons (by decide)
  have hafterYear := yearPart_year areBlanks_nil hyear
    (hhyphen (middle ++ (month ++ '-' :: (between ++ (day ++ [])))))
  have hafterMonth := nextPart_part hmiddle hmonth (hhyphen (between ++ (day ++ [])))
  have hafterDay := nextPart_part hbetween hday startsWithoutDigit_nil
  rw [List.nil_append] at hafterYear
  simp only [read?, htrimmed, core, hafterYear, hafterMonth, hafterDay, Option.bind_eq_bind,
    Option.bind_some, List.isEmpty_nil, hvalid, Bool.and_self, if_true]
  rfl

/-- The reader finds what a text says. -/
lemma read?_eq_some_iff : read? text = some d ↔ Denotes text d :=
  ⟨denotes_of_read?, read?_of_denotes⟩

lemma Denotes.unique (h : Denotes text d) (h' : Denotes text d') : d = d' :=
  Option.some.inj ((read?_of_denotes h).symm.trans (read?_of_denotes h'))

/-! ### Printed dates -/

lemma isDigits_padded (width n : ℕ) : IsDigits (padded width n) where
  ne_nil := by simp [padded, Nat.toDigits_ne_nil]
  isDigit := by
    intro c hc
    rcases List.mem_append.mp hc with hc | hc
    · rw [List.eq_of_mem_replicate hc]
      decide
    · exact Nat.isDigit_of_mem_toDigits (by decide) (by decide) hc

lemma digitsValue_padded (width n : ℕ) : digitsValue (padded width n) = n := by
  rw [digitsValue_eq, padded, Nat.ofDigitChars_append, Nat.ofDigitChars_replicate_zero, Nat.mul_zero,
    Nat.ofDigitChars_ten_toDigits]

lemma length_padded_le {width : ℕ} (hwidth : 0 < width) (h : n < 10 ^ width) :
    (padded width n).length ≤ width := by
  have hlength := (Nat.length_toDigits_le_iff (by decide) hwidth).mpr h
  simp only [padded, List.length_append, List.length_replicate]
  omega

lemma isYear_printYear (year : ℤ) : IsYear (printYear year) year := by
  have hdigits := isDigits_padded 4 year.natAbs
  have hvalue := digitsValue_padded 4 year.natAbs
  unfold printYear
  split
  next hrange =>
    have hyear : (digitsValue (padded 4 year.natAbs) : ℤ) = year := by
      grind
    have hlength : (padded 4 year.natAbs).length ≤ 4 := length_padded_le (by decide) (by grind)
    simpa only [hyear] using IsYear.unsigned hdigits hlength
  next =>
    split
    next hneg =>
      have hyear : -(digitsValue (padded 4 year.natAbs) : ℤ) = year := by grind
      simpa only [hyear] using IsYear.negative hdigits
    next hnonneg =>
      have hyear : (digitsValue (padded 4 year.natAbs) : ℤ) = year := by grind
      simpa only [hyear] using IsYear.positive hdigits

lemma isPart_padded (h : n < 100) : IsPart (padded 2 n) n where
  isDigits := isDigits_padded 2 n
  length_le := length_padded_le (by decide) h
  value_eq := digitsValue_padded 2 n

/-- There are twelve months, and none has more than 31 days. -/
lemma monthLength_le (year : ℤ) (month : ℕ) :
    monthLength year month ≤ 31 ∧ (12 < month → monthLength year month = 0) := by
  have hlengths : ∀ leap, ∀ length ∈ monthLengths leap, length ≤ 31 := by decide
  have hcount : (monthLengths (isLeap year)).length = 12 := rfl
  unfold monthLength
  split
  next => omega
  next =>
    rw [List.getD_eq_getElem?_getD]
    cases hlength : (monthLengths (isLeap year))[month - 1]? with
    | none => exact ⟨by decide, fun _ => rfl⟩
    | some length =>
      refine ⟨hlengths _ _ (List.mem_of_getElem? hlength), fun hmonth => ?_⟩
      obtain ⟨hlt, -⟩ := List.getElem?_eq_some_iff.mp hlength
      omega

lemma month_le_of_isValid (h : d.isValid = true) : d.month ≤ 12 ∧ d.day ≤ 31 := by
  obtain ⟨hmonth, hnone⟩ := monthLength_le d.year d.month
  simp only [isValid, Bool.and_eq_true, decide_eq_true_eq] at h
  omega

/-- A date that is printed is what the text says. -/
lemma denotes_print (h : d.isValid = true) : Denotes d.print d := by
  obtain ⟨hmonth, hday⟩ := month_le_of_isValid h
  refine .intro [] (printYear d.year) [] (padded 2 d.month) [] (padded 2 d.day) [] ?_ areBlanks_nil
    areBlanks_nil areBlanks_nil areBlanks_nil (isYear_printYear d.year) (isPart_padded (by omega))
    (isPart_padded (by omega)) h
  simp [print]

end SemanticQuery.Calendar.Date
