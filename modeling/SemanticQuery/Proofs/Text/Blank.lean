import Mathlib.Data.List.TakeWhile
import SemanticQuery.Text.Blank

/-!
# Blanks around a text

Trimming takes blanks from both ends of a text and nothing else: what begins and ends with other
characters is what is left of it, whatever blanks stand around it.
-/

namespace SemanticQuery.Text

variable {before cs after : List Char}

/-- Nothing but blanks. -/
def AreBlanks (cs : List Char) : Prop := ∀ c ∈ cs, isBlank c = true

lemma areBlanks_nil : AreBlanks [] := by
  intro c hc
  exact absurd hc List.not_mem_nil

lemma areBlanks_takeWhile (cs : List Char) : AreBlanks (cs.takeWhile isBlank) :=
  fun _ hc => List.mem_takeWhile_imp hc

lemma AreBlanks.append (hbefore : AreBlanks before) (hafter : AreBlanks after) :
    AreBlanks (before ++ after) := by
  intro c hc
  rcases List.mem_append.mp hc with hc | hc
  · exact hbefore c hc
  · exact hafter c hc

lemma AreBlanks.reverse (h : AreBlanks cs) : AreBlanks cs.reverse :=
  fun c hc => h c (List.mem_reverse.mp hc)

lemma dropWhile_of_head (h : ∀ c ∈ cs.head?, isBlank c = false) : cs.dropWhile isBlank = cs := by
  cases cs with
  | nil => rfl
  | cons c cs => rw [List.dropWhile_cons_of_neg (by simp [h c rfl])]

lemma trimChars_cons {c : Char} (h : isBlank c = false) (cs : List Char) :
    ∃ rest, trimChars (c :: cs) = c :: rest := by
  refine ⟨(cs.reverse.dropWhile isBlank).reverse, ?_⟩
  have hend : (cs.reverse ++ [c]).dropWhile isBlank = cs.reverse.dropWhile isBlank ++ [c] := by
    rw [List.dropWhile_append]
    split <;> simp_all
  simp [trimChars, h, hend]

/-- Trimming takes away blanks. -/
lemma exists_blanks_around (cs : List Char) :
    ∃ before after, AreBlanks before ∧ AreBlanks after ∧ cs = before ++ (trimChars cs ++ after) := by
  let rest := cs.dropWhile isBlank
  refine ⟨cs.takeWhile isBlank, (rest.reverse.takeWhile isBlank).reverse, areBlanks_takeWhile cs,
    (areBlanks_takeWhile rest.reverse).reverse, ?_⟩
  have hrest : trimChars cs ++ (rest.reverse.takeWhile isBlank).reverse = rest := by
    rw [trimChars, ← List.reverse_append, List.takeWhile_append_dropWhile, List.reverse_reverse]
  rw [hrest, List.takeWhile_append_dropWhile]

/-- What begins and ends with other characters is left of a text with blanks around it. -/
lemma trimChars_around (hbefore : AreBlanks before) (hafter : AreBlanks after)
    (hhead : ∀ c ∈ cs.head?, isBlank c = false) (hlast : ∀ c ∈ cs.getLast?, isBlank c = false) :
    trimChars (before ++ (cs ++ after)) = cs := by
  rw [trimChars, List.dropWhile_append_of_pos hbefore]
  cases cs with
  | nil =>
    have hnil : after.dropWhile isBlank = [] := List.dropWhile_eq_nil_iff.mpr hafter
    rw [List.nil_append, hnil]
    rfl
  | cons c cs =>
    have hfront : (c :: cs ++ after).dropWhile isBlank = c :: cs ++ after :=
      dropWhile_of_head (by simpa using hhead)
    have hback : (c :: cs).reverse.dropWhile isBlank = (c :: cs).reverse :=
      dropWhile_of_head (by rwa [List.head?_reverse])
    rw [hfront, List.reverse_append, List.dropWhile_append_of_pos hafter.reverse, hback,
      List.reverse_reverse]

end SemanticQuery.Text
