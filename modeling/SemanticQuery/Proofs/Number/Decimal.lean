import Mathlib.Tactic.Common
import SemanticQuery.Number.Word

/-!
# Decimal numbers

An integer is written with its decimal digits, behind a minus if it is negative. What is written
of a signed word is read as that word again.
-/

namespace SemanticQuery.Number

lemma digits_toString (n : Nat) :
    (toString n).toList ≠ [] ∧ ∀ c ∈ (toString n).toList, c.isDigit = true := by
  rw [Nat.toString_eq_repr, Nat.toList_repr]
  exact ⟨Nat.toDigits_ne_nil, fun c hc => Nat.isDigit_of_mem_toDigits (by decide) (by decide) hc⟩

lemma toList_toString_negSucc (n : Nat) :
    (toString (Int.negSucc n)).toList = '-' :: (toString (n + 1)).toList :=
  String.toList_append

/-- Digits and a minus are all that stands in a number. -/
lemma isDigit_or_of_mem_toString {c : Char} {i : Int} (h : c ∈ (toString i).toList) :
    c.isDigit = true ∨ c = '-' := by
  cases i with
  | ofNat n => exact .inl ((digits_toString n).2 c h)
  | negSucc n =>
    rw [toList_toString_negSucc] at h
    rcases List.mem_cons.mp h with h | h
    · exact .inr h
    · exact .inl ((digits_toString (n + 1)).2 c h)

lemma not_mem_toString {a : Char} (i : Int) (hdigit : a.isDigit = false) (hminus : a ≠ '-') :
    a ∉ (toString i).toList := by
  intro h
  rcases isDigit_or_of_mem_toString h with h | h
  · simp [h] at hdigit
  · exact hminus h

lemma toString_ne_nil (i : Int) : (toString i).toList ≠ [] := by
  cases i with
  | ofNat n => exact (digits_toString n).1
  | negSucc n =>
    rw [toList_toString_negSucc]
    exact List.cons_ne_nil _ _

/-! ### Reading -/

lemma foldl_digits_eq (ds : List Char) :
    ds.foldl (fun n c => n * 10 + (c.toNat - '0'.toNat)) 0 = Nat.ofDigitChars 10 ds 0 := by
  simp only [Nat.ofDigitChars_eq_foldl, Nat.mul_comm]

lemma digitsValue?_toString (n : Nat) : digitsValue? (toString n).toList = some n := by
  obtain ⟨hne, hdigits⟩ := digits_toString n
  have hall : (!(toString n).toList.isEmpty && (toString n).toList.all Char.isDigit) = true := by
    rw [Bool.and_eq_true, List.all_eq_true, Bool.not_eq_true', List.isEmpty_eq_false_iff]
    exact ⟨hne, hdigits⟩
  rw [digitsValue?, if_pos hall, foldl_digits_eq, Nat.toString_eq_repr, Nat.toList_repr,
    Nat.ofDigitChars_ten_toDigits]

lemma readInteger_of_digits {cs : List Char} (h : ∀ c ∈ cs, c.isDigit = true) :
    readInteger cs = ((digitsValue? cs).bind (below signBound)).map fun n => (n : Int) := by
  match cs with
  | [] => rfl
  | c :: cs =>
    have hc : c.isDigit = true := h c List.mem_cons_self
    unfold readInteger
    split
    next heq =>
      obtain ⟨rfl, -⟩ := List.cons.inj heq
      simp at hc
    next heq =>
      obtain ⟨rfl, -⟩ := List.cons.inj heq
      simp at hc
    next => rfl

/-- A signed word is read from what is written of it. -/
theorem readInteger_toString (i : Int64) : readInteger (toString i.toInt).toList = some i.toInt := by
  have hlower := i.le_toInt
  have hupper := i.toInt_lt
  cases hi : i.toInt with
  | ofNat n =>
    have hn : n < signBound := by
      rw [hi, Int.ofNat_eq_natCast] at hupper
      simp only [signBound]
      omega
    change readInteger (toString n).toList = _
    rw [readInteger_of_digits (digits_toString n).2, digitsValue?_toString, Option.bind_some, below,
      if_pos hn]
    rfl
  | negSucc n =>
    have hn : n + 1 < signBound + 1 := by
      rw [hi] at hlower
      simp only [signBound]
      omega
    rw [toList_toString_negSucc, readInteger, digitsValue?_toString, Option.bind_some, below,
      if_pos hn]
    rfl

end SemanticQuery.Number
