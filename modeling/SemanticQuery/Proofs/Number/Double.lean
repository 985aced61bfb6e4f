import Mathlib.Algebra.Order.Ring.Int
import Mathlib.Tactic.Common
import Mathlib.Tactic.Ring
import SemanticQuery.Number.Double

/-!
# Laws of rounding

A natural number becomes the nearest multiple of the greatest power of two that leaves it 53 bits.
Rounding moves no multiple of that power and keeps the order of numbers, so the comparison of two
rounded numbers follows from that of the numbers.
-/

namespace SemanticQuery.Number.Double

/-! ### Quotients -/

/-- A multiple is not rounded. -/
lemma roundHalfEven_mul (q : Nat) {d : Nat} (hd : 0 < d) : roundHalfEven (q * d) d = q := by
  simp [roundHalfEven, Nat.mul_div_cancel _ hd, hd]

lemma roundHalfEven_cases (a d : Nat) :
    (roundHalfEven a d = a / d ∧ 2 * (a % d) ≤ d) ∨
      (roundHalfEven a d = a / d + 1 ∧ d ≤ 2 * (a % d)) := by
  simp only [roundHalfEven]
  split_ifs
  · exact .inl ⟨rfl, by omega⟩
  · exact .inr ⟨rfl, by omega⟩
  · exact .inl ⟨rfl, by omega⟩
  · exact .inr ⟨rfl, by omega⟩

lemma roundHalfEven_eq_of_half {a d : Nat} (h : 2 * (a % d) = d) :
    roundHalfEven a d = if a / d % 2 == 0 then a / d else a / d + 1 := by
  simp [roundHalfEven, h]

/-- Rounding keeps the order of quotients. -/
lemma roundHalfEven_mono {a b d : Nat} (h : a ≤ b) : roundHalfEven a d ≤ roundHalfEven b d := by
  have hdiv : a / d ≤ b / d := Nat.div_le_div_right h
  rcases roundHalfEven_cases a d with ⟨ha, ha'⟩ | ⟨ha, ha'⟩ <;>
    rcases roundHalfEven_cases b d with ⟨hb, hb'⟩ | ⟨hb, hb'⟩
  · omega
  · omega
  · rcases hdiv.lt_or_eq with hlt | heq
    · omega
    · -- Both stand half-way between the same numbers.
      have hmod : a % d ≤ b % d := by
        have hsplit := Nat.div_add_mod a d
        rw [heq] at hsplit
        have := Nat.div_add_mod b d
        omega
      rw [roundHalfEven_eq_of_half (by omega), roundHalfEven_eq_of_half (by omega), heq]
  · omega

/-! ### Natural numbers -/

lemma log2_lt_of_lt {n k : Nat} (hk : 0 < k) (h : n < 2 ^ k) : n.log2 < k := by
  by_cases hn : n = 0
  · rwa [hn, Nat.log2_zero]
  · exact (Nat.log2_lt hn).mpr h

/-- The number of bits beyond 53 that a number has. -/
def spareBits (n : Nat) : Nat := n.log2 - 52

/-- A natural number, rounded to 53 bits. -/
def rounded (n : Nat) : Nat := roundHalfEven n (2 ^ spareBits n) * 2 ^ spareBits n

lemma rounded_le (n : Nat) : rounded n ≤ 2 ^ (n.log2 + 1) := by
  have hsplit : 2 ^ (n.log2 + 1) = 2 ^ (n.log2 + 1 - spareBits n) * 2 ^ spareBits n := by
    rw [← Nat.pow_add]
    congr 1
    unfold spareBits
    omega
  have hlt : n ≤ 2 ^ (n.log2 + 1) := Nat.lt_log2_self.le
  rw [hsplit] at hlt ⊢
  have hround := roundHalfEven_mono (d := 2 ^ spareBits n) hlt
  rw [roundHalfEven_mul _ (Nat.two_pow_pos _)] at hround
  exact Nat.mul_le_mul_right _ hround

lemma le_rounded {n : Nat} (hn : n ≠ 0) : 2 ^ n.log2 ≤ rounded n := by
  have hsplit : 2 ^ n.log2 = 2 ^ (n.log2 - spareBits n) * 2 ^ spareBits n := by
    rw [← Nat.pow_add]
    congr 1
    unfold spareBits
    omega
  have hle : 2 ^ n.log2 ≤ n := Nat.log2_self_le hn
  rw [hsplit] at hle ⊢
  have hround := roundHalfEven_mono (d := 2 ^ spareBits n) hle
  rw [roundHalfEven_mul _ (Nat.two_pow_pos _)] at hround
  exact Nat.mul_le_mul_right _ hround

/-- Rounding to 53 bits keeps the order. -/
lemma rounded_mono {m n : Nat} (hm : m ≠ 0) (h : m ≤ n) : rounded m ≤ rounded n := by
  have hn : n ≠ 0 := by omega
  have hlog : m.log2 ≤ n.log2 := by
    rw [Nat.le_log2 hn]
    exact (Nat.log2_self_le hm).trans h
  rcases hlog.lt_or_eq with hlt | heq
  · calc rounded m ≤ 2 ^ (m.log2 + 1) := rounded_le m
      _ ≤ 2 ^ n.log2 := Nat.pow_le_pow_right (by decide) hlt
      _ ≤ rounded n := le_rounded hn
  · have hbits : spareBits m = spareBits n := by rw [spareBits, heq, spareBits]
    rw [rounded, hbits]
    exact Nat.mul_le_mul_right _ (roundHalfEven_mono h)

/-! ### The nearest double -/

lemma leastFull_eq : leastFull = 2 ^ 52 := rfl

lemma scaled_one_of_le {n : Nat} (h : 52 ≤ n.log2) :
    scaled n 1 ((n.log2 : Int) - 52) = (n, 2 ^ spareBits n) := by
  have hexp : ((n.log2 : Int) - 52).toNat = spareBits n := by
    unfold spareBits
    omega
  rw [scaled, if_pos (by omega), hexp, Nat.one_mul]
  rfl

lemma scaled_one_of_lt {n : Nat} (h : n.log2 < 52) :
    scaled n 1 ((n.log2 : Int) - 52) = (n * 2 ^ (52 - n.log2), 1) := by
  have hexp : (-((n.log2 : Int) - 52)).toNat = 52 - n.log2 := by omega
  rw [scaled, if_neg (by omega), hexp]
  rfl

lemma ratioExponent_one {n : Nat} (hn : n ≠ 0) : ratioExponent n 1 = (n.log2 : Int) - 52 := by
  have hfull : leastFull ≤ (scaled n 1 ((n.log2 : Int) - 52)).1 /
      (scaled n 1 ((n.log2 : Int) - 52)).2 := by
    rw [leastFull_eq]
    rcases Nat.lt_or_ge n.log2 52 with h | h
    · rw [scaled_one_of_lt h, Nat.div_one]
      calc 2 ^ 52 = 2 ^ n.log2 * 2 ^ (52 - n.log2) := by
            rw [← Nat.pow_add]
            congr 1
            omega
        _ ≤ n * 2 ^ (52 - n.log2) := Nat.mul_le_mul_right _ (Nat.log2_self_le hn)
    · rw [scaled_one_of_le h, Nat.le_div_iff_mul_le (Nat.two_pow_pos _), ← Nat.pow_add]
      have hexp : 52 + spareBits n = n.log2 := by
        unfold spareBits
        omega
      rw [hexp]
      exact Nat.log2_self_le hn
  have hone : Nat.log2 1 = 0 := rfl
  simp only [ratioExponent, hone, Int.ofNat_zero, Int.sub_zero]
  rw [if_neg (by omega)]

/-- One is the power of two with this exponent, in units of the least double. -/
def unitBits : Nat := 1074

/-- A significand of 54 bits is halved, which changes no value. -/
lemma units_carried (m : Nat) {e : Int} (he : minExponent ≤ e) {m' : Nat} {e' : Int}
    (h : (if m == 2 * leastFull then (leastFull, e + 1) else (m, e)) = (m', e')) :
    (Double.mk false m' e').units = (m * 2 ^ (e - minExponent).toNat : Nat) := by
  have hexp : (e + 1 - minExponent).toNat = (e - minExponent).toNat + 1 := by omega
  split at h
  next hm =>
    obtain ⟨rfl, rfl⟩ := Prod.mk.inj h
    obtain rfl : m = 2 * leastFull := by simpa using hm
    simp only [units, Bool.false_eq_true, if_false, Nat.pow_eq, hexp, Nat.pow_succ]
    congr 1
    ring
  next _ =>
    obtain ⟨rfl, rfl⟩ := Prod.mk.inj h
    simp [units]

/-- What a natural number is rounded to, in units of the least double. -/
lemma units_ofNat {n : Nat} (hn : n ≠ 0) (hlt : n.log2 < 1023) :
    (ofNat n).units = (rounded n * 2 ^ unitBits : Nat) := by
  have hexponent : max (ratioExponent n 1) minExponent = (n.log2 : Int) - 52 := by
    rw [ratioExponent_one hn]
    exact max_eq_left (by unfold minExponent; omega)
  have hmin : minExponent ≤ (n.log2 : Int) - 52 := by
    unfold minExponent
    omega
  have hvalue : roundHalfEven (scaled n 1 ((n.log2 : Int) - 52)).1
      (scaled n 1 ((n.log2 : Int) - 52)).2 * 2 ^ ((n.log2 : Int) - 52 - minExponent).toNat =
        rounded n * 2 ^ unitBits := by
    rcases Nat.lt_or_ge n.log2 52 with h | h
    · have hbits : spareBits n = 0 := by
        unfold spareBits
        omega
      have hone : ∀ k, roundHalfEven k 1 = k := fun k => by
        simpa using roundHalfEven_mul k Nat.one_pos
      have hexp : 52 - n.log2 + ((n.log2 : Int) - 52 - minExponent).toNat = unitBits := by
        unfold minExponent unitBits
        omega
      rw [scaled_one_of_lt h, rounded, hbits, hone, Nat.mul_assoc, ← Nat.pow_add, hexp,
        Nat.pow_zero, hone, Nat.mul_one]
    · have hexp : ((n.log2 : Int) - 52 - minExponent).toNat = spareBits n + unitBits := by
        unfold minExponent spareBits unitBits
        omega
      rw [scaled_one_of_le h, rounded, hexp, Nat.pow_add, Nat.mul_assoc]
  generalize hm : roundHalfEven (scaled n 1 ((n.log2 : Int) - 52)).1
    (scaled n 1 ((n.log2 : Int) - 52)).2 = m at hvalue
  generalize hcarried : (if m == 2 * leastFull then (leastFull, (n.log2 : Int) - 52 + 1)
    else (m, (n.log2 : Int) - 52)) = carried
  have hle : carried.2 ≤ maxExponent := by
    rw [← hcarried]
    unfold maxExponent
    split <;> dsimp only <;> omega
  have hofNat : ofNat n = ⟨false, carried.1, carried.2⟩ := by
    have hzero : (n == 0) = false := by simpa using hn
    simp only [ofNat, ofRatio, hzero, hexponent, hm, hcarried, Bool.false_eq_true, if_false]
    rw [if_pos hle, Option.getD_some]
  rw [hofNat, units_carried m hmin hcarried, hvalue]

lemma rounded_eq_self {n : Nat} (h : n ≤ 2 ^ 53) : rounded n = n := by
  rcases h.lt_or_eq with hlt | rfl
  · have hbits : spareBits n = 0 := by
      have hlog := log2_lt_of_lt (by decide) hlt
      unfold spareBits
      omega
    have hround := roundHalfEven_mul n Nat.one_pos
    rw [Nat.mul_one] at hround
    rw [rounded, hbits, Nat.pow_zero, hround, Nat.mul_one]
  · decide

/-- Numbers compare as doubles like what they are rounded to, as long as they are not as long as the
greatest double. -/
lemma ofNat_le_ofNat_iff {m n : Nat} (hm : m.log2 < 1023) (hn : n.log2 < 1023) :
    (ofNat m).le (ofNat n) = true ↔ rounded m ≤ rounded n := by
  have hunits : ∀ k : Nat, k.log2 < 1023 → (ofNat k).units = (rounded k * 2 ^ unitBits : Nat) := by
    intro k hk
    rcases Nat.eq_zero_or_pos k with rfl | hpos
    · rw [rounded_eq_self (Nat.zero_le _), Nat.zero_mul]
      rfl
    · exact units_ofNat (by omega) hk
  rw [le, decide_eq_true_eq, hunits m hm, hunits n hn, Int.ofNat_le]
  exact Nat.mul_le_mul_right_iff (Nat.two_pow_pos _)

/-- Lengths keep their order as doubles, whatever is rounded, as long as they are not as long as the
greatest double. -/
theorem ofNat_le_ofNat {m n : Nat} (h : m ≤ n) (hn : n.log2 < 1023) :
    (ofNat m).le (ofNat n) = true := by
  rcases Nat.eq_zero_or_pos m with rfl | hpos
  · rw [ofNat_le_ofNat_iff (by decide) hn, rounded_eq_self (Nat.zero_le _)]
    exact Nat.zero_le _
  · have hlog : m.log2 ≤ n.log2 := by
      rw [Nat.le_log2 (by omega)]
      exact (Nat.log2_self_le (by omega)).trans h
    exact (ofNat_le_ofNat_iff (by omega) hn).mpr (rounded_mono (by omega) h)

/-- A number of at most 53 bits is not rounded, so no lesser number is compared as if it were not
less. -/
lemma ofNat_le_ofNat_iff_of_le {m n : Nat} (hm : m ≤ 2 ^ 53) (hn : n.log2 < 1023) :
    (ofNat m).le (ofNat n) = true ↔ m ≤ n := by
  refine ⟨fun h => ?_, fun h => ofNat_le_ofNat h hn⟩
  by_contra hlt
  have hlog : m.log2 < 54 := log2_lt_of_lt (by decide) (by omega)
  rw [ofNat_le_ofNat_iff (by omega) hn, rounded_eq_self hm, rounded_eq_self (by omega)] at h
  exact hlt h

end SemanticQuery.Number.Double
