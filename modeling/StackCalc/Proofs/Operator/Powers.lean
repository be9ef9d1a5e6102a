import Mathlib.Algebra.Order.Field.Power
import Mathlib.Algebra.Order.Ring.Abs
import Mathlib.Algebra.Ring.Int.Parity
import Mathlib.Data.Rat.Floor
import Mathlib.Tactic.Linarith
import Mathlib.Tactic.NormNum
import StackCalc.Operator

/-!
# StackCalc.Proofs.Operator.Powers — powers are exact up to clamping

The power of a base is a rational number: it is an integer where the exponent is not negative, and
the reciprocal of one where it is.  `truncate` cuts a rational off toward zero.

A power with a long exponent is never worked out.  From the exponent 31 on, a base other than 0, 1
and -1 has left the range of the operands, on a side that depends on parity alone, so every
exponent as long and of the same parity gives the same clamped power (`clamp_pow_congr`).  Hence
`exactPower` is the exact power, truncated and clamped (`exactPower_eq`).
-/

namespace StackCalc

/-! ### Truncation toward zero -/

/-- A rational number truncated toward zero. -/
def truncate (q : ℚ) : ℤ := if 0 ≤ q then ⌊q⌋ else ⌈q⌉

@[simp] theorem truncate_intCast (n : ℤ) : truncate n = n := by
  unfold truncate
  split_ifs
  · exact Int.floor_intCast n
  · exact Int.ceil_intCast n

theorem truncate_of_abs_lt_one {q : ℚ} (h : |q| < 1) : truncate q = 0 := by
  rw [abs_lt] at h
  unfold truncate
  split_ifs with hq
  · exact Int.floor_eq_zero_iff.2 ⟨hq, h.2⟩
  · exact Int.ceil_eq_zero_iff.2 ⟨h.1, (not_le.1 hq).le⟩

theorem clamp_truncate_of_le {q : ℚ} (h : 2 ^ 31 ≤ q) : clamp (truncate q) = maxOperand := by
  have hq : (0 : ℚ) ≤ q := le_trans (by norm_num) h
  have hfloor : (2 ^ 31 : ℤ) ≤ ⌊q⌋ := Int.le_floor.2 (by exact_mod_cast h)
  rw [truncate, if_pos hq]
  refine clamp_of_maxOperand_le ?_
  rw [maxOperand]
  omega

theorem clamp_truncate_of_le_neg {q : ℚ} (h : q ≤ -2 ^ 31) : clamp (truncate q) = minOperand := by
  have hq : ¬ (0 : ℚ) ≤ q := not_le.2 (lt_of_le_of_lt h (by norm_num))
  have hceil : ⌈q⌉ ≤ (-2 ^ 31 : ℤ) := Int.ceil_le.2 (by exact_mod_cast h)
  rw [truncate, if_neg hq]
  refine clamp_of_le_minOperand ?_
  rw [minOperand]
  omega

namespace Operator

/-! ### Powers that leave the range -/

theorem two_pow_le_pow {b : ℤ} (hb : 2 ≤ b) {n : ℕ} (hn : 31 ≤ n) : 2 ^ 31 ≤ b ^ n :=
  calc (2 : ℤ) ^ 31 ≤ 2 ^ n := pow_le_pow_right₀ (by norm_num) hn
    _ ≤ b ^ n := pow_le_pow_left₀ (by norm_num) hb n

theorem clamp_pow_of_two_le {b : ℤ} (hb : 2 ≤ b) {n : ℕ} (hn : 31 ≤ n) :
    clamp (b ^ n) = maxOperand := by
  have hpow := two_pow_le_pow hb hn
  refine clamp_of_maxOperand_le ?_
  rw [maxOperand]
  omega

theorem clamp_pow_of_le_neg_two {b : ℤ} (hb : b ≤ -2) {n : ℕ} (hn : 31 ≤ n) :
    clamp (b ^ n) = if Even n then maxOperand else minOperand := by
  have hpow := two_pow_le_pow (b := -b) (by omega) hn
  split_ifs with heven
  · rw [heven.neg_pow] at hpow
    refine clamp_of_maxOperand_le ?_
    rw [maxOperand]
    omega
  · rw [(Nat.not_even_iff_odd.1 heven).neg_pow] at hpow
    refine clamp_of_le_minOperand ?_
    rw [minOperand]
    omega

/-- **Long exponents of the same parity give the same clamped power**, whatever the base. -/
theorem clamp_pow_congr (b : ℤ) {m n : ℕ} (hm : 31 ≤ m) (hn : 31 ≤ n) (h : Even m ↔ Even n) :
    clamp (b ^ m) = clamp (b ^ n) := by
  rcases le_or_gt 2 b with hb | hb
  · rw [clamp_pow_of_two_le hb hm, clamp_pow_of_two_le hb hn]
  rcases le_or_gt b (-2) with hb' | hb'
  · rw [clamp_pow_of_le_neg_two hb' hm, clamp_pow_of_le_neg_two hb' hn]
    simp only [h]
  obtain rfl | rfl | rfl : b = -1 ∨ b = 0 ∨ b = 1 := by omega
  · rw [neg_one_pow_eq_ite, neg_one_pow_eq_ite]
    simp only [h]
  · rw [zero_pow (by omega), zero_pow (by omega)]
  · rw [one_pow, one_pow]

/-! ### Short exponents -/

theorem even_shortExponent (n : ℕ) : Even (shortExponent n) ↔ Even n := by
  rw [shortExponent, Nat.even_iff, Nat.even_iff]
  split_ifs <;> omega

theorem clamp_pow_shortExponent (b : ℤ) (n : ℕ) : clamp (b ^ shortExponent n) = clamp (b ^ n) := by
  by_cases hn : n ≤ 32
  · rw [shortExponent, if_pos hn]
  · refine clamp_pow_congr b ?_ (by omega) (even_shortExponent n)
    rw [shortExponent, if_neg hn]
    omega

/-! ### Powers as rational numbers -/

/-- A base other than 0, 1 and -1 has small reciprocals. -/
theorem abs_zpow_le_half {b e : ℤ} (hb : 2 ≤ |b|) (he : e < 0) : |(b : ℚ) ^ e| ≤ 1 / 2 := by
  have hbase : (2 : ℚ) ≤ |(b : ℚ)| := by exact_mod_cast hb
  calc |(b : ℚ) ^ e| = |(b : ℚ)| ^ e := abs_zpow _ _
    _ ≤ |(b : ℚ)| ^ (-1 : ℤ) := zpow_le_zpow_right₀ (by linarith) (by omega)
    _ = 1 / |(b : ℚ)| := by rw [zpow_neg_one, one_div]
    _ ≤ 1 / 2 := one_div_le_one_div_of_le (by norm_num) hbase

/-- **A power is an integer or at most one half**, wherever it exists. -/
theorem zpow_cases {b e : ℤ} (h : b ≠ 0 ∨ 0 ≤ e) :
    (b : ℚ) ^ e = (b ^ e.natAbs : ℤ) ∧ (0 ≤ e ∨ b = 1 ∨ b = -1) ∨
      e < 0 ∧ 2 ≤ |b| ∧ |(b : ℚ) ^ e| ≤ 1 / 2 := by
  rcases le_or_gt 0 e with he | he
  · refine .inl ⟨?_, .inl he⟩
    obtain ⟨n, rfl⟩ := Int.eq_ofNat_of_zero_le he
    rw [zpow_natCast, Int.natAbs_natCast, Int.cast_pow]
  by_cases hb : 2 ≤ |b|
  · exact .inr ⟨he, hb, abs_zpow_le_half hb he⟩
  have hne : b ≠ 0 := h.resolve_right (not_le.2 he)
  have hunit : b = 1 ∨ b = -1 := by
    rw [not_le, abs_lt] at hb
    omega
  refine .inl ⟨?_, .inr hunit⟩
  obtain ⟨n, rfl⟩ : ∃ n : ℕ, e = -n := ⟨e.natAbs, by omega⟩
  rw [zpow_neg, zpow_natCast, Int.natAbs_neg, Int.natAbs_natCast]
  rcases hunit with rfl | rfl
  · norm_num
  · rcases Nat.even_or_odd n with hn | hn
    · simp [hn.neg_one_pow]
    · simp [hn.neg_one_pow]

/-! ### Reciprocals -/

theorem tdiv_one_pow_of_unit {b : ℤ} (hb : b = 1 ∨ b = -1) {m n : ℕ} (h : Even m ↔ Even n) :
    Int.tdiv 1 (b ^ m) = b ^ n := by
  rcases hb with rfl | rfl
  · simp
  · rw [neg_one_pow_eq_ite, neg_one_pow_eq_ite]
    simp only [h]
    split_ifs <;> rfl

theorem tdiv_one_pow_of_two_le {b : ℤ} (hb : 2 ≤ |b|) {n : ℕ} (hn : n ≠ 0) :
    Int.tdiv 1 (b ^ n) = 0 := by
  rw [Int.abs_eq_natAbs] at hb
  have habs : 1 < (b ^ n).natAbs := by
    rw [Int.natAbs_pow]
    exact Nat.one_lt_pow hn (by omega)
  rw [← Int.natAbs_eq_zero, Int.natAbs_tdiv, Int.natAbs_one]
  exact Nat.div_eq_of_lt habs

/-! ### Exact powers -/

/-- **The power that is worked out is the exact power**, truncated toward zero and clamped. -/
theorem exactPower_eq {b e : ℤ} (h : b ≠ 0 ∨ 0 ≤ e) :
    exactPower b e = clamp (truncate ((b : ℚ) ^ e)) := by
  cases e with
  | ofNat n =>
    have hint : (b : ℚ) ^ Int.ofNat n = (b ^ n : ℤ) := by
      rw [Int.ofNat_eq_natCast, zpow_natCast, Int.cast_pow]
    rw [hint, truncate_intCast]
    exact clamp_pow_shortExponent b n
  | negSucc n =>
    have hne : b ≠ 0 := h.resolve_right (by omega)
    rw [exactPower, if_neg hne]
    rcases zpow_cases h with ⟨hint, hunit⟩ | ⟨-, hb, hsmall⟩
    · replace hunit : b = 1 ∨ b = -1 := hunit.resolve_left (by omega)
      have hpow : InRange (b ^ (n + 1)) := by
        rcases hunit with rfl | rfl
        · rw [one_pow]
          decide
        · rcases neg_one_pow_eq_or ℤ (n + 1) with hone | hone <;> rw [hone] <;> decide
      rw [hint, truncate_intCast, Int.natAbs_negSucc, Nat.succ_eq_add_one, clamp_of_inRange hpow]
      exact tdiv_one_pow_of_unit hunit (even_shortExponent (n + 1))
    · have hshort : shortExponent (n + 1) ≠ 0 := by
        rw [shortExponent]
        split_ifs <;> omega
      have hbelow : |(b : ℚ) ^ Int.negSucc n| < 1 := lt_of_le_of_lt hsmall (by norm_num)
      rw [truncate_of_abs_lt_one hbelow, clamp_of_inRange (by decide)]
      exact tdiv_one_pow_of_two_le hb hshort

end Operator

end StackCalc
