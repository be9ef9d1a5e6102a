import StackCalc.Proofs.Operator.FloatingPower

/-!
# StackCalc.Proofs.Operator.Products — products that are clamped at every step

A clamped product may be clamped again once it is multiplied further: what has left the range stays
outside of it, on a side that the signs of the factors alone decide (`clamp_clamp_mul`).  The one
factor that brings a product back is -1, and it takes the largest operand to one that is not the
smallest.  No power of -1 leaves the range, however, so powers that are multiplied up one factor at
a time, and clamped each time, come to the clamped power (`evalRepeatedly_multiply`), which is what
the operator for powers gives, and what a power function on binary64 numbers gives too
(`eval_power_eq_products`).
-/

namespace StackCalc

/-! ## Clamping before the last factor -/

section Outside

variable {m b : ℤ}

theorem clamp_mul_of_maxOperand_le (hm : maxOperand ≤ m) (hb : 1 ≤ b) :
    clamp (m * b) = maxOperand := by
  have hpos : 0 ≤ m := le_trans (by decide) hm
  refine clamp_of_maxOperand_le ?_
  calc maxOperand ≤ m := hm
    _ ≤ m * b := le_mul_of_one_le_right hpos hb

theorem clamp_mul_of_le_minOperand (hm : m ≤ minOperand) (hb : 1 ≤ b) :
    clamp (m * b) = minOperand := by
  have hneg : m ≤ 0 := le_trans hm (by decide)
  refine clamp_of_le_minOperand ?_
  calc m * b ≤ m := mul_le_of_one_le_right hneg hb
    _ ≤ minOperand := hm

/-- Twice the largest operand is beyond the smallest one on the other side. -/
theorem clamp_mul_of_maxOperand_le_of_neg (hm : maxOperand ≤ m) (hb : b ≤ -2) :
    clamp (m * b) = minOperand := by
  have hpos : 0 ≤ m := le_trans (by decide) hm
  refine clamp_of_le_minOperand ?_
  calc m * b ≤ m * -2 := mul_le_mul_of_nonneg_left hb hpos
    _ ≤ minOperand := by
      unfold maxOperand at hm
      unfold minOperand
      omega

theorem clamp_mul_of_le_minOperand_of_neg (hm : m ≤ minOperand) (hb : b ≤ -1) :
    clamp (m * b) = maxOperand := by
  have hneg : m ≤ 0 := le_trans hm (by decide)
  refine clamp_of_maxOperand_le ?_
  calc maxOperand ≤ m * -1 := by
        unfold minOperand at hm
        unfold maxOperand
        omega
    _ ≤ m * b := mul_le_mul_of_nonpos_left hb hneg

/-- **Clamping before the last factor changes nothing**, unless that factor is -1 and takes back
what is too large. -/
theorem clamp_clamp_mul (h : m ≤ maxOperand ∨ b ≠ -1) : clamp (clamp m * b) = clamp (m * b) := by
  rcases le_or_gt m minOperand with hmin | hmin
  · rw [clamp_of_le_minOperand hmin]
    obtain hb | rfl | hb : b ≤ -1 ∨ b = 0 ∨ 1 ≤ b := by omega
    · rw [clamp_mul_of_le_minOperand_of_neg le_rfl hb, clamp_mul_of_le_minOperand_of_neg hmin hb]
    · rw [mul_zero, mul_zero]
    · rw [clamp_mul_of_le_minOperand le_rfl hb, clamp_mul_of_le_minOperand hmin hb]
  rcases le_or_gt m maxOperand with hmax | hmax
  · rw [clamp_of_inRange ⟨hmin.le, hmax⟩]
  · have hne : b ≠ -1 := h.resolve_left (not_le.2 hmax)
    rw [clamp_of_maxOperand_le hmax.le]
    obtain hb | rfl | hb : b ≤ -2 ∨ b = 0 ∨ 1 ≤ b := by omega
    · rw [clamp_mul_of_maxOperand_le_of_neg le_rfl hb,
        clamp_mul_of_maxOperand_le_of_neg hmax.le hb]
    · rw [mul_zero, mul_zero]
    · rw [clamp_mul_of_maxOperand_le le_rfl hb, clamp_mul_of_maxOperand_le hmax.le hb]

end Outside

/-! ## One factor after the other -/

namespace Operator

/-- An operator applied `n` times over, each time to what came of it and the same right operand. -/
def evalRepeatedly (op : Operator) (right : ℤ) : ℕ → ℤ → Except Fault ℤ
  | 0, left => .ok left
  | n + 1, left => op.eval left right >>= evalRepeatedly op right n

theorem clamp_pow_mul (b : ℤ) (n : ℕ) : clamp (clamp (b ^ n) * b) = clamp (b ^ (n + 1)) := by
  rw [pow_succ]
  refine clamp_clamp_mul ?_
  by_cases hb : b = -1
  · left
    rcases neg_one_pow_eq_or ℤ n with hone | hone <;> rw [hb, hone] <;> decide
  · exact .inr hb

/-- **Factors multiplied one at a time come to the clamped power.** -/
theorem evalRepeatedly_multiply (b : ℤ) (k n : ℕ) :
    multiply.evalRepeatedly b n (clamp (b ^ k)) = .ok (clamp (b ^ (k + n))) := by
  induction n generalizing k with
  | zero => rfl
  | succ n ih =>
    have hstep : multiply.eval (clamp (b ^ k)) b = .ok (clamp (b ^ (k + 1))) := by
      rw [eval, clamp_pow_mul]
    rw [evalRepeatedly, hstep]
    show multiply.evalRepeatedly b n (clamp (b ^ (k + 1))) = _
    rw [ih, Nat.add_right_comm, Nat.add_assoc]

theorem exactPower_natCast (b : ℤ) (n : ℕ) : exactPower b n = clamp (b ^ n) :=
  clamp_pow_shortExponent b n

end Operator

/-! ## Powers of operands -/

namespace Binary64

/-- What may be relied on in a power function where no exponent is negative: powers below `2 ^ 53`
are exact, and longer ones stay large and on their side, or overflow. -/
structure PowerFunction.ExactOrLarge (pow : PowerFunction) : Prop where
  exact : ∀ {b : ℤ} {n : ℕ}, InRange b → InRange n → |b ^ n| < 2 ^ 53 →
    pow b n = .ok (.finite (b ^ n : ℤ))
  large : ∀ {b : ℤ} {n : ℕ}, InRange b → InRange n → 2 ^ 53 ≤ |b ^ n| →
    pow b n = .error .overflow ∨ ∃ x, pow b n = .ok x ∧ x.IsLarge (b ^ n < 0)

theorem PowerFunction.Faithful.exactOrLarge {pow : PowerFunction} (hpow : pow.Faithful) :
    pow.ExactOrLarge where
  exact := by
    intro b n hb hn hshort
    exact hpow.exact hb hn (.inr (Int.natCast_nonneg n)) (by push_cast; rfl) hshort
  large := by
    intro b n hb hn hlong
    have hlarge := hpow.large hb hn (.inr (Int.natCast_nonneg n))
    rw [zpow_natCast] at hlarge
    exact_mod_cast hlarge (by exact_mod_cast hlong)

theorem powerBy_natCast {pow : PowerFunction} (hpow : pow.ExactOrLarge) {b : ℤ} {n : ℕ}
    (hb : InRange b) (hn : InRange n) : powerBy pow b n = clamp (b ^ n) := by
  refine powerBy_of_integer ?_ (hpow.exact hb hn) (hpow.large hb hn)
  rw [zpow_natCast, Int.cast_pow]

/-- **A power is what repeated multiplication comes to**, starting from one and clamping every
product; so it is by way of floating point. -/
theorem eval_power_eq_products {pow : PowerFunction} (hpow : pow.ExactOrLarge) {base : ℤ} {n : ℕ}
    (hb : InRange base) (hn : InRange n) :
    Operator.power.eval base n = Operator.multiply.evalRepeatedly base n 1 ∧
      .ok (powerBy pow base n) = Operator.multiply.evalRepeatedly base n 1 := by
  have hproducts : Operator.multiply.evalRepeatedly base n 1 = .ok (clamp (base ^ n)) := by
    have h := Operator.evalRepeatedly_multiply base 0 n
    rwa [pow_zero, clamp_of_inRange (by decide), Nat.zero_add] at h
  rw [hproducts, powerBy_natCast hpow hb hn, Operator.eval,
    Operator.clampedPower_of_inRange hb hn, Operator.exactPower_natCast]
  exact ⟨rfl, rfl⟩

/-- Three factors: the second product is clamped, and the third takes the largest operand to the
smallest one. -/
theorem eval_power_eq_products_odd :
    roundedPower.ExactOrLarge ∧ InRange (-65536) ∧ InRange (3 : ℕ) ∧
    Operator.multiply.evalRepeatedly (-65536) 2 1 = .ok 2147483647 ∧
    Operator.multiply.evalRepeatedly (-65536) 3 1 = .ok (-2147483648) ∧
    Operator.power.eval (-65536) (3 : ℕ) = .ok (-2147483648) := by
  have hpow : roundedPower.ExactOrLarge := faithful_roundedPower.exactOrLarge
  have hb : InRange (-65536) := by decide
  have hn : InRange (3 : ℕ) := by decide
  have hlast : Operator.multiply.evalRepeatedly (-65536) 3 1 = .ok (-2147483648) := by decide
  refine ⟨hpow, hb, hn, by decide, hlast, ?_⟩
  rw [(eval_power_eq_products hpow hb hn).1, hlast]

end Binary64

end StackCalc
