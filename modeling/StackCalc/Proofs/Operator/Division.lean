import StackCalc.Proofs.Operator.Range

/-!
# StackCalc.Proofs.Operator.Division — quotient and remainder fit together

On operands, a quotient leaves the range at one place only: the smallest operand by -1, which is
clamped.  Everywhere else nothing is lost, and the quotient times the right operand, plus the
remainder, is the left operand again (`divide_mul_add_modulo`).  The remainder is not clamped; it
needs no clamping, being closer to zero than the right operand.
-/

namespace StackCalc.Operator

variable {left right : Int}

/-! ### Remainders -/

theorem natAbs_tmod_lt (left : Int) (h : right ≠ 0) : (left.tmod right).natAbs < right.natAbs := by
  rw [Int.natAbs_tmod]
  exact Nat.mod_lt _ (Int.natAbs_pos.2 h)

/-- A remainder never has the sign opposite to that of the left operand. -/
theorem tmod_eq_zero_or_sign (left right : Int) :
    left.tmod right = 0 ∨ (left.tmod right).sign = left.sign := by
  have hsign := Int.sign_tmod left right
  split at hsign
  · exact .inl (Int.sign_eq_zero_iff_zero.1 hsign)
  · exact .inr hsign

/-! ### Quotients -/

/-- There is one quotient of operands that is no operand. -/
theorem inRange_tdiv_iff (hl : InRange left) (h : right ≠ 0) :
    InRange (left.tdiv right) ↔ ¬ (left = minOperand ∧ right = -1) := by
  constructor
  · rintro hquotient ⟨rfl, rfl⟩
    exact absurd hquotient (by decide)
  · intro hcorner
    have habs : (left.tdiv right).natAbs = left.natAbs / right.natAbs := Int.natAbs_tdiv left right
    by_cases hunit : right.natAbs = 1
    · obtain rfl | rfl : right = 1 ∨ right = -1 := by omega
      · rw [Int.tdiv_one]
        exact hl
      · have hne : left ≠ minOperand := fun hmin => hcorner ⟨hmin, rfl⟩
        rw [Int.tdiv_neg, Int.tdiv_one]
        simp only [InRange, minOperand, maxOperand] at hl hne ⊢
        omega
    · have hhalf : left.natAbs / right.natAbs ≤ left.natAbs / 2 :=
        Nat.div_le_div_left (by omega) (by decide)
      apply inRange_of_natAbs_lt
      simp only [InRange, minOperand, maxOperand] at hl
      omega

/-! ### Both together -/

/-- **Quotient and remainder fit together.**  Both are refused when the right operand is zero, and
only then.  Otherwise they are what division of magnitudes gives, with the signs put in front: two
operands, the remainder closer to zero than the right operand and on the side of the left one, from
which the left operand can be had again, unless it is the smallest one and the right operand -1. -/
theorem divide_mul_add_modulo (hl : InRange left) (hr : InRange right) :
    (divide.eval left right = .error .divideByZero ↔ right = 0) ∧
    (modulo.eval left right = .error .divideByZero ↔ right = 0) ∧
    (right ≠ 0 → ∃ quotient remainder,
      divide.eval left right = .ok quotient ∧ modulo.eval left right = .ok remainder ∧
      quotient = clamp (magnitudeQuotient left right) ∧
      remainder = magnitudeRemainder left right ∧
      remainder.natAbs < right.natAbs ∧ (remainder = 0 ∨ remainder.sign = left.sign) ∧
      InRange quotient ∧ InRange remainder ∧
      if left = -2147483648 ∧ right = -1 then quotient = 2147483647 ∧ remainder = 0
      else quotient * right + remainder = left) := by
  refine ⟨by simp [eval_eq_error_iff], by simp [eval_eq_error_iff], fun h => ?_⟩
  refine ⟨clamp (left.tdiv right), left.tmod right, if_neg h, if_neg h,
    by rw [magnitudeQuotient_eq_tdiv], (magnitudeRemainder_eq_tmod left right).symm,
    natAbs_tmod_lt left h, tmod_eq_zero_or_sign left right, inRange_clamp _,
    inRange_tmod hl hr, ?_⟩
  split
  · next hcorner =>
    obtain ⟨rfl, rfl⟩ := hcorner
    decide
  · next hcorner =>
    rw [clamp_of_inRange ((inRange_tdiv_iff hl h).2 hcorner)]
    exact Int.tdiv_mul_add_tmod left right

/-- The signs of both operands differ and the division is not exact. -/
theorem divide_mul_add_modulo_signs :
    InRange (-7) ∧ InRange 2 ∧ divide.eval (-7) 2 = .ok (-3) ∧ modulo.eval (-7) 2 = .ok (-1) ∧
      (-3 : Int) * 2 + -1 = -7 := by
  have hl : InRange (-7) := by decide
  have hr : InRange 2 := by decide
  obtain ⟨quotient, remainder, hquotient, hremainder, -, -, -, -, -, -, hfit⟩ :=
    (divide_mul_add_modulo hl hr).2.2 (by decide)
  obtain rfl : (-3 : Int) = quotient := by cases hquotient; decide
  obtain rfl : (-1 : Int) = remainder := by cases hremainder; decide
  exact ⟨hl, hr, hquotient, hremainder, hfit⟩

end StackCalc.Operator
