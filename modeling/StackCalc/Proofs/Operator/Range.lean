import StackCalc.Operator

/-!
# StackCalc.Proofs.Operator.Range — results of operators are operands

Four operators clamp what they come to.  A remainder and a power with a negative exponent are not
clamped: the remainder is closer to zero than the right operand, and the power is the reciprocal of
an integer, truncated.  An operator has no result in one case only, which is a division by zero.
-/

namespace StackCalc

theorem inRange_minOperand : InRange minOperand := by decide

theorem inRange_maxOperand : InRange maxOperand := by decide

/-- An integer no further from zero than an operand, on either side. -/
theorem inRange_of_natAbs_lt {n : Int} (h : n.natAbs < 2147483648) : InRange n := by
  simp only [InRange, minOperand, maxOperand]
  omega

namespace Operator

/-! ### The two results that are not clamped -/

theorem inRange_tmod {left right : Int} (hl : InRange left) (hr : InRange right) :
    InRange (left.tmod right) := by
  by_cases h0 : right = 0
  · rw [h0, Int.tmod_zero]
    exact hl
  · have hlt : left.natAbs % right.natAbs < right.natAbs := Nat.mod_lt _ (by omega)
    apply inRange_of_natAbs_lt
    rw [Int.natAbs_tmod]
    simp only [InRange, minOperand, maxOperand] at hr
    omega

theorem inRange_reciprocal (n : Int) : InRange (Int.tdiv 1 n) := by
  apply inRange_of_natAbs_lt
  rw [Int.natAbs_tdiv, Int.natAbs_one]
  exact Nat.lt_of_le_of_lt (Nat.div_le_self 1 n.natAbs) (by decide)

/-! ### Powers -/

theorem inRange_exactPower (base exponent : Int) : InRange (exactPower base exponent) := by
  cases exponent with
  | ofNat n => exact inRange_clamp _
  | negSucc n =>
    rw [exactPower]
    split
    · exact inRange_maxOperand
    · exact inRange_reciprocal _

theorem inRange_clampedPower (base exponent : Int) : InRange (clampedPower base exponent) := by
  unfold clampedPower
  split
  · exact inRange_exactPower _ _
  · unfold endOfPower
    split
    · exact inRange_minOperand
    · exact inRange_maxOperand

/-! ### All operators -/

/-- **Operators take operands to operands.** -/
theorem inRange_eval {op : Operator} {left right result : Int} (hl : InRange left)
    (hr : InRange right) (h : op.eval left right = .ok result) : InRange result := by
  cases op with
  | add | subtract | multiply =>
    cases h
    exact inRange_clamp _
  | power =>
    cases h
    exact inRange_clampedPower _ _
  | divide =>
    rw [eval] at h
    split at h
    · cases h
    · cases h
      exact inRange_clamp _
  | modulo =>
    rw [eval] at h
    split at h
    · cases h
    · cases h
      exact inRange_tmod hl hr

/-- An operator fails on a division by zero, and on nothing else. -/
theorem eval_eq_error_iff {op : Operator} {left right : Int} {fault : Fault} :
    op.eval left right = .error fault ↔
      (op = .divide ∨ op = .modulo) ∧ right = 0 ∧ fault = .divideByZero := by
  cases op with
  | add | subtract | multiply | power => simp [eval]
  | divide | modulo => by_cases h : right = 0 <;> simp [eval, h, eq_comm]

end Operator

end StackCalc
