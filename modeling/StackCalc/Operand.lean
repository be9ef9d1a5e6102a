import StackCalc.Text.Basic

/-!
# StackCalc.Operand — the range of operands, and the tokens that spell them

A calculator holds signed 32-bit operands.  A result that leaves the range is not wrapped: it is
moved to the nearest end.  `clamp` does that for any integer; `InRange` says which integers it
leaves alone.

A token spells an operand when it is an optional sign and then decimal digits, of any script and
at least one, whose value is in range.  Zeros in front do not count, and of the digits that do
there may be ten at most.  A zero in front is the ASCII zero alone, and the last digit is kept
whatever it is.
-/

namespace StackCalc

/-! ## The range -/

/-- The smallest operand. -/
def minOperand : Int := -2147483648

/-- The largest operand. -/
def maxOperand : Int := 2147483647

/-- The integers that are operands. -/
def InRange (n : Int) : Prop := minOperand ≤ n ∧ n ≤ maxOperand

instance (n : Int) : Decidable (InRange n) := inferInstanceAs (Decidable (_ ∧ _))

/-- The operand nearest to an integer. -/
def clamp (n : Int) : Int := max minOperand (min n maxOperand)

/-! ### Clamping reaches every operand and nothing else -/

theorem inRange_clamp (n : Int) : InRange (clamp n) := by
  simp only [InRange, clamp, minOperand, maxOperand]
  omega

theorem clamp_of_inRange {n : Int} (h : InRange n) : clamp n = n := by
  simp only [InRange, clamp, minOperand, maxOperand] at *
  omega

theorem clamp_of_maxOperand_le {n : Int} (h : maxOperand ≤ n) : clamp n = maxOperand := by
  simp only [clamp, minOperand, maxOperand] at *
  omega

theorem clamp_of_le_minOperand {n : Int} (h : n ≤ minOperand) : clamp n = minOperand := by
  simp only [clamp, minOperand, maxOperand] at *
  omega

namespace Operand

/-! ## Tokens -/

/-- The greatest number of digits behind the zeros in front. -/
def maxDigits : Nat := 10

/-- The sign in front of a token, as a factor, and what stands behind it. -/
def cutSign : Text → Int × Text
  | [] => (1, [])
  | c :: rest =>
    if c = '+' then (1, rest) else if c = '-' then (-1, rest) else (1, c :: rest)

/-- Digits without the zeros in front, the last digit excepted. -/
def dropZeros : Text → Text
  | [] => []
  | [c] => [c]
  | c :: d :: rest => if c = '0' then dropZeros (d :: rest) else c :: d :: rest

/-- The number that digits spell, the most significant first. -/
def numberOf (digits : List Nat) : Nat := digits.foldl (10 * · + ·) 0

/-- The operand that a token spells. -/
def ofToken? (token : Text) : Option Int :=
  match (dropZeros (cutSign token).2).mapM Text.digitValue? with
  | none => none
  | some digits =>
    let n := (cutSign token).1 * numberOf digits
    if digits ≠ [] ∧ digits.length ≤ maxDigits ∧ InRange n then some n else none

/-! ### Every operand is in range -/

theorem inRange_of_ofToken? {token : Text} {n : Int} (h : ofToken? token = some n) :
    InRange n := by
  unfold ofToken? at h
  split at h
  · cases h
  · simp only [Option.ite_none_right_eq_some, Option.some.injEq] at h
    obtain ⟨⟨_, _, hn⟩, rfl⟩ := h
    exact hn

end Operand

end StackCalc
