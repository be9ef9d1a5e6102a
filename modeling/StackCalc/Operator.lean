import StackCalc.Fault
import StackCalc.Operand

/-!
# StackCalc.Operator — the six operators on two operands

Each operator takes a left and a right operand to the exact result, clamped.  A quotient is
truncated toward zero and a remainder has the sign of the left operand; neither exists when the
right operand is zero.  A power with a negative exponent is the reciprocal of the power with the
opposite exponent, truncated toward zero; the reciprocal of zero counts as too large.

A program may push integers that are no operands.  Operators then work on what they find, and a
remainder may be no operand either.  Powers are worked out in binary64, which such integers can
tell: a long exponent is rounded, and base and exponent may be too large for a power.

A binary64 number has 53 significant binary digits and stays below `2 ^ 1024`.  `Binary64.ofInt?`
rounds an integer to the nearest such number, which is an integer again, and a half to the one whose
last digit is even; an integer that rounds to `2 ^ 1024` or more has no binary64 number.  Integers
of up to 53 binary digits are left as they are, and longer ones become even.

A quotient truncated toward zero can be had from a division that rounds down, when magnitudes are
divided and the sign is put in front afterwards: a minus where the signs of the two operands
differ.  The remainder of the magnitudes takes the sign of the left operand.  `magnitudeQuotient`
and `magnitudeRemainder` are these second accounts of `Int.tdiv` and `Int.tmod`, in natural numbers
alone.
-/

namespace StackCalc

/-! ## Integers rounded to binary64 -/

namespace Binary64

/-- The number of significant binary digits. -/
def precision : Nat := 53

/-- The least exponent of a power of two that is too large. -/
def exponentBound : Nat := 1024

/-- The worth of the last significant digit of a number. -/
def lastPlace (n : Nat) : Nat := 1 <<< (n.log2 + 1 - precision)

/-- A number rounded to the significant digits, a half to the even neighbour. -/
def round (n : Nat) : Nat :=
  let place := lastPlace n
  let kept := n / place
  let rest := n % place
  (if place < 2 * rest ∨ place = 2 * rest ∧ kept % 2 = 1 then kept + 1 else kept) * place

/-- The binary64 number nearest to an integer. -/
def ofInt? (n : Int) : Option Int :=
  if (round n.natAbs).log2 < exponentBound then some (n.sign * round n.natAbs) else none

/-! ### Short integers are left as they are -/

theorem lastPlace_of_log2_lt {n : Nat} (h : n.log2 < precision) : lastPlace n = 1 := by
  rw [lastPlace, Nat.sub_eq_zero_of_le h, Nat.shiftLeft_zero]

theorem round_of_log2_lt {n : Nat} (h : n.log2 < precision) : round n = n := by
  rw [round, lastPlace_of_log2_lt h, Nat.div_one, Nat.mod_one]
  exact Nat.mul_one n

theorem ofInt?_of_log2_lt {n : Int} (h : n.natAbs.log2 < precision) : ofInt? n = some n := by
  have hbound : n.natAbs.log2 < exponentBound := Nat.lt_trans h (by decide)
  rw [ofInt?, round_of_log2_lt h, if_pos hbound, Int.sign_mul_natAbs]

end Binary64

/-! ## Operators -/

/-- The operators on two operands. -/
inductive Operator
  | add
  | subtract
  | multiply
  | divide
  | modulo
  | power
deriving DecidableEq

namespace Operator

/-- The character that spells an operator. -/
def symbol : Operator → Char
  | add => '+'
  | subtract => '-'
  | multiply => '*'
  | divide => '/'
  | modulo => '%'
  | power => '^'

/-- The operator that a character spells. -/
def ofSymbol? : Char → Option Operator
  | '+' => some add
  | '-' => some subtract
  | '*' => some multiply
  | '/' => some divide
  | '%' => some modulo
  | '^' => some power
  | _ => none

/-! ### Symbols and operators match -/

theorem ofSymbol?_symbol (op : Operator) : ofSymbol? op.symbol = some op := by
  cases op <;> rfl

theorem symbol_of_ofSymbol? {c : Char} {op : Operator} (h : ofSymbol? c = some op) :
    op.symbol = c := by
  unfold ofSymbol? at h
  split at h <;> cases h <;> rfl

/-! ## Results -/

/-- An exponent of at most 33 and of the same parity: what lies beyond changes no clamped power,
since a base other than 0, 1 and -1 has left the range of the operands by then. -/
def shortExponent (n : Nat) : Nat := if n ≤ 32 then n else 32 + n % 2

/-- The power of a base, clamped; exponents below zero truncate the reciprocal toward zero. -/
def exactPower (base : Int) : Int → Int
  | .ofNat n => clamp (base.pow (shortExponent n))
  | .negSucc n =>
    if base = 0 then maxOperand else Int.tdiv 1 (base.pow (shortExponent (n + 1)))

/-- The end of the range at which a power lies that is too large. -/
def endOfPower (base exponent : Int) : Int :=
  if base < 0 ∧ exponent % 2 = 1 then minOperand else maxOperand

/-- The power of a base as binary64 numbers have it, clamped.  The rounding of the exponent shows
with the base -1 alone: all other powers with a long exponent are 0, 1 or too large, and where one
is too large, its sign is that of the exact power. -/
def clampedPower (base exponent : Int) : Int :=
  match Binary64.ofInt? base, Binary64.ofInt? exponent with
  | some _, some rounded => exactPower base (if base = -1 then rounded else exponent)
  | _, _ => endOfPower base exponent

/-- The result of an operator on a left and a right operand. -/
def eval (op : Operator) (left right : Int) : Except Fault Int :=
  match op with
  | add => .ok (clamp (left + right))
  | subtract => .ok (clamp (left - right))
  | multiply => .ok (clamp (left * right))
  | divide => if right = 0 then .error .divideByZero else .ok (clamp (left.tdiv right))
  | modulo => if right = 0 then .error .divideByZero else .ok (left.tmod right)
  | power => .ok (clampedPower left right)

/-! ### Operands are short enough for exact powers -/

theorem ofInt?_of_inRange {n : Int} (h : InRange n) : Binary64.ofInt? n = some n := by
  refine Binary64.ofInt?_of_log2_lt ?_
  by_cases h0 : n.natAbs = 0
  · rw [h0]
    decide
  · rw [Nat.log2_lt h0, Binary64.precision]
    simp only [InRange, minOperand, maxOperand] at h
    omega

theorem clampedPower_of_inRange {base exponent : Int} (hb : InRange base) (he : InRange exponent) :
    clampedPower base exponent = exactPower base exponent := by
  unfold clampedPower
  simp only [ofInt?_of_inRange hb, ofInt?_of_inRange he, ite_self]

/-! ## Quotients and remainders of magnitudes -/

/-- A magnitude, with a minus in front or not. -/
def withSign (negative : Bool) (magnitude : Nat) : Int :=
  if negative then -(magnitude : Int) else magnitude

/-- The quotient of the magnitudes, negative where the signs differ. -/
def magnitudeQuotient (left right : Int) : Int :=
  withSign (decide (left < 0) != decide (right < 0)) (left.natAbs / right.natAbs)

/-- The remainder of the magnitudes, with the sign of the left operand. -/
def magnitudeRemainder (left right : Int) : Int :=
  withSign (decide (left < 0)) (left.natAbs % right.natAbs)

/-! ### Both accounts agree -/

theorem decide_ofNat_lt_zero (n : Nat) : decide (Int.ofNat n < 0) = false :=
  decide_eq_false (Int.not_lt.2 (Int.natCast_nonneg n))

theorem decide_negSucc_lt_zero (n : Nat) : decide (Int.negSucc n < 0) = true :=
  decide_eq_true (Int.negSucc_lt_zero n)

theorem magnitudeQuotient_eq_tdiv (left right : Int) :
    magnitudeQuotient left right = left.tdiv right := by
  unfold magnitudeQuotient
  cases left with
  | ofNat m =>
    rw [decide_ofNat_lt_zero]
    cases right with
    | ofNat n => rw [decide_ofNat_lt_zero]; rfl
    | negSucc n => rw [decide_negSucc_lt_zero]; rfl
  | negSucc m =>
    rw [decide_negSucc_lt_zero]
    cases right with
    | ofNat n => rw [decide_ofNat_lt_zero]; rfl
    | negSucc n => rw [decide_negSucc_lt_zero]; rfl

theorem magnitudeRemainder_eq_tmod (left right : Int) :
    magnitudeRemainder left right = left.tmod right := by
  unfold magnitudeRemainder
  cases left with
  | ofNat m =>
    rw [decide_ofNat_lt_zero]
    cases right <;> rfl
  | negSucc m =>
    rw [decide_negSucc_lt_zero]
    cases right <;> rfl

end Operator

end StackCalc
