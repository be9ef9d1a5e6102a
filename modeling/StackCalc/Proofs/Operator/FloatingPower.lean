import Mathlib.Algebra.Order.Group.Int
import Mathlib.Data.Nat.Log
import StackCalc.Proofs.Operator.Powers

/-!
# StackCalc.Proofs.Operator.FloatingPower — powers by way of floating point

Powers may be left to a power function on binary64 numbers.  Such a function rounds, overflows
where the power is too large, and has no value for the reciprocals of zero.  `powerBy` makes an
operand of what it returns.

Nothing of the rounding is left to see.  Integers below `2 ^ 53` are not rounded; a power that is no
integer is at most one half, and truncated to zero; what is rounded lies so far outside the range
that its sign alone counts.  So any power function that is `Faithful` gives the exact power,
truncated and clamped (`powerBy_eq`), which is also what the calculator gives (`eval_power_eq`).
-/

namespace StackCalc

namespace Binary64

/-! ## Power functions -/

/-- A binary64 number: a rational number, or infinite. -/
inductive Number
  | finite (q : ℚ)
  | infinite (negative : Bool)

/-- Why there is no power. -/
inductive PowerFault
  /-- The power is too large. -/
  | overflow
  /-- The base is zero and the exponent is negative. -/
  | pole

/-- A function that takes a base and an exponent to a power as binary64 numbers have it. -/
abbrev PowerFunction := ℤ → ℤ → Except PowerFault Number

/-- The number is far from zero, on the side that is asked for. -/
def Number.IsLarge (negative : Prop) : Number → Prop
  | finite q => 2 ^ 31 ≤ |q| ∧ (q < 0 ↔ negative)
  | infinite below => below = true ↔ negative

/-- What may be relied on in a power function, as far as operands go: short integers are exact, a
power of at most one half stays below one, a long one stays long or overflows, and the reciprocals
of zero are refused. -/
structure PowerFunction.Faithful (pow : PowerFunction) : Prop where
  exact : ∀ {b e z : ℤ}, InRange b → InRange e → b ≠ 0 ∨ 0 ≤ e → (b : ℚ) ^ e = z →
    |z| < 2 ^ 53 → pow b e = .ok (.finite z)
  small : ∀ {b e : ℤ}, InRange b → InRange e → b ≠ 0 ∨ 0 ≤ e → |(b : ℚ) ^ e| ≤ 1 / 2 →
    ∃ q, pow b e = .ok (.finite q) ∧ |q| < 1
  large : ∀ {b e : ℤ}, InRange b → InRange e → b ≠ 0 ∨ 0 ≤ e → 2 ^ 53 ≤ |(b : ℚ) ^ e| →
    pow b e = .error .overflow ∨ ∃ x, pow b e = .ok x ∧ x.IsLarge ((b : ℚ) ^ e < 0)
  pole : ∀ {e : ℤ}, InRange e → e < 0 → pow 0 e = .error .pole

/-! ## Operands from binary64 numbers -/

/-- The operand nearest to a number that is truncated toward zero. -/
def Number.operand : Number → ℤ
  | finite q => clamp (truncate q)
  | infinite negative => if negative then minOperand else maxOperand

/-- The number that stands in for a power that there is not.  Only positive exponents overflow, so
that parity gives the sign. -/
def PowerFault.number (base exponent : ℤ) : PowerFault → Number
  | overflow => .infinite (base < 0 && exponent % 2 != 0)
  | pole => .infinite false

/-- The power of a base by way of a power function. -/
def powerBy (pow : PowerFunction) (base exponent : ℤ) : ℤ :=
  match pow base exponent with
  | .ok x => x.operand
  | .error fault => (fault.number base exponent).operand

theorem Number.operand_of_isLarge {negative : Prop} [Decidable negative] {x : Number}
    (h : x.IsLarge negative) : x.operand = if negative then minOperand else maxOperand := by
  cases x with
  | finite q =>
    obtain ⟨hq, hsign⟩ := h
    rw [operand]
    split_ifs with hneg
    · rw [abs_of_neg (hsign.2 hneg)] at hq
      exact clamp_truncate_of_le_neg (le_neg_of_le_neg hq)
    · rw [abs_of_nonneg (not_lt.1 fun hlt => hneg (hsign.1 hlt))] at hq
      exact clamp_truncate_of_le hq
  | infinite below =>
    rw [operand]
    simp only [show (below = true) = negative from propext h]

/-! ## The power is exact -/

/-- The sign of a power. -/
theorem zpow_neg_iff (b e : ℤ) : (b : ℚ) ^ e < 0 ↔ b < 0 ∧ e % 2 ≠ 0 := by
  rcases Int.even_or_odd e with he | he
  · simp [he.zpow_nonneg, Int.even_iff.1 he]
  · rw [he.zpow_neg_iff, Int.odd_iff.1 he]
    simp

/-- Where the exact power is an integer, it is enough that a short one is left as it is, and that a
long one stays large and on its side, or overflows. -/
theorem powerBy_of_integer {pow : PowerFunction} {b e z : ℤ} (hz : (b : ℚ) ^ e = z)
    (hshort : |z| < 2 ^ 53 → pow b e = .ok (.finite z))
    (hlong : 2 ^ 53 ≤ |z| →
      pow b e = .error .overflow ∨ ∃ x, pow b e = .ok x ∧ x.IsLarge (z < 0)) :
    powerBy pow b e = clamp z := by
  rcases lt_or_ge |z| (2 ^ 53) with hlt | hge
  · rw [powerBy, hshort hlt]
    show clamp (truncate z) = clamp z
    rw [truncate_intCast]
  · -- the exact power is as large as the number that stands for it, and on the same side
    have hexact : (Number.finite z).IsLarge (z < 0) :=
      ⟨by exact_mod_cast le_trans (by norm_num) hge, by exact_mod_cast Iff.rfl⟩
    have hside : clamp z = if z < 0 then minOperand else maxOperand := by
      rw [← Number.operand_of_isLarge hexact, Number.operand, truncate_intCast]
    have hsign : z < 0 ↔ b < 0 ∧ e % 2 ≠ 0 := by
      rw [← zpow_neg_iff, hz]
      exact Int.cast_lt_zero.symm
    rw [hside]
    rcases hlong hge with hover | ⟨x, hx, hlarge⟩
    · rw [powerBy, hover]
      refine Number.operand_of_isLarge ?_
      rw [hsign]
      simp [Number.IsLarge, PowerFault.number]
    · rw [powerBy, hx]
      exact Number.operand_of_isLarge hlarge

/-- **A faithful power function gives the exact power**, truncated and clamped. -/
theorem powerBy_eq {pow : PowerFunction} (hpow : pow.Faithful) {b e : ℤ} (hb : InRange b)
    (he : InRange e) (h : b ≠ 0 ∨ 0 ≤ e) :
    powerBy pow b e = clamp (truncate ((b : ℚ) ^ e)) := by
  rcases Operator.zpow_cases h with ⟨hint, -⟩ | ⟨-, -, hsmall⟩
  · rw [hint, truncate_intCast]
    refine powerBy_of_integer hint (hpow.exact hb he h hint) fun hlong => ?_
    have hlarge := hpow.large hb he h
    rw [hint] at hlarge
    exact_mod_cast hlarge (by exact_mod_cast hlong)
  · obtain ⟨q, hq, hlt⟩ := hpow.small hb he h hsmall
    rw [powerBy, hq]
    show clamp (truncate q) = _
    rw [truncate_of_abs_lt_one hlt, truncate_of_abs_lt_one (lt_of_le_of_lt hsmall (by norm_num))]

/-! ## Rounded powers are faithful -/

/-- Rounding leaves a long number long. -/
theorem le_round {n : ℕ} (hn : 2 ^ 53 ≤ n) : 2 ^ 52 ≤ round n := by
  have hlog : 53 ≤ n.log2 := (Nat.le_log2 (by omega)).2 hn
  have hplace : lastPlace n * 2 ^ 52 = 2 ^ n.log2 := by
    rw [lastPlace, precision, Nat.one_shiftLeft, ← Nat.pow_add]
    congr 1
    omega
  have hself : 2 ^ n.log2 ≤ n := Nat.log2_self_le (by omega)
  have hpos : 0 < 2 ^ n.log2 := Nat.two_pow_pos _
  have hrest : n % lastPlace n < lastPlace n := Nat.mod_lt _ (by omega)
  have hkept : lastPlace n * (n / lastPlace n) + n % lastPlace n = n := Nat.div_add_mod _ _
  have hround : lastPlace n * (n / lastPlace n) ≤ round n := by
    rw [round, Nat.mul_comm]
    split_ifs
    · exact Nat.mul_le_mul_right _ (Nat.le_succ _)
    · exact Nat.le_refl _
  omega

/-- The power function that rounds the exact power of a nonnegative exponent; reciprocals it leaves
as they are. -/
def roundedPower : PowerFunction := fun base exponent =>
  if 0 ≤ exponent then
    match ofInt? (base ^ exponent.toNat) with
    | some rounded => .ok (.finite rounded)
    | none => .error .overflow
  else if base = 0 then .error .pole
  else .ok (.finite ((base : ℚ) ^ exponent))

theorem roundedPower_of_neg {b e : ℤ} (hb : b ≠ 0) (he : e < 0) :
    roundedPower b e = .ok (.finite ((b : ℚ) ^ e)) := by
  rw [roundedPower, if_neg (not_le.2 he), if_neg hb]

theorem zpow_eq_pow_toNat (b : ℤ) {e : ℤ} (he : 0 ≤ e) : (b : ℚ) ^ e = (b ^ e.toNat : ℤ) := by
  obtain ⟨n, rfl⟩ := Int.eq_ofNat_of_zero_le he
  rw [zpow_natCast, Int.toNat_natCast, Int.cast_pow]

theorem ofInt?_of_short {n : ℤ} (h : |n| < 2 ^ 53) : ofInt? n = some n := by
  refine ofInt?_of_log2_lt ?_
  rw [Int.abs_eq_natAbs] at h
  by_cases h0 : n.natAbs = 0
  · rw [h0]
    decide
  · exact (Nat.log2_lt h0).2 (by exact_mod_cast h)

/-- A long integer is rounded to a long one of the same sign. -/
theorem isLarge_of_ofInt? {n rounded : ℤ} (hn : 2 ^ 53 ≤ |n|) (h : ofInt? n = some rounded) :
    (Number.finite rounded).IsLarge ((n : ℚ) < 0) := by
  rw [Int.abs_eq_natAbs] at hn
  have hround : 2 ^ 52 ≤ round n.natAbs := le_round (by exact_mod_cast hn)
  rw [ofInt?, Option.ite_none_right_eq_some, Option.some.injEq] at h
  obtain ⟨-, rfl⟩ := h
  have hlong : (2 : ℚ) ^ 31 ≤ round n.natAbs := by
    exact_mod_cast le_trans (by norm_num) hround
  have hpos : (0 : ℚ) < round n.natAbs := lt_of_lt_of_le (by norm_num) hlong
  rcases lt_trichotomy n 0 with hneg | rfl | hnonneg
  · rw [Int.sign_eq_neg_one_of_neg hneg]
    push_cast
    rw [neg_one_mul]
    refine ⟨by rwa [abs_neg, abs_of_pos hpos], ?_⟩
    simp only [neg_lt_zero, hpos, true_iff]
    exact_mod_cast hneg
  · exact absurd hn (by decide)
  · rw [Int.sign_eq_one_of_pos hnonneg]
    push_cast
    rw [one_mul]
    refine ⟨by rwa [abs_of_pos hpos], ?_⟩
    simp only [not_lt.2 hpos.le, false_iff, not_lt]
    exact_mod_cast hnonneg.le

theorem faithful_roundedPower : roundedPower.Faithful where
  exact := by
    intro b e z _ _ h hz hshort
    rcases le_or_gt 0 e with he | he
    · have hpow : b ^ e.toNat = z := by exact_mod_cast (zpow_eq_pow_toNat b he).symm.trans hz
      rw [roundedPower, if_pos he, hpow, ofInt?_of_short hshort]
    · rw [roundedPower_of_neg (h.resolve_right (not_le.2 he)) he, hz]
  small := by
    intro b e _ _ h hsmall
    rcases le_or_gt 0 e with he | he
    · -- an integer of at most one half is zero
      have hzero : b ^ e.toNat = 0 := by
        rw [zpow_eq_pow_toNat b he, ← Int.cast_abs] at hsmall
        have hlt : ((|b ^ e.toNat| : ℤ) : ℚ) < 1 := lt_of_le_of_lt hsmall (by norm_num)
        exact Int.abs_lt_one_iff.1 (by exact_mod_cast hlt)
      refine ⟨(0 : ℤ), ?_, by norm_num⟩
      rw [roundedPower, if_pos he, hzero, ofInt?_of_short (by norm_num)]
    · exact ⟨_, roundedPower_of_neg (h.resolve_right (not_le.2 he)) he,
        lt_of_le_of_lt hsmall (by norm_num)⟩
  large := by
    intro b e _ _ h hlarge
    rcases le_or_gt 0 e with he | he
    · rw [zpow_eq_pow_toNat b he] at hlarge ⊢
      have hlong : 2 ^ 53 ≤ |b ^ e.toNat| := by exact_mod_cast hlarge
      rw [roundedPower, if_pos he]
      cases hround : ofInt? (b ^ e.toNat) with
      | none => exact .inl rfl
      | some rounded => exact .inr ⟨_, rfl, isLarge_of_ofInt? hlong hround⟩
    · -- a reciprocal is never long
      have hone : (1 : ℚ) ≤ |(b : ℚ)| := by
        exact_mod_cast Int.one_le_abs (h.resolve_right (not_le.2 he))
      rw [abs_zpow] at hlarge
      exact absurd (hlarge.trans (zpow_le_one_of_nonpos₀ hone he.le)) (by norm_num)
  pole := by
    intro e _ he
    rw [roundedPower, if_neg (not_le.2 he), if_pos rfl]

/-! ## Powers of operands -/

theorem powerBy_zero {pow : PowerFunction} (hpow : pow.Faithful) {e : ℤ} (he : InRange e)
    (hneg : e < 0) : powerBy pow 0 e = maxOperand := by
  rw [powerBy, hpow.pole he hneg]
  rfl

/-- **Powers are exact although they go through floating point.**  On operands, the calculator and
every faithful power function come to the power as a rational number, truncated toward zero and
clamped; a negative power of zero comes to the largest operand. -/
theorem eval_power_eq {pow : PowerFunction} (hpow : pow.Faithful) {base exponent : ℤ}
    (hb : InRange base) (he : InRange exponent) :
    let exact := if base = 0 ∧ exponent < 0 then 2147483647
      else clamp (truncate ((base : ℚ) ^ exponent))
    Operator.power.eval base exponent = .ok exact ∧ powerBy pow base exponent = exact := by
  intro exact
  rw [Operator.eval, Operator.clampedPower_of_inRange hb he]
  by_cases h : base = 0 ∧ exponent < 0
  · obtain ⟨rfl, hneg⟩ := h
    have hexact : exact = maxOperand := if_pos ⟨rfl, hneg⟩
    rw [hexact, powerBy_zero hpow he hneg]
    obtain ⟨n, rfl⟩ := Int.exists_eq_neg_ofNat hneg.le
    cases n with
    | zero => omega
    | succ n => exact ⟨rfl, rfl⟩
  · have hexact : exact = clamp (truncate ((base : ℚ) ^ exponent)) := if_neg h
    have hdefined : base ≠ 0 ∨ 0 ≤ exponent := by omega
    rw [hexact, Operator.exactPower_eq hdefined, powerBy_eq hpow hb he hdefined]
    exact ⟨rfl, rfl⟩

/-- The power of -3 with the exponent 41 is rounded on the way, and nothing of that is left. -/
theorem eval_power_eq_rounded :
    roundedPower.Faithful ∧ InRange (-3) ∧ InRange 41 ∧
    roundedPower (-3) 41 = .ok (.finite (-36472996377170788352 : ℤ)) ∧
    (-3 : ℤ) ^ 41 = -36472996377170786403 ∧
    Operator.power.eval (-3) 41 = .ok (-2147483648) ∧
    powerBy roundedPower (-3) 41 = -2147483648 := by
  have hb : InRange (-3) := by decide
  have he : InRange 41 := by decide
  have hrounded : ofInt? ((-3) ^ Int.toNat 41) = some (-36472996377170788352) := by decide
  obtain ⟨heval, hby⟩ := eval_power_eq faithful_roundedPower hb he
  have hexact : ((-3 : ℤ) : ℚ) ^ (41 : ℤ) ≤ -2 ^ 31 := by norm_num
  rw [if_neg (by decide), clamp_truncate_of_le_neg hexact] at heval hby
  refine ⟨faithful_roundedPower, hb, he, ?_, by norm_num, heval, hby⟩
  rw [roundedPower, if_pos (by decide), hrounded]

end Binary64

end StackCalc
