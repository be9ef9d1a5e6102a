import Mathlib.Data.Nat.Init
import StackCalc.Line.Scan
import StackCalc.Proofs.Line.Ends
import StackCalc.Proofs.Operand.Grammar
import StackCalc.Text.Basic

/-!
# StackCalc.Proofs.Numeral — the numeral of an operand spells it

The numeral of an integer consists of ASCII digits, with a minus in front of a negative number: no
other character occurs in it, so it is a well-formed token.  It is one of the numerals that the
grammar of operands speaks of, its value is the integer, and where that is an operand it has ten
digits at most; so it spells the operand (`ofToken?_decimal`).
-/

namespace StackCalc

namespace Text

/-! ### Digits of a number -/

/-- Induction along the digits of a number, the last digit taken off first. -/
theorem toDigits_induction {P : ℕ → Text → Prop}
    (digit : ∀ n < 10, P n [Nat.digitChar n])
    (digits : ∀ n, 10 ≤ n → P (n / 10) (Nat.toDigits 10 (n / 10)) →
      P n (Nat.toDigits 10 (n / 10) ++ [Nat.digitChar (n % 10)]))
    (n : ℕ) : P n (Nat.toDigits 10 n) := by
  induction n using Nat.strong_induction_on with
  | _ n ih =>
    by_cases hn : n < 10
    · rw [Nat.toDigits_of_lt_base hn]
      exact digit n hn
    · rw [Nat.toDigits_of_base_le (by decide) (by omega)]
      exact digits n (by omega) (ih (n / 10) (by omega))

theorem exists_digit_of_mem {n : ℕ} {c : Char} (hc : c ∈ Nat.toDigits 10 n) :
    ∃ d < 10, c = Nat.digitChar d := by
  induction n using toDigits_induction with
  | digit n hn => exact ⟨n, hn, List.mem_singleton.1 hc⟩
  | digits n hn ih =>
    rcases List.mem_append.1 hc with hc | hc
    · exact ih hc
    · exact ⟨n % 10, Nat.mod_lt _ (by decide), List.mem_singleton.1 hc⟩

theorem digitValue?_digitChar {d : ℕ} (hd : d < 10) : digitValue? (Nat.digitChar d) = some d := by
  have key : ∀ d < 10, digitValue? (Nat.digitChar d) = some d := by decide
  exact key d hd

theorem isDigit_of_mem_toDigits {n : ℕ} {c : Char} (hc : c ∈ Nat.toDigits 10 n) :
    isDigit c = true := by
  obtain ⟨d, hd, rfl⟩ := exists_digit_of_mem hc
  rw [isDigit, digitValue?_digitChar hd]
  rfl

end Text

namespace Operand

/-! ### A numeral as an operand -/

theorem digitWorth_digitChar {d : ℕ} (hd : d < 10) : digitWorth (Nat.digitChar d) = d := by
  rw [digitWorth, Text.digitValue?_digitChar hd, Option.getD_some]

/-- The digits of a number are worth it. -/
theorem worth_toDigits (n : ℕ) : worth (Nat.toDigits 10 n) = n := by
  induction n using Text.toDigits_induction with
  | digit n hn => simp [worth, digitWorth_digitChar hn]
  | digits n hn ih =>
    rw [worth_concat, ih, digitWorth_digitChar (Nat.mod_lt n (by decide)), Nat.div_add_mod]

/-- The digits of a number behind a sign. -/
def signed (sign : Sign) (n : ℕ) : Numeral :=
  ⟨sign, Nat.toDigits 10 n, Nat.toDigits_ne_nil, fun _ hc => Text.isDigit_of_mem_toDigits hc⟩

theorem value_signed (sign : Sign) (n : ℕ) : (signed sign n).value = sign.factor * n := by
  rw [Numeral.value, signed, worth_toDigits]

/-- Every integer is the value of the numeral that it is written as. -/
theorem exists_signed (n : Int) :
    ∃ sign, (signed sign n.natAbs).text = Text.decimal n ∧ (signed sign n.natAbs).value = n := by
  cases n with
  | ofNat n => exact ⟨.none, rfl, by rw [value_signed]; exact Int.one_mul n⟩
  | negSucc n =>
    refine ⟨.minus, rfl, ?_⟩
    rw [value_signed, Int.negSucc_eq, Sign.factor]
    omega

/-- **The numeral of an operand spells it.** -/
theorem ofToken?_decimal {n : Int} (h : InRange n) : ofToken? (Text.decimal n) = some n := by
  obtain ⟨sign, htext, hvalue⟩ := exists_signed n
  have hdigits : (Nat.toDigits 10 n.natAbs).length ≤ 10 := by
    refine (Nat.length_toDigits_le_iff (by decide) (by decide)).2 ?_
    simp only [InRange, minOperand, maxOperand] at h
    omega
  have hkept : (signed sign n.natAbs).kept ≤ 10 := (kept_le_length _).trans hdigits
  rw [← htext, ofToken?_text, hvalue, if_pos ⟨hkept, h⟩]

end Operand

namespace Line

/-! ### A numeral as a token -/

theorem minus_or_digit_of_mem_decimal {n : Int} {c : Char} (hc : c ∈ Text.decimal n) :
    c = '-' ∨ ∃ d < 10, c = Nat.digitChar d := by
  cases n with
  | ofNat n => exact .inr (Text.exists_digit_of_mem hc)
  | negSucc n =>
    rcases List.mem_cons.1 hc with rfl | hc
    · exact .inl rfl
    · exact .inr (Text.exists_digit_of_mem hc)

/-- What a character of a numeral is not. -/
theorem plain_of_mem_decimal {n : Int} {c : Char} (hc : c ∈ Text.decimal n) :
    isEdge c = false ∧ c.isAlpha = false ∧ standsAlone c = false ∧ c ≠ '=' ∧ c ≠ '#' := by
  have hdigit : ∀ d < 10, isEdge (Nat.digitChar d) = false ∧ (Nat.digitChar d).isAlpha = false ∧
      standsAlone (Nat.digitChar d) = false ∧ Nat.digitChar d ≠ '=' ∧ Nat.digitChar d ≠ '#' := by
    decide
  rcases minus_or_digit_of_mem_decimal hc with rfl | ⟨d, hd, rfl⟩
  · decide
  · exact hdigit d hd

theorem wellFormed_decimal (n : Int) : WellFormed (Text.decimal n) := by
  refine ⟨Text.decimal_ne_nil n, .inr (.inr (.inr (.inr (isRun_of_not_mem ?_ ?_))))⟩
  · intro c hc
    obtain ⟨hedge, halpha, ha, -⟩ := plain_of_mem_decimal hc
    exact ⟨not_isBlank_of_isEdge hedge, halpha, ha⟩
  · intro hmem
    obtain ⟨-, -, -, hne, -⟩ := plain_of_mem_decimal hmem
    exact hne rfl

end Line

end StackCalc
