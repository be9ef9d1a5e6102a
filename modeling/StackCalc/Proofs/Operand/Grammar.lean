import Mathlib.Data.List.Induction
import Mathlib.Data.Nat.Init
import StackCalc.Operand.Numeral

/-!
# StackCalc.Proofs.Operand.Grammar — which tokens spell operands

A token that spells an operand is a numeral (`exists_numeral`), and a numeral spells its value when
that is in range and ten digits are left at most (`ofToken?_text`): together they are the grammar of
operands (`ofToken?_eq_some_iff`).

Counting digits is to refuse only what is out of range anyway.  Where the first digit left is no
zero it does: with more than ten of them the numeral is worth 10^10 at least (`pow_le_worth`).  But
a zero of another script is not taken off, so with such a zero first a numeral is refused whatever
its value is, and for no other reason is one refused whose value is in range
(`ofToken?_eq_none_iff`, `zeros_of_other_scripts_refused`).
-/

namespace StackCalc.Operand

/-! ### Digits and their values -/

theorem digitValue?_eq_some {c : Char} (h : Text.isDigit c = true) :
    Text.digitValue? c = some (digitWorth c) := by
  obtain ⟨d, hd⟩ := Option.isSome_iff_exists.1 h
  rw [digitWorth, hd, Option.getD_some]

theorem mapM_digitValue? {digits : Text} (h : ∀ c ∈ digits, Text.isDigit c = true) :
    digits.mapM Text.digitValue? = some (digits.map digitWorth) := by
  induction digits with
  | nil => rfl
  | cons c rest ih =>
    rw [List.forall_mem_cons] at h
    rw [List.mapM_cons, digitValue?_eq_some h.1, ih h.2]
    rfl

theorem isDigit_of_mapM {digits : Text} {values : List ℕ}
    (h : digits.mapM Text.digitValue? = some values) : ∀ c ∈ digits, Text.isDigit c = true := by
  induction digits generalizing values with
  | nil => simp
  | cons c rest ih =>
    rw [List.mapM_cons] at h
    obtain ⟨d, hd, h⟩ := Option.bind_eq_some_iff.1 h
    obtain ⟨more, hmore, -⟩ := Option.bind_eq_some_iff.1 h
    exact List.forall_mem_cons.2 ⟨Option.isSome_iff_exists.2 ⟨d, hd⟩, ih hmore⟩

theorem numberOf_concat (digits : List ℕ) (d : ℕ) :
    numberOf (digits ++ [d]) = 10 * numberOf digits + d := by
  rw [numberOf, List.foldl_append]
  rfl

/-- The first digit counts as many times the power of ten of its place as it says. -/
theorem numberOf_cons (d : ℕ) (digits : List ℕ) :
    numberOf (d :: digits) = d * 10 ^ digits.length + numberOf digits := by
  induction digits using List.reverseRecOn with
  | nil => simp [numberOf]
  | append_singleton digits e ih =>
    rw [← List.cons_append, numberOf_concat, ih, numberOf_concat, List.length_append,
      List.length_singleton, Nat.pow_succ, Nat.mul_add, Nat.mul_left_comm, Nat.mul_comm 10 (10 ^ _),
      Nat.add_assoc]

theorem numberOf_map (digits : Text) :
    numberOf (digits.map digitWorth) = worth digits := by
  induction digits with
  | nil => rfl
  | cons c rest ih => rw [List.map_cons, numberOf_cons, List.length_map, ih, worth]

/-- The last digit counts once, and those in front of it ten times more than without it. -/
theorem worth_concat (digits : Text) (c : Char) :
    worth (digits ++ [c]) = 10 * worth digits + digitWorth c := by
  rw [← numberOf_map, List.map_append, List.map_singleton, numberOf_concat, numberOf_map]

theorem worth_zero (digits : Text) : worth ('0' :: digits) = worth digits := by
  have hzero : digitWorth '0' = 0 := rfl
  rw [worth, hzero, Nat.zero_mul, Nat.zero_add]

theorem worth_dropWhile (digits : Text) : worth (digits.dropWhile (· == '0')) = worth digits := by
  induction digits with
  | nil => rfl
  | cons c rest ih =>
    by_cases hc : c = '0'
    · rw [hc, worth_zero, ← ih]
      rfl
    · rw [List.dropWhile_cons_of_neg (by simpa using hc)]

/-- Digits with no zero in front are worth the power of ten of the first place at least. -/
theorem pow_le_worth {c : Char} (hc : 0 < digitWorth c) (rest : Text) :
    10 ^ rest.length ≤ worth (c :: rest) := by
  rw [worth]
  have hplace : 1 * 10 ^ rest.length ≤ digitWorth c * 10 ^ rest.length :=
    Nat.mul_le_mul_right _ hc
  omega

/-! ### Zeros in front -/

theorem dropZeros_zero {digits : Text} (h : digits ≠ []) :
    dropZeros ('0' :: digits) = dropZeros digits := by
  obtain ⟨c, rest, rfl⟩ := List.exists_cons_of_ne_nil h
  rw [dropZeros, if_pos rfl]

theorem worth_dropZeros (digits : Text) : worth (dropZeros digits) = worth digits := by
  induction digits using dropZeros.induct with
  | case1 => rfl
  | case2 c => rfl
  | case3 d rest ih => rw [dropZeros_zero (by simp), ih, worth_zero]
  | case4 c d rest hc => rw [dropZeros, if_neg hc]

theorem isDigit_dropZeros_iff {digits : Text} :
    (∀ c ∈ dropZeros digits, Text.isDigit c = true) ↔ ∀ c ∈ digits, Text.isDigit c = true := by
  induction digits using dropZeros.induct with
  | case1 => rfl
  | case2 c => rfl
  | case3 d rest ih =>
    have hzero : Text.isDigit '0' = true := rfl
    rw [dropZeros_zero (by simp), ih, List.forall_mem_cons (a := '0'), and_iff_right hzero]
  | case4 c d rest hc => rw [dropZeros, if_neg hc]

theorem length_dropZeros {digits : Text} (h : digits ≠ []) :
    (dropZeros digits).length = max 1 (digits.dropWhile (· == '0')).length := by
  induction digits using dropZeros.induct with
  | case1 => exact absurd rfl h
  | case2 c => by_cases hc : c = '0' <;> simp [dropZeros, hc]
  | case3 d rest ih =>
    rw [dropZeros_zero (by simp), ih (by simp)]
    rfl
  | case4 c d rest hc =>
    rw [dropZeros, if_neg hc, List.dropWhile_cons_of_neg (by simpa using hc)]
    simp

/-! ### Signs -/

/-- What `cutSign` takes off is a sign, or nothing. -/
theorem exists_sign (token : Text) : ∃ sign : Sign, sign.text ++ (cutSign token).2 = token := by
  cases token with
  | nil => exact ⟨.none, rfl⟩
  | cons c rest =>
    rw [cutSign]
    split_ifs with hplus hminus
    · exact ⟨.plus, by rw [hplus]; rfl⟩
    · exact ⟨.minus, by rw [hminus]; rfl⟩
    · exact ⟨.none, rfl⟩

theorem cutSign_text (numeral : Numeral) :
    cutSign numeral.text = (numeral.sign.factor, numeral.digits) := by
  obtain ⟨sign, digits, hne, hdigits⟩ := numeral
  cases sign with
  | none =>
    obtain ⟨c, rest, rfl⟩ := List.exists_cons_of_ne_nil hne
    have hc : c ≠ '+' ∧ c ≠ '-' := by
      constructor <;> rintro rfl <;> cases hdigits _ List.mem_cons_self
    show cutSign (c :: rest) = (1, c :: rest)
    rw [cutSign, if_neg hc.1, if_neg hc.2]
  | plus | minus => rfl

/-! ### Numerals as tokens -/

theorem value_eq_bare (numeral : Numeral) :
    numeral.value = numeral.sign.factor * worth numeral.bare := by
  rw [Numeral.value, Numeral.bare, worth_dropWhile]

theorem value_withZeros (count : ℕ) (numeral : Numeral) :
    (numeral.withZeros count).value = numeral.value := by
  rw [value_eq_bare, Numeral.bare_withZeros, value_eq_bare]
  rfl

theorem kept_le_length (numeral : Numeral) : numeral.kept ≤ numeral.digits.length := by
  have hbare : numeral.bare.length ≤ numeral.digits.length :=
    (List.dropWhile_sublist _).length_le
  have hpos := List.length_pos_iff.2 numeral.digits_ne_nil
  rw [Numeral.kept]
  omega

/-- **A numeral spells its value** when that is in range and ten digits are left at most, and
nothing else. -/
theorem ofToken?_text (numeral : Numeral) :
    ofToken? numeral.text =
      if numeral.kept ≤ 10 ∧ InRange numeral.value then some numeral.value else none := by
  have hdigits := isDigit_dropZeros_iff.2 numeral.isDigit_of_mem
  have hlength := length_dropZeros numeral.digits_ne_nil
  have hne : dropZeros numeral.digits ≠ [] := by
    intro hnil
    rw [hnil, List.length_nil] at hlength
    omega
  rw [ofToken?, cutSign_text]
  simp only [mapM_digitValue? hdigits, numberOf_map, worth_dropZeros, List.length_map, hlength]
  simp only [ne_eq, List.map_eq_nil_iff, hne, not_false_eq_true, true_and]
  rfl

example : ofToken? "-00\u06607".toList = some (-7) := by decide

/-- Only numerals spell operands. -/
theorem exists_numeral {token : Text} {n : Int} (h : ofToken? token = some n) :
    ∃ numeral : Numeral, numeral.text = token := by
  obtain ⟨sign, htoken⟩ := exists_sign token
  rw [ofToken?] at h
  cases hvalues : (dropZeros (cutSign token).2).mapM Text.digitValue? with
  | none =>
    rw [hvalues] at h
    cases h
  | some values =>
    simp only [hvalues, Option.ite_none_right_eq_some] at h
    have hne : (cutSign token).2 ≠ [] := by
      intro hnil
      rw [hnil] at hvalues
      obtain rfl : [] = values := Option.some.inj hvalues
      exact h.1.1 rfl
    exact ⟨⟨sign, _, hne, isDigit_dropZeros_iff.1 (isDigit_of_mapM hvalues)⟩, htoken⟩

/-- **The grammar of operands**: a token spells an operand when it is a numeral, ten digits at most
are left of it without the ASCII zeros in front, and its value is in range; then it spells that
value.  So ASCII zeros between the sign and the digits change nothing. -/
theorem ofToken?_eq_some_iff :
    (∀ (token : Text) (n : Int), ofToken? token = some n ↔
      ∃ numeral : Numeral, numeral.text = token ∧ numeral.kept ≤ 10 ∧ numeral.value = n ∧
        InRange n) ∧
    ∀ (numeral : Numeral) (count : ℕ),
      ofToken? (numeral.sign.text ++ (List.replicate count '0' ++ numeral.digits)) =
        ofToken? (numeral.sign.text ++ numeral.digits) := by
  refine ⟨fun token n => ⟨fun h => ?_, ?_⟩, fun numeral count => ?_⟩
  · obtain ⟨numeral, rfl⟩ := exists_numeral h
    rw [ofToken?_text, Option.ite_none_right_eq_some, Option.some.injEq] at h
    obtain ⟨⟨hkept, hrange⟩, hvalue⟩ := h
    exact ⟨numeral, rfl, hkept, hvalue, hvalue ▸ hrange⟩
  · rintro ⟨numeral, rfl, hkept, rfl, hrange⟩
    rw [ofToken?_text, if_pos ⟨hkept, hrange⟩]
  · calc ofToken? (numeral.sign.text ++ (List.replicate count '0' ++ numeral.digits))
        = ofToken? (numeral.withZeros count).text := rfl
      _ = ofToken? numeral.text := by
          rw [ofToken?_text, ofToken?_text, Numeral.kept_withZeros, value_withZeros]

/-! ### Numerals that are too long -/

/-- More than ten digits left are worth 10^10 at least, unless they begin with a zero. -/
theorem le_worth_bare {numeral : Numeral} (hkept : 10 < numeral.kept)
    (hlong : ¬ numeral.Overlong) : 10 ^ 10 ≤ worth numeral.bare := by
  have hlength : 10 < numeral.bare.length := by
    rw [Numeral.kept] at hkept
    omega
  obtain ⟨c, rest, hbare⟩ := List.exists_cons_of_length_pos (Nat.zero_lt_of_lt hlength)
  have hmem : c ∈ numeral.digits :=
    (List.dropWhile_sublist _).subset (hbare ▸ List.mem_cons_self)
  have hfirst : 0 < digitWorth c := by
    by_contra hzero
    refine hlong ⟨hkept, ?_⟩
    rw [hbare, List.head?_cons, Option.bind_some,
      digitValue?_eq_some (numeral.isDigit_of_mem c hmem)]
    exact congrArg some (by omega)
  calc 10 ^ 10 ≤ 10 ^ rest.length := by
        rw [hbare, List.length_cons] at hlength
        exact Nat.pow_le_pow_right (by decide) (by omega)
    _ ≤ worth numeral.bare := hbare ▸ pow_le_worth hfirst rest

/-- In range, more than ten digits are left only where they begin with a zero. -/
theorem kept_le_of_inRange {numeral : Numeral} (hrange : InRange numeral.value)
    (hlong : ¬ numeral.Overlong) : numeral.kept ≤ 10 := by
  by_contra hkept
  have hworth := le_worth_bare (Nat.lt_of_not_le hkept) hlong
  rw [value_eq_bare] at hrange
  cases hsign : numeral.sign <;>
    simp only [hsign, Sign.factor, InRange, minOperand, maxOperand] at hrange <;> omega

/-- **A numeral is refused when its value is out of range, and for no other reason** than zeros of
another script in front of its digits, with more than ten of both: such a numeral is refused
whatever its value is. -/
theorem ofToken?_eq_none_iff (numeral : Numeral) :
    (ofToken? numeral.text = none ↔ ¬ InRange numeral.value ∨ numeral.Overlong) ∧
      (InRange numeral.value → ¬ numeral.Overlong →
        ofToken? numeral.text = some numeral.value) := by
  have hspells (hrange : InRange numeral.value) (hlong : ¬ numeral.Overlong) :
      ofToken? numeral.text = some numeral.value := by
    rw [ofToken?_text, if_pos ⟨kept_le_of_inRange hrange hlong, hrange⟩]
  refine ⟨⟨fun hnone => ?_, fun hor => ?_⟩, hspells⟩
  · by_contra hnot
    obtain ⟨hrange, hlong⟩ := not_or.1 hnot
    rw [hspells (not_not.1 hrange) hlong] at hnone
    cases hnone
  · rw [ofToken?_text]
    refine if_neg fun ⟨hkept, hrange⟩ => ?_
    rcases hor with hout | hlong
    · exact hout hrange
    · exact Nat.not_lt.2 hkept hlong.1

/-- Nine zeros of another script and a seven behind ASCII zeros are ten digits, and spell seven. -/
theorem ofToken?_eq_none_iff_ten :
    let digits := List.replicate 12 '0' ++ List.replicate 9 '\u0660' ++ ['7']
    let numeral : Numeral := ⟨.minus, digits, by decide, List.all_eq_true.1 (by decide)⟩
    InRange numeral.value ∧ ¬ numeral.Overlong ∧ ofToken? numeral.text = some (-7) := by
  intro digits numeral
  have hrange : InRange numeral.value := by decide
  have hlong : ¬ numeral.Overlong := by decide
  have hvalue : numeral.value = -7 := by decide
  refine ⟨hrange, hlong, ?_⟩
  rw [(ofToken?_eq_none_iff numeral).2 hrange hlong, hvalue]

/-- Eleven zeros of another script are worth zero and spell nothing. -/
theorem zeros_of_other_scripts_refused :
    let numeral : Numeral :=
      ⟨.none, List.replicate 11 '\u0660', by decide, List.all_eq_true.1 (by decide)⟩
    InRange numeral.value ∧ numeral.value = 0 ∧ ofToken? numeral.text = none := by
  intro numeral
  have hkept : ¬ numeral.kept ≤ 10 := by decide
  refine ⟨by decide, by decide, ?_⟩
  rw [ofToken?_text, if_neg fun h => hkept h.1]

end StackCalc.Operand
