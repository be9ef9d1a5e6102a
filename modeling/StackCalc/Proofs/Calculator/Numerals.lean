import Mathlib.Data.Option.Basic
import StackCalc.Proofs.Calculator.Reachable
import StackCalc.Proofs.Line.Rendering
import StackCalc.Proofs.Numeral

/-!
# StackCalc.Proofs.Calculator.Numerals — operands shown and entered again

A line of numerals pushes the operands that they spell, one after the other (`runTokens_decimals`).
What `d` shows is such numerals, the top of the stack first: read from the bottom up and entered on
a fresh calculator they come to the same stack.  So the shown lines tell stacks apart, with one
exception, which is the empty stack: it shows as the smallest operand (`display_entered`).
-/

namespace StackCalc

namespace Line

/-! ### Lines of numerals -/

theorem normal_decimals (ns : List Int) : Normal (ns.map Text.decimal) := by
  refine normal_of_plain (fun w hw => ?_) fun c hc => ?_
  · obtain ⟨n, -, rfl⟩ := List.mem_map.1 hw
    exact wellFormed_decimal n
  · obtain ⟨w, hw, hc⟩ := List.mem_flatten.1 hc
    obtain ⟨n, -, rfl⟩ := List.mem_map.1 hw
    obtain ⟨hedge, -, -, -, hmark⟩ := plain_of_mem_decimal hc
    exact ⟨hedge, hmark⟩

theorem tokens_decimals (ns : List Int) :
    tokens ([' '].intercalate (ns.map Text.decimal)) = ns.map Text.decimal :=
  tokens_intercalate (normal_decimals ns)

end Line

/-- Operands are told apart by their numerals. -/
theorem Operand.map_decimal_inj {ns ms : List Int} (hns : ∀ n ∈ ns, InRange n)
    (hms : ∀ n ∈ ms, InRange n) : ns.map Text.decimal = ms.map Text.decimal ↔ ns = ms := by
  have hread : ∀ ks : List Int, (∀ n ∈ ks, InRange n) →
      (ks.map Text.decimal).map ofToken? = ks.map some := by
    intro ks hks
    rw [List.map_map]
    exact List.map_congr_left fun n hn => ofToken?_decimal (hks n hn)
  constructor
  · intro h
    have hsome : ns.map some = ms.map some := by rw [← hread ns hns, h, hread ms hms]
    exact List.map_injective_iff.2 (Option.some_injective Int) hsome
  · rintro rfl
    rfl

namespace Calculator

variable {c c' : Calculator}

/-! ### Operands entered -/

theorem take_decimal {n : Int} (hn : InRange n) (c : Calculator) :
    c.take (Text.decimal n) = c.push [n] := by
  rw [take, Meaning.ofToken?_of_operand (Operand.ofToken?_decimal hn)]

/-- Where there is room, numerals push their operands and do nothing else. -/
theorem runTokens_decimals (verbose : Bool) {ns : List Int} (hns : ∀ n ∈ ns, InRange n)
    (hc : c.stack.length + ns.length ≤ capacity) :
    c.runTokens verbose (ns.map Text.decimal) =
      ⟨{ c with stack := ns.reverse ++ c.stack }, [], []⟩ := by
  induction ns generalizing c with
  | nil => rfl
  | cons n ns ih =>
    rw [List.forall_mem_cons] at hns
    rw [List.length_cons] at hc
    have htake : c.take (Text.decimal n) = .done { c with stack := n :: c.stack } := by
      rw [take_decimal hns.1]
      exact push_of_le (by rw [List.length_singleton]; omega)
    have hrest := ih (c := { c with stack := n :: c.stack }) hns.2
      (by rw [List.length_cons]; omega)
    rw [List.map_cons, runTokens, htake]
    simp only [Outcome.done, hrest]
    simp [Outcome.reports, Outcome.traced]

/-! ### Operands shown -/

/-- The lines that `d` puts out. -/
def display (verbose : Bool) (c : Calculator) : List Text :=
  (c.runLine verbose ['d']).out.map Report.text

theorem display_eq (verbose : Bool) (c : Calculator) :
    c.display verbose = (if c.stack = [] then [minOperand] else c.stack).map Text.decimal := by
  have htokens : Line.tokens ['d'] = [['d']] := by decide
  have htake : c.take ['d'] = c.showAll := rfl
  rw [display, runLine, htokens, out_runTokens, outcomes, outcomes, htake, List.flatMap_singleton]
  simp [showAll, Outcome.reports, Function.comp_def, Report.text]

/-- **What `d` shows can be entered again.**  From the bottom up and on one line, the shown lines
put out nothing and come to the same stack on a fresh calculator.  They tell the stacks of two
calculators apart, but for the empty stack and that of the smallest operand alone. -/
theorem display_entered (hc : Reachable c) (hc' : Reachable c') (verbose : Bool) :
    (c.stack ≠ [] →
      fresh.runLine verbose ([' '].intercalate (c.display verbose).reverse) =
        ⟨{ fresh with stack := c.stack }, [], []⟩) ∧
    (c.display verbose = c'.display verbose ↔
      c.stack = c'.stack ∨ c.stack = [] ∧ c'.stack = [-2147483648] ∨
        c.stack = [-2147483648] ∧ c'.stack = []) := by
  have hrange : ∀ {b : Calculator}, Reachable b →
      ∀ n ∈ (if b.stack = [] then [minOperand] else b.stack), InRange n := by
    intro b hb n hn
    split at hn
    · rw [List.mem_singleton.1 hn]
      exact inRange_minOperand
    · exact hb.sound.operands n hn
  constructor
  · intro hne
    have hns : ∀ n ∈ c.stack.reverse, InRange n := fun n hn =>
      hc.sound.operands n (List.mem_reverse.1 hn)
    have hroom : fresh.stack.length + c.stack.reverse.length ≤ capacity := by
      rw [List.length_reverse]
      exact (Nat.zero_add _).le.trans hc.sound.room
    rw [display_eq, if_neg hne, ← List.map_reverse, runLine, Line.tokens_decimals,
      runTokens_decimals verbose hns hroom]
    simp [fresh]
  · rw [display_eq, display_eq, Operand.map_decimal_inj (hrange hc) (hrange hc')]
    by_cases hnil : c.stack = [] <;> by_cases hnil' : c'.stack = []
    · simp [hnil, hnil']
    · rw [if_pos hnil, if_neg hnil', hnil]
      simp [minOperand, eq_comm, hnil']
    · rw [if_neg hnil, if_pos hnil', hnil']
      simp [minOperand, hnil]
    · simp [hnil, hnil']

/-- The numerals of the two ends of the range are entered again, and the smaller one alone shows
like nothing at all. -/
theorem display_entered_ends :
    let c := (fresh.answer false (.push [7, 2147483647, -2147483648])).calculator
    let c' := (fresh.answer false (.push [-2147483648])).calculator
    Reachable c ∧ Reachable c' ∧
    fresh.runLine false ([' '].intercalate (c.display false).reverse) =
      ⟨{ fresh with stack := [-2147483648, 2147483647, 7] }, [], []⟩ ∧
    c.display false ≠ c'.display false ∧ c'.display false = fresh.display false := by
  intro c c'
  have hc : Reachable c := Reachable.fresh.answer false
    (by simp [Request.PushesOperands, InRange, minOperand, maxOperand])
  have hc' : Reachable c' := Reachable.fresh.answer false
    (by simp [Request.PushesOperands, InRange, minOperand, maxOperand])
  obtain ⟨hentered, hdisplay⟩ := display_entered hc hc' false
  refine ⟨hc, hc', hentered (by decide), fun h => ?_, ?_⟩
  · have hstacks := hdisplay.1 h
    revert hstacks
    decide
  · exact (display_entered hc' Reachable.fresh false).2.2 (.inr (.inr ⟨by decide, rfl⟩))

end Calculator

end StackCalc
