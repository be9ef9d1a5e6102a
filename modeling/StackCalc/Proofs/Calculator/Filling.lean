import StackCalc.Proofs.Calculator.Numerals

/-!
# StackCalc.Proofs.Calculator.Filling — more operands than there is room for

Operands may be entered as numerals on a line, one after the other, or pushed all together.  On a
line each of them is taken by itself: the first ones fill the stack, and every one behind them is
reported, since a full stack stays full (`runTokens_decimals_filling`).  Pushed together, all of
them get in or none does.  So where there is too little room the two ways part, unless there was no
room to begin with (`runLine_decimals_push`).
-/

namespace StackCalc.Calculator

variable {c : Calculator} {ns : List Int}

/-! ### Numerals on a line -/

/-- On a full stack every numeral is reported, and nothing else happens. -/
theorem runTokens_decimals_of_full (verbose : Bool) (hns : ∀ n ∈ ns, InRange n)
    (hc : capacity ≤ c.stack.length) :
    c.runTokens verbose (ns.map Text.decimal) =
      ⟨c, List.replicate ns.length (.diagnostic .stackOverflow),
        if verbose then List.replicate ns.length .stackOverflow else []⟩ := by
  induction ns with
  | nil => cases verbose <;> rfl
  | cons n ns ih =>
    rw [List.forall_mem_cons] at hns
    have htake : c.take (Text.decimal n) = .failed c .stackOverflow := by
      rw [take_decimal hns.1]
      exact push_of_lt (Nat.lt_succ_of_le hc)
    have hrest : runTokens verbose (Outcome.failed c .stackOverflow).calculator
        (ns.map Text.decimal) = _ := ih hns.2
    rw [List.map_cons, runTokens, htake, hrest]
    cases verbose <;> rfl

/-- Numerals fill the room that there is; those behind find none. -/
theorem runTokens_decimals_filling (verbose : Bool) (hns : ∀ n ∈ ns, InRange n)
    (hc : c.stack.length ≤ capacity) :
    let room := capacity - c.stack.length
    c.runTokens verbose (ns.map Text.decimal) =
      ⟨{ c with stack := (ns.take room).reverse ++ c.stack },
        List.replicate (ns.length - room) (.diagnostic .stackOverflow),
        if verbose then List.replicate (ns.length - room) .stackOverflow else []⟩ := by
  intro room
  have hsplit : ns.map Text.decimal =
      (ns.take room).map Text.decimal ++ (ns.drop room).map Text.decimal := by
    rw [← List.map_append, List.take_append_drop]
  have hfits : c.stack.length + (ns.take room).length ≤ capacity := by
    rw [List.length_take]
    omega
  let filled : Calculator := { c with stack := (ns.take room).reverse ++ c.stack }
  have hfront : c.runTokens verbose ((ns.take room).map Text.decimal) = ⟨filled, [], []⟩ :=
    runTokens_decimals verbose (fun n hn => hns n (List.mem_of_mem_take hn)) hfits
  rw [hsplit, runTokens_append, hfront]
  -- either no operand is left over, or those that are meet a full stack
  by_cases hleft : ns.length ≤ room
  · rw [List.drop_of_length_le hleft, Nat.sub_eq_zero_of_le hleft]
    cases verbose <;> rfl
  · have hfull : capacity ≤ filled.stack.length := by
      rw [List.length_append, List.length_reverse, List.length_take]
      omega
    have hback : filled.runTokens verbose ((ns.drop room).map Text.decimal) = _ :=
      runTokens_decimals_of_full verbose (fun n hn => hns n (List.mem_of_mem_drop hn)) hfull
    simp only [hback, List.length_drop, List.nil_append]
    rfl

/-! ### On a line and together -/

/-- The operands that there is room for are what a push leaves, unless some room is left empty by a
push that fails. -/
theorem filled_eq_pushed_iff (hc : c.stack.length ≤ capacity) :
    (ns.take (capacity - c.stack.length)).reverse ++ c.stack = (c.push ns).calculator.stack ↔
      ns.length ≤ capacity - c.stack.length ∨ c.stack.length = capacity := by
  rcases push_cases c ns with ⟨hfits, heq⟩ | ⟨hover, heq⟩
  · have hall : ns.length ≤ capacity - c.stack.length := by omega
    rw [heq, List.take_of_length_le hall]
    exact iff_of_true rfl (.inl hall)
  · rw [heq]
    show _ = c.stack ↔ _
    rw [List.append_left_eq_self, List.reverse_eq_nil_iff, List.take_eq_nil_iff]
    constructor
    · rintro (hnone | rfl)
      · exact .inr (by omega)
      · exact .inl (Nat.zero_le _)
    · rintro (hall | hfull)
      · omega
      · exact .inl (by omega)

/-- **Operands on a line fill the stack and the rest is reported; pushed together, all get in or
none does.**  The two ways leave the same stack exactly where all operands fit or none does. -/
theorem runLine_decimals_push (hc : Reachable c) (verbose : Bool) (hns : ∀ n ∈ ns, InRange n) :
    let k := c.stack.length
    let entered := c.runLine verbose ([' '].intercalate (ns.map Text.decimal))
    let pushed := c.push ns
    entered.calculator =
        { c with stack := (ns.take (min ns.length (23 - k))).reverse ++ c.stack } ∧
      entered.out.map Report.text =
        List.replicate (ns.length - (23 - k)) "Stack overflow.".toList ∧
      pushed = (if k + ns.length ≤ 23 then .done { c with stack := ns.reverse ++ c.stack }
        else .failed c .stackOverflow) ∧
      (entered.calculator.stack = pushed.calculator.stack ↔ ns.length ≤ 23 - k ∨ k = 23) := by
  intro k entered pushed
  have hroom : k ≤ 23 := hc.sound.room
  have hentered := runTokens_decimals_filling verbose hns hroom
  rw [← Line.tokens_decimals ns] at hentered
  have hcalculator : entered.calculator =
      { c with stack := (ns.take (23 - k)).reverse ++ c.stack } :=
    congrArg Transcript.calculator hentered
  have hout : entered.out = List.replicate (ns.length - (23 - k)) (.diagnostic .stackOverflow) :=
    congrArg Transcript.out hentered
  refine ⟨?_, ?_, rfl, ?_⟩
  · rw [hcalculator, List.take_eq_take_min, Nat.min_comm]
  · rw [hout, List.map_replicate]
    rfl
  · rw [hcalculator]
    exact filled_eq_pushed_iff hroom

/-- With room for two, three operands: on a line the first two get in and one is reported, and a
push brings none. -/
theorem runLine_decimals_push_three :
    let c := (fresh.answer false (.push (List.replicate 21 7))).calculator
    Reachable c ∧ (∀ n ∈ [-2147483648, 5, 2147483647], InRange n) ∧
      (c.runLine true "-2147483648 5 2147483647".toList).calculator.stack =
        5 :: -2147483648 :: c.stack ∧
      (c.runLine true "-2147483648 5 2147483647".toList).out.map Report.text =
        ["Stack overflow.".toList] ∧
      c.push [-2147483648, 5, 2147483647] = .failed c .stackOverflow := by
  intro c
  have hc : Reachable c := Reachable.fresh.answer false (by
    intro n hn
    rw [List.eq_of_mem_replicate hn]
    decide)
  have hns : ∀ n ∈ [-2147483648, 5, 2147483647], InRange n := by decide
  obtain ⟨hcalculator, hout, hpushed, -⟩ := runLine_decimals_push hc true hns
  refine ⟨hc, hns, (congrArg stack hcalculator).trans (by decide), hout.trans (by decide),
    hpushed.trans (by decide)⟩

end StackCalc.Calculator
