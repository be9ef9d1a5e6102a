import StackCalc.Proofs.Calculator.Steps
import StackCalc.Proofs.Calculator.Turns

/-!
# StackCalc.Proofs.Calculator.Frame — what lies below plays no part

Operands may lie below the ones that a run works on.  As long as the run never reaches down to them
and never finds the stack full because of them, it goes as it would without them: every step shows
the same values and meets the same fault, and at the end they lie where they lay.  `d` is the one
token that looks all the way down.

One lemma for each step says so, `outcomes_above` for all steps of a run; what a run puts out and
where it ends is read off its outcomes.
-/

namespace StackCalc

/-! ## Operands put below -/

/-- A calculator with more operands below those that it holds. -/
def Calculator.above (c : Calculator) (below : List Int) : Calculator :=
  { c with stack := c.stack ++ below }

/-- The outcome of a step with more operands below. -/
def Outcome.above (o : Outcome) (below : List Int) : Outcome :=
  { o with calculator := o.calculator.above below }

namespace Calculator

variable {c : Calculator} {below : List Int}

@[simp] theorem stack_above (c : Calculator) (below : List Int) :
    (c.above below).stack = c.stack ++ below := rfl

@[simp] theorem tape_above (c : Calculator) (below : List Int) :
    (c.above below).tape = c.tape := rfl

/-! ### Single steps -/

/-- Where the taller stack has room, so has the shorter one. -/
theorem push_above {operands : List Int}
    (h : ((c.above below).push operands).fault? ≠ some .stackOverflow) :
    (c.above below).push operands = (c.push operands).above below := by
  rcases push_cases (c.above below) operands with ⟨hroom, heq⟩ | ⟨-, heq⟩
  · have hshort : c.stack.length + operands.length ≤ capacity := by
      rw [stack_above, List.length_append] at hroom
      omega
    rw [heq, push_of_le hshort]
    show Outcome.done ⟨operands.reverse ++ (c.stack ++ below), c.tape⟩ =
      .done ⟨operands.reverse ++ c.stack ++ below, c.tape⟩
    rw [List.append_assoc]
  · rw [heq] at h
    exact absurd rfl h

theorem draw_above (h : (c.above below).draw.fault? ≠ some .stackOverflow) :
    (c.above below).draw = c.draw.above below := by
  rcases draw_cases (c.above below) with ⟨hroom, heq⟩ | ⟨-, heq⟩
  · rcases draw_cases c with ⟨-, hshort⟩ | ⟨hfull, -⟩
    · rw [heq, hshort]
      rfl
    · rw [stack_above, List.length_append] at hroom
      omega
  · rw [heq] at h
    exact absurd rfl h

theorem showTop_above (h : c.showTop.fault? ≠ some .stackEmpty) :
    (c.above below).showTop = c.showTop.above below := by
  rcases showTop_cases c with ⟨top, rest, hstack, heq⟩ | ⟨-, heq⟩
  · rw [heq, showTop, stack_above, hstack]
    rfl
  · rw [heq] at h
    exact absurd rfl h

/-- An operator with two operands of its own to take.  Nothing is asked of the room: the push of
the result, or the pushes that put the operands back, are pushes on a taller stack again. -/
theorem operate_above {op : Operator} {showing : Bool}
    (hshort : (c.operate op showing).fault? ≠ some .stackUnderflow)
    (htall : ((c.above below).operate op showing).fault? ≠ some .stackOverflow) :
    (c.above below).operate op showing = (c.operate op showing).above below := by
  match hstack : c.stack with
  | [] =>
    rw [operate, hstack] at hshort
    exact absurd rfl hshort
  | [_] =>
    rw [operate, hstack] at hshort
    exact absurd rfl hshort
  | right :: left :: rest =>
    have hrest : { c.above below with stack := rest ++ below } =
      above { c with stack := rest } below := rfl
    rw [operate, stack_above, hstack] at htall ⊢
    rw [operate, hstack]
    simp only [List.cons_append, hrest] at htall ⊢
    cases heval : op.eval left right with
    | ok result =>
      rw [heval] at htall
      have hpush : (above { c with stack := rest } below).push [result] =
          (push { c with stack := rest } [result]).above below := push_above htall
      simp only [hpush]
      rfl
    | error fault =>
      rw [heval] at htall
      -- operands that cannot be put back would make this an overflow of the taller stack
      have hroom : ((above { c with stack := rest } below).push [left, right]).fault? ≠
          some .stackOverflow := by
        intro hover
        refine htall ?_
        show (Option.or _ (some fault)) = some .stackOverflow
        rw [hover]
        rfl
      simp only [push_above hroom]
      rfl

/-- A token other than `d`. -/
theorem take_above {token : Text} (hd : token ≠ ['d'])
    (hempty : (c.take token).fault? ≠ some .stackEmpty)
    (hunder : (c.take token).fault? ≠ some .stackUnderflow)
    (hover : ((c.above below).take token).fault? ≠ some .stackOverflow) :
    (c.above below).take token = (c.take token).above below := by
  unfold take at *
  cases hmeaning : Meaning.ofToken? token with
  | none => rfl
  | some meaning =>
    rw [hmeaning] at hempty hunder hover
    cases meaning with
    | operand n => exact push_above hover
    | instruction i =>
      cases i with
      | showTop => exact showTop_above hempty
      | showAll => exact absurd (Meaning.spelling_of_ofToken? hmeaning).symm hd
      | draw => exact draw_above hover
      | apply op => exact operate_above hunder hover
      | showApply op => exact operate_above hunder hover

/-! ### Runs -/

/-- A run meets the same outcomes on the taller stack, one token after the other. -/
theorem outcomes_above {ts : List Text} (hd : ['d'] ∉ ts)
    (hshort : ∀ o ∈ c.outcomes ts, o.fault? ≠ some .stackEmpty ∧ o.fault? ≠ some .stackUnderflow)
    (htall : ∀ o ∈ (c.above below).outcomes ts, o.fault? ≠ some .stackOverflow) :
    (c.above below).outcomes ts = (c.outcomes ts).map (·.above below) := by
  induction ts generalizing c with
  | nil => rfl
  | cons token rest ih =>
    rw [List.mem_cons, not_or] at hd
    rw [outcomes, List.forall_mem_cons] at hshort htall
    obtain ⟨⟨hempty, hunder⟩, hshort⟩ := hshort
    have htake := take_above (Ne.symm hd.1) hempty hunder htall.1
    -- the rest of the taller run starts from the rest of the shorter one, put above again
    have hnext : ((c.above below).take token).calculator =
        (c.take token).calculator.above below := by
      rw [htake]
      rfl
    rw [hnext] at htall
    rw [outcomes, outcomes, List.map_cons, hnext, htake, ih hd.2 hshort htall.2]

/-- **What lies below plays no part in a run** without `d` that never reaches down to it and never
finds the stack full: the run shows the same values, meets the same faults at the same tokens, puts
out the same lines, leaves the tape at the same place and what lay below where it was. -/
theorem runTokens_above_below (verbose : Bool) (own below : List Int) (tape : RandomTape)
    (ts : List Text) (hd : ['d'] ∉ ts)
    (hown : ∀ o ∈ outcomes ⟨own, tape⟩ ts,
      o.fault? ≠ some .stackEmpty ∧ o.fault? ≠ some .stackUnderflow)
    (hroom : ∀ o ∈ outcomes ⟨own ++ below, tape⟩ ts, o.fault? ≠ some .stackOverflow) :
    let alone := runTokens verbose ⟨own, tape⟩ ts
    let tall := runTokens verbose ⟨own ++ below, tape⟩ ts
    (outcomes ⟨own ++ below, tape⟩ ts).map (fun o => (o.shown, o.fault?)) =
      (outcomes ⟨own, tape⟩ ts).map (fun o => (o.shown, o.fault?)) ∧
    tall.out = alone.out ∧ tall.err = alone.err ∧
    tall.calculator.tape.cursor = alone.calculator.tape.cursor ∧
    tall.calculator.stack = alone.calculator.stack ++ below := by
  intro alone tall
  have houtcomes : outcomes ⟨own ++ below, tape⟩ ts =
      (outcomes ⟨own, tape⟩ ts).map (·.above below) :=
    outcomes_above (c := ⟨own, tape⟩) hd hown hroom
  have hend : tall.calculator = alone.calculator.above below := by
    rw [calculator_runTokens, calculator_runTokens, houtcomes, List.getLast?_map]
    cases (outcomes ⟨own, tape⟩ ts).getLast? <;> rfl
  refine ⟨?_, ?_, ?_, ?_, ?_⟩
  · rw [houtcomes, List.map_map]
    rfl
  · rw [out_runTokens, out_runTokens, houtcomes, List.flatMap_map]
    rfl
  · rw [err_runTokens, err_runTokens, houtcomes, List.flatMap_map]
    rfl
  · rw [hend, tape_above]
  · rw [hend, stack_above]

/-- A division by zero that puts its operands back, a token that is unknown and a number drawn, all
above two operands that are never reached. -/
theorem runTokens_above_below_restored :
    let ts : List Text := [['0'], ['/', '='], ['x'], ['+'], ['r'], ['-', '=']]
    ['d'] ∉ ts ∧
    (∀ o ∈ outcomes ⟨[7], .start⟩ ts,
      o.fault? ≠ some .stackEmpty ∧ o.fault? ≠ some .stackUnderflow) ∧
    (∀ o ∈ outcomes ⟨[7, 9, 8], .start⟩ ts, o.fault? ≠ some .stackOverflow) ∧
    (runTokens true ⟨[7, 9, 8], .start⟩ ts).calculator.stack =
      (runTokens true ⟨[7], .start⟩ ts).calculator.stack ++ [9, 8] := by
  intro ts
  have hd : ['d'] ∉ ts := by decide
  have hown : ∀ o ∈ outcomes ⟨[7], .start⟩ ts,
      o.fault? ≠ some .stackEmpty ∧ o.fault? ≠ some .stackUnderflow := by decide
  have hroom : ∀ o ∈ outcomes ⟨[7, 9, 8], .start⟩ ts, o.fault? ≠ some .stackOverflow := by decide
  obtain ⟨-, -, -, -, hstack⟩ := runTokens_above_below true [7] [9, 8] .start ts hd hown hroom
  exact ⟨hd, hown, hroom, hstack⟩

end Calculator

end StackCalc
