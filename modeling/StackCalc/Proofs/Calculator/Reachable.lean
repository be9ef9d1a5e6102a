import StackCalc.Proofs.Calculator.Steps

/-!
# StackCalc.Proofs.Calculator.Reachable — what requests can lead to

`Reachable` collects the calculators that any requests lead to from a fresh one, as long as pushes
bring operands only.  All of them are `Sound`: at most 23 operands, each in range, and the tape at
one of its 22 numbers.  Every step keeps all three parts, whether or not it ends in a fault; runs
keep them by induction over their tokens, and so do requests.
-/

namespace StackCalc

/-! ## Sound calculators -/

/-- What holds of a calculator at all times. -/
structure Calculator.Sound (c : Calculator) : Prop where
  room : c.stack.length ≤ capacity
  operands : ∀ n ∈ c.stack, InRange n
  cursor : c.tape.cursor < RandomTape.numbers.length

theorem RandomTape.inRange_value (tape : RandomTape) : InRange tape.value := by
  have hnumbers : ∀ n ∈ numbers, InRange n := by decide
  rw [value, List.getD_eq_getElem?_getD]
  cases h : numbers[tape.cursor]? with
  | none => decide
  | some n => exact hnumbers n (List.mem_of_getElem? h)

namespace Calculator.Sound

variable {c : Calculator}

theorem fresh : Sound Calculator.fresh := ⟨by decide, by simp [Calculator.fresh], by decide⟩

/-! ### Steps keep a calculator sound -/

theorem push (hc : c.Sound) {operands : List Int} (h : ∀ n ∈ operands, InRange n) :
    (c.push operands).calculator.Sound := by
  rcases push_cases c operands with ⟨hroom, heq⟩ | ⟨-, heq⟩
  · rw [heq]
    refine ⟨?_, ?_, hc.cursor⟩
    · show (operands.reverse ++ c.stack).length ≤ capacity
      rw [List.length_append, List.length_reverse]
      omega
    · intro n hn
      rcases List.mem_append.1 hn with hn | hn
      · exact h n (List.mem_reverse.1 hn)
      · exact hc.operands n hn
  · rw [heq]
    exact hc

theorem draw (hc : c.Sound) : c.draw.calculator.Sound := by
  rcases draw_cases c with ⟨hroom, heq⟩ | ⟨-, heq⟩
  · rw [heq]
    refine ⟨hroom, ?_, RandomTape.cursor_advance_lt _⟩
    intro n hn
    rcases List.mem_cons.1 hn with rfl | hn
    · exact RandomTape.inRange_value _
    · exact hc.operands n hn
  · rw [heq]
    exact hc

theorem showTop (hc : c.Sound) : c.showTop.calculator.Sound := by
  rcases showTop_cases c with ⟨top, below, -, heq⟩ | ⟨-, heq⟩
  · rw [heq]
    exact hc
  · rw [heq]
    exact hc

theorem operate (hc : c.Sound) (op : Operator) (showing : Bool) :
    (c.operate op showing).calculator.Sound := by
  rcases operate_cases hc.room op showing with ⟨-, heq⟩ |
    ⟨right, left, below, hstack, ⟨result, heval, heq⟩ | ⟨fault, -, heq⟩⟩
  · rw [heq]
    exact hc
  · have hroom := hc.room
    have hright : InRange right := hc.operands right (by simp [hstack])
    have hleft : InRange left := hc.operands left (by simp [hstack])
    rw [heq]
    refine ⟨?_, ?_, hc.cursor⟩
    · rw [hstack] at hroom
      exact Nat.le_of_succ_le hroom
    · intro n hn
      rcases List.mem_cons.1 hn with rfl | hn
      · exact Operator.inRange_eval hleft hright heval
      · exact hc.operands n (by simp [hstack, hn])
  · rw [heq]
    exact hc

theorem follow (hc : c.Sound) (i : Instruction) : (c.follow i).calculator.Sound := by
  cases i with
  | showTop => exact hc.showTop
  | showAll => exact hc
  | draw => exact hc.draw
  | apply op => exact hc.operate op false
  | showApply op => exact hc.operate op true

theorem take (hc : c.Sound) (token : Text) : (c.take token).calculator.Sound := by
  rcases take_cases c token with ⟨n, hn, heq⟩ | ⟨i, -, heq⟩ | ⟨-, heq⟩
  · rw [heq]
    refine hc.push fun m hm => ?_
    rw [List.mem_singleton.1 hm]
    exact Operand.inRange_of_ofToken? hn
  · rw [heq]
    exact hc.follow i
  · rw [heq]
    exact hc

/-! ### Runs and requests keep a calculator sound -/

theorem runTokens (hc : c.Sound) (verbose : Bool) (ts : List Text) :
    (c.runTokens verbose ts).calculator.Sound := by
  induction ts generalizing c with
  | nil => exact hc
  | cons token rest ih => exact ih (hc.take token)

end Calculator.Sound

/-- A request that pushes operands, if it pushes anything itself. -/
def Request.PushesOperands : Request → Prop
  | .push operands => ∀ n ∈ operands, InRange n
  | _ => True

theorem Calculator.Sound.answer {c : Calculator} (hc : c.Sound) (verbose : Bool)
    {request : Request} (h : request.PushesOperands) :
    (c.answer verbose request).calculator.Sound := by
  cases request with
  | line text => exact hc.runTokens verbose _
  | token token => exact hc.take token
  | classify token => exact hc
  | push operands => exact hc.push h
  | showTop => exact hc.showTop
  | showAll => exact hc
  | draw => exact hc.draw

/-! ## Reachable calculators -/

/-- The calculators that requests lead to from a fresh one. -/
inductive Calculator.Reachable : Calculator → Prop
  | fresh : Reachable .fresh
  | answer {c : Calculator} (hc : Reachable c) (verbose : Bool) {request : Request}
      (h : request.PushesOperands) : Reachable (c.answer verbose request).calculator

namespace Calculator

theorem Reachable.sound {c : Calculator} (hc : Reachable c) : c.Sound := by
  induction hc with
  | fresh => exact Sound.fresh
  | answer _ verbose h ih => exact ih.answer verbose h

theorem Reachable.afterAll {c : Calculator} (hc : Reachable c) (verbose : Bool)
    {requests : List Request} (h : ∀ request ∈ requests, request.PushesOperands) :
    Reachable (c.afterAll verbose requests) := by
  induction requests generalizing c with
  | nil => exact hc
  | cons request rest ih =>
    exact ih (hc.answer verbose (h request (by simp))) fun r hr => h r (by simp [hr])

theorem operate_ne_stackOverflow {c : Calculator} (hc : c.stack.length ≤ capacity) (op : Operator)
    (showing : Bool) : (c.operate op showing).fault? ≠ some .stackOverflow := by
  rcases operate_cases hc op showing with ⟨-, heq⟩ |
    ⟨right, left, below, -, ⟨result, -, heq⟩ | ⟨fault, heval, heq⟩⟩
  · rw [heq]
    simp [Outcome.failed]
  · rw [heq]
    simp
  · obtain ⟨-, -, rfl⟩ := Operator.eval_eq_error_iff.1 heval
    rw [heq]
    simp

/-- **What holds after any requests**, in any order and with any faults among them: at most 23
operands, each in range, and the tape at one of its 22 numbers.  So an operator always finds room
for its result, and for its operands where it has to put them back. -/
theorem sound_afterAll (verbose : Bool) (requests : List Request)
    (h : ∀ request ∈ requests, request.PushesOperands) :
    let c := Calculator.fresh.afterAll verbose requests
    (c.stack.length ≤ 23 ∧ (∀ n ∈ c.stack, InRange n) ∧ c.tape.cursor < 22) ∧
    (∀ right left below, c.stack = right :: left :: below →
      (∀ result, push { c with stack := below } [result] =
        .done { c with stack := result :: below }) ∧
      push { c with stack := below } [left, right] = .done c) ∧
    ∀ op showing, (c.operate op showing).fault? ≠ some .stackOverflow := by
  intro c
  have hc : c.Sound := (Reachable.fresh.afterAll verbose h).sound
  refine ⟨⟨hc.room, hc.operands, hc.cursor⟩, fun right left below hstack => ⟨?_, ?_⟩, ?_⟩
  · exact push_result hc.room hstack
  · exact push_back hc.room hstack
  · exact operate_ne_stackOverflow hc.room

/-- Operands that are pushed, put back after a division by zero, added to and drawn leave room for a
division. -/
theorem sound_afterAll_quotient :
    (∀ request ∈ [Request.push [7, 0], .token ['/'], .line ['r', '+'], .draw],
      request.PushesOperands) ∧
    ((Calculator.fresh.afterAll false
      [Request.push [7, 0], .token ['/'], .line ['r', '+'], .draw]).operate .divide true).fault? ≠
        some .stackOverflow := by
  have h : ∀ request ∈ [Request.push [7, 0], .token ['/'], .line ['r', '+'], .draw],
      request.PushesOperands := by
    simp [Request.PushesOperands, InRange, minOperand, maxOperand]
  exact ⟨h, (sound_afterAll false _ h).2.2 .divide true⟩

end Calculator

end StackCalc
