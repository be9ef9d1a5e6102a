import StackCalc.Proofs.Calculator.Reachable

/-!
# StackCalc.Proofs.Calculator.Faults — a step that ends in a fault undoes itself

A step that ends in a fault leaves stack and tape as they were.  Most such steps are refused before
they do anything; one kind gets as far as showing something, which cannot be undone: a quotient or
remainder that shows the top of the stack first has shown a zero by the time it fails.
-/

namespace StackCalc.Calculator

variable {c : Calculator} {fault : Fault}

/-! ### Faults of single steps -/

theorem push_of_fault {operands : List Int} (h : (c.push operands).fault? = some fault) :
    c.push operands = .failed c fault ∧ fault = .stackOverflow := by
  rcases push_cases c operands with ⟨-, heq⟩ | ⟨-, heq⟩
  · rw [heq] at h
    cases h
  · rw [heq] at h ⊢
    cases h
    exact ⟨rfl, rfl⟩

theorem draw_of_fault (h : c.draw.fault? = some fault) :
    c.draw = .failed c fault ∧ fault = .stackOverflow := by
  rcases draw_cases c with ⟨-, heq⟩ | ⟨-, heq⟩
  · rw [heq] at h
    cases h
  · rw [heq] at h ⊢
    cases h
    exact ⟨rfl, rfl⟩

theorem showTop_of_fault (h : c.showTop.fault? = some fault) :
    c.showTop = .failed c fault ∧ fault = .stackEmpty := by
  rcases showTop_cases c with ⟨top, below, -, heq⟩ | ⟨-, heq⟩
  · rw [heq] at h
    cases h
  · rw [heq] at h ⊢
    cases h
    exact ⟨rfl, rfl⟩

/-- An operator that fails was refused at once, or had shown the zero that it was to divide by. -/
theorem operate_of_fault (hc : c.stack.length ≤ capacity) {op : Operator} {showing : Bool}
    (h : (c.operate op showing).fault? = some fault) :
    (c.operate op showing = .failed c fault ∧ (fault = .divideByZero → showing = false)) ∨
    (c.operate op showing = ⟨c, [0], some fault⟩ ∧ fault = .divideByZero ∧ showing = true ∧
      (op = .divide ∨ op = .modulo) ∧ c.stack.head? = some 0) := by
  rcases operate_cases hc op showing with ⟨-, heq⟩ |
    ⟨right, left, below, hstack, ⟨result, -, heq⟩ | ⟨fault', heval, heq⟩⟩
  · rw [heq] at h ⊢
    cases h
    exact .inl ⟨rfl, fun hzero => by cases hzero⟩
  · rw [heq] at h
    cases h
  · rw [heq] at h ⊢
    cases h
    obtain ⟨hop, rfl, rfl⟩ := Operator.eval_eq_error_iff.1 heval
    cases showing with
    | false => exact .inl ⟨rfl, fun _ => rfl⟩
    | true => exact .inr ⟨rfl, rfl, rfl, hop, by rw [hstack, List.head?_cons]⟩

/-! ### Faults of tokens -/

/-- The token asks for a quotient or a remainder and to be shown the top of the stack first. -/
def ShowsDivisor (token : Text) : Prop := token = ['/', '='] ∨ token = ['%', '=']

theorem showsDivisor_spelling (op : Operator) (hop : op = .divide ∨ op = .modulo) :
    ShowsDivisor (Instruction.showApply op).spelling := by
  rcases hop with rfl | rfl
  · exact .inl rfl
  · exact .inr rfl

theorem not_showsDivisor_singleton (ch : Char) : ¬ ShowsDivisor [ch] := by
  rintro (h | h) <;> cases h

/-- A token that fails was refused at once, or had shown the zero that it was to divide by. -/
theorem take_of_fault (hc : c.stack.length ≤ capacity) {token : Text}
    (h : (c.take token).fault? = some fault) :
    (c.take token = .failed c fault ∧ (fault = .divideByZero → ¬ ShowsDivisor token)) ∨
    (c.take token = ⟨c, [0], some fault⟩ ∧ fault = .divideByZero ∧ ShowsDivisor token ∧
      c.stack.head? = some 0) := by
  rcases take_cases c token with ⟨n, -, heq⟩ | ⟨i, rfl, heq⟩ | ⟨-, heq⟩
  · rw [heq] at h ⊢
    obtain ⟨hfailed, rfl⟩ := push_of_fault h
    exact .inl ⟨hfailed, fun hzero => by cases hzero⟩
  · rw [heq] at h ⊢
    cases i with
    | showTop => exact .inl ⟨(showTop_of_fault h).1, fun _ => not_showsDivisor_singleton _⟩
    | showAll => cases h
    | draw => exact .inl ⟨(draw_of_fault h).1, fun _ => not_showsDivisor_singleton _⟩
    | apply op =>
      rcases operate_of_fault hc h with ⟨hfailed, -⟩ | ⟨-, -, hshowing, -⟩
      · exact .inl ⟨hfailed, fun _ => not_showsDivisor_singleton _⟩
      · cases hshowing
    | showApply op =>
      rcases operate_of_fault hc h with ⟨hfailed, hshowing⟩ | ⟨hshown, hzero, -, hop, hhead⟩
      · exact .inl ⟨hfailed, fun hzero => by cases hshowing hzero⟩
      · exact .inr ⟨hshown, hzero, showsDivisor_spelling op hop, hhead⟩
  · rw [heq] at h ⊢
    cases h
    exact .inl ⟨rfl, fun hzero => by cases hzero⟩

/-! ### Faults of requests -/

/-- **A request that ends in a fault leaves the calculator as it was**, and shows nothing, but for a
quotient or remainder that had to show its zero divisor first.  Lines report their faults and never
end in one. -/
theorem answer_of_fault (hc : Reachable c) (verbose : Bool) (request : Request)
    (h : (c.answer verbose request).fault? = some fault) :
    (∀ text, request ≠ .line text) ∧ (c.answer verbose request).calculator = c ∧
    ((∃ token, request = .token token ∧ ShowsDivisor token) ∧
        fault = .divideByZero →
      c.stack.head? = some 0 ∧ (c.answer verbose request).out = [.value 0]) ∧
    (¬ ((∃ token, request = .token token ∧ ShowsDivisor token) ∧
        fault = .divideByZero) →
      (c.answer verbose request).out = []) := by
  have hroom := hc.sound.room
  cases request with
  | line text => cases h
  | token token =>
    refine ⟨by simp, ?_⟩
    rcases take_of_fault hroom h with ⟨heq, hplain⟩ | ⟨heq, hzero, hshows, hhead⟩
    · rw [answer, heq]
      refine ⟨rfl, ?_, fun _ => rfl⟩
      rintro ⟨⟨_, ⟨⟩, hshows⟩, hzero⟩
      exact absurd hshows (hplain hzero)
    · rw [answer, heq]
      exact ⟨rfl, fun _ => ⟨hhead, rfl⟩, fun hnot => absurd ⟨⟨token, rfl, hshows⟩, hzero⟩ hnot⟩
  | classify token => cases h
  | push operands =>
    rw [answer, (push_of_fault h).1]
    exact ⟨by simp, rfl, by simp, fun _ => rfl⟩
  | showTop =>
    rw [answer, (showTop_of_fault h).1]
    exact ⟨by simp, rfl, by simp, fun _ => rfl⟩
  | showAll => cases h
  | draw =>
    rw [answer, (draw_of_fault h).1]
    exact ⟨by simp, rfl, by simp, fun _ => rfl⟩

/-- Five divided by zero, the divisor shown first: the zero is all that comes of it. -/
theorem answer_of_fault_quotient :
    let c := (Calculator.fresh.answer false (.push [5, 0])).calculator
    Reachable c ∧ (c.answer false (.token ['/', '='])).fault? = some .divideByZero ∧
      (c.answer false (.token ['/', '='])).calculator = c ∧
      (c.answer false (.token ['/', '='])).out = [.value 0] := by
  intro c
  have hc : Reachable c := Reachable.fresh.answer false
    (by simp [Request.PushesOperands, InRange, minOperand, maxOperand])
  have hfault : (c.answer false (.token ['/', '='])).fault? = some .divideByZero := by decide
  obtain ⟨-, hsame, hshown, -⟩ := answer_of_fault hc false (.token ['/', '=']) hfault
  exact ⟨hc, hfault, hsame, (hshown ⟨⟨_, rfl, .inl rfl⟩, rfl⟩).2⟩

end StackCalc.Calculator
