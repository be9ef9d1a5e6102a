import StackCalc.Proofs.Calculator.Breakdowns

/-!
# StackCalc.Proofs.Calculator.Outcomes — what a token comes to, told in advance

Whether a token meets a fault, and which, can be told from the token and the stack without taking
it: `Calculator.Meets` says for each fault when that is.  No two faults are met at once, and a token
that meets none succeeds (`fault?_take_iff`).  Beside the faults there is nothing that could go
wrong.
-/

namespace StackCalc

/-! ## What a token means -/

namespace Meaning

variable {token : Text}

theorem ofToken?_operand_iff {n : Int} :
    ofToken? token = some (operand n) ↔ Operand.ofToken? token = some n := by
  unfold ofToken?
  cases Operand.ofToken? token with
  | some m => simp
  | none => simp

theorem ofToken?_instruction_iff {i : Instruction} :
    ofToken? token = some (instruction i) ↔ token = i.spelling := by
  constructor
  · intro h
    exact (spelling_of_ofToken? h).symm
  · rintro rfl
    exact ofToken?_spelling i

theorem ofToken?_none_iff :
    ofToken? token = none ↔
      Operand.ofToken? token = none ∧ Instruction.ofSpelling? token = none := by
  unfold ofToken?
  cases Operand.ofToken? token with
  | some m => simp
  | none => simp

end Meaning

namespace Calculator

variable {c : Calculator} {token : Text}

/-! ## Which fault a token meets -/

/-- When a token meets a fault. -/
def Meets (c : Calculator) (token : Text) : Fault → Prop
  | .unrecognised t =>
    t = token ∧ Operand.ofToken? token = none ∧ Instruction.ofSpelling? token = none
  | .stackOverflow =>
    ((∃ n, Operand.ofToken? token = some n) ∨ token = ['r']) ∧ c.stack.length = 23
  | .stackEmpty => token = ['='] ∧ c.stack = []
  | .stackUnderflow =>
    (∃ op : Operator, token = [op.symbol] ∨ token = [op.symbol, '=']) ∧ c.stack.length < 2
  | .divideByZero =>
    token ∈ [['/'], ['%'], ['/', '='], ['%', '=']] ∧ 2 ≤ c.stack.length ∧ c.stack.head? = some 0

/-! ### Faults of single steps -/

theorem fault?_push (c : Calculator) (operands : List Int) :
    (c.push operands).fault? =
      if c.stack.length + operands.length ≤ capacity then none else some .stackOverflow := by
  rcases push_cases c operands with ⟨hroom, heq⟩ | ⟨hfull, heq⟩
  · rw [heq, if_pos hroom]
    rfl
  · rw [heq, if_neg (Nat.not_le.2 hfull)]
    rfl

theorem fault?_draw (c : Calculator) :
    c.draw.fault? = if c.stack.length < capacity then none else some .stackOverflow := by
  rcases draw_cases c with ⟨hroom, heq⟩ | ⟨hfull, heq⟩
  · rw [heq, if_pos hroom]
    rfl
  · rw [heq, if_neg (Nat.not_lt.2 hfull)]
    rfl

theorem fault?_showTop (c : Calculator) :
    c.showTop.fault? = if c.stack = [] then some .stackEmpty else none := by
  rcases showTop_cases c with ⟨top, below, hstack, heq⟩ | ⟨hstack, heq⟩
  · rw [heq, hstack]
    rfl
  · rw [heq, if_pos hstack]
    rfl

theorem fault?_operate (hc : c.stack.length ≤ capacity) (op : Operator) (showing : Bool) :
    (c.operate op showing).fault? =
      if c.stack.length < 2 then some .stackUnderflow
      else if (op = .divide ∨ op = .modulo) ∧ c.stack.head? = some 0 then some .divideByZero
      else none := by
  rcases operate_cases hc op showing with ⟨hshort, heq⟩ |
    ⟨right, left, below, hstack, ⟨result, heval, heq⟩ | ⟨fault, heval, heq⟩⟩
  · rw [heq, if_pos hshort]
    rfl
  · have hlong : ¬ c.stack.length < 2 := by simp [hstack]
    have hnot : ¬ ((op = .divide ∨ op = .modulo) ∧ c.stack.head? = some 0) := by
      rintro ⟨hop, hhead⟩
      obtain rfl : right = 0 := by simpa [hstack] using hhead
      rw [Operator.eval_eq_error_iff.2 ⟨hop, rfl, rfl⟩] at heval
      cases heval
    rw [heq, if_neg hlong, if_neg hnot]
  · have hlong : ¬ c.stack.length < 2 := by simp [hstack]
    obtain ⟨hop, rfl, rfl⟩ := Operator.eval_eq_error_iff.1 heval
    have hhead : c.stack.head? = some 0 := by rw [hstack, List.head?_cons]
    rw [if_neg hlong, if_pos ⟨hop, hhead⟩, heq]

/-! ### Faults of tokens -/

/-- The spellings of the operators that divide. -/
theorem mem_divisions_iff :
    token ∈ [['/'], ['%'], ['/', '='], ['%', '=']] ↔
      ∃ op : Operator, (op = .divide ∨ op = .modulo) ∧
        (token = [op.symbol] ∨ token = [op.symbol, '=']) := by
  simp only [List.mem_cons, List.not_mem_nil, or_false]
  constructor
  · rintro (rfl | rfl | rfl | rfl)
    · exact ⟨.divide, .inl rfl, .inl rfl⟩
    · exact ⟨.modulo, .inr rfl, .inl rfl⟩
    · exact ⟨.divide, .inl rfl, .inr rfl⟩
    · exact ⟨.modulo, .inr rfl, .inr rfl⟩
  · rintro ⟨op, rfl | rfl, rfl | rfl⟩ <;> simp [Operator.symbol]

/-- The same conditions, by what the token means. -/
theorem meets_iff {fault : Fault} : c.Meets token fault ↔
    match fault with
    | .unrecognised t => t = token ∧ Meaning.ofToken? token = none
    | .stackOverflow =>
      ((∃ n, Meaning.ofToken? token = some (.operand n)) ∨
        Meaning.ofToken? token = some (.instruction .draw)) ∧ c.stack.length = 23
    | .stackEmpty => Meaning.ofToken? token = some (.instruction .showTop) ∧ c.stack = []
    | .stackUnderflow =>
      (∃ op, Meaning.ofToken? token = some (.instruction (.apply op)) ∨
        Meaning.ofToken? token = some (.instruction (.showApply op))) ∧ c.stack.length < 2
    | .divideByZero =>
      (∃ op, (op = .divide ∨ op = .modulo) ∧
        (Meaning.ofToken? token = some (.instruction (.apply op)) ∨
          Meaning.ofToken? token = some (.instruction (.showApply op)))) ∧
        2 ≤ c.stack.length ∧ c.stack.head? = some 0 := by
  cases fault <;>
    simp only [Meets, Meaning.ofToken?_none_iff, Meaning.ofToken?_operand_iff,
      Meaning.ofToken?_instruction_iff, mem_divisions_iff, Instruction.spelling]

section Kinds

variable {fault : Fault}

theorem meets_of_none (h : Meaning.ofToken? token = none) :
    c.Meets token fault ↔ fault = .unrecognised token := by
  rw [meets_iff, h]
  cases fault <;> simp

theorem meets_of_push (h : (∃ n, Meaning.ofToken? token = some (.operand n)) ∨
    Meaning.ofToken? token = some (.instruction .draw)) :
    c.Meets token fault ↔ fault = .stackOverflow ∧ c.stack.length = 23 := by
  rw [meets_iff]
  rcases h with ⟨n, h⟩ | h <;> rw [h] <;> cases fault <;> simp

theorem meets_of_showTop (h : Meaning.ofToken? token = some (.instruction .showTop)) :
    c.Meets token fault ↔ fault = .stackEmpty ∧ c.stack = [] := by
  rw [meets_iff, h]
  cases fault <;> simp

theorem meets_of_showAll (h : Meaning.ofToken? token = some (.instruction .showAll)) :
    ¬ c.Meets token fault := by
  rw [meets_iff, h]
  cases fault <;> simp

theorem meets_of_operator {op : Operator}
    (h : Meaning.ofToken? token = some (.instruction (.apply op)) ∨
      Meaning.ofToken? token = some (.instruction (.showApply op))) :
    c.Meets token fault ↔ fault = .stackUnderflow ∧ c.stack.length < 2 ∨
      fault = .divideByZero ∧ (op = .divide ∨ op = .modulo) ∧ 2 ≤ c.stack.length ∧
        c.stack.head? = some 0 := by
  rw [meets_iff]
  rcases h with h | h <;> rw [h] <;> cases fault <;> simp

end Kinds

theorem overflows_iff (hc : c.stack.length ≤ capacity) {fault : Fault} :
    (if c.stack.length + 1 ≤ capacity then none else some Fault.stackOverflow) = some fault ↔
      fault = .stackOverflow ∧ c.stack.length = 23 := by
  unfold capacity at hc ⊢
  split
  · next hroom =>
    have hne : c.stack.length ≠ 23 := by omega
    simp [hne]
  · next hfull =>
    have heq : c.stack.length = 23 := by omega
    simp [heq, eq_comm]

/-- An operator fails for lack of operands, or on a zero that it has to divide by. -/
theorem operate_fault_iff (hc : c.stack.length ≤ capacity) (op : Operator) (showing : Bool)
    {fault : Fault} : (c.operate op showing).fault? = some fault ↔
      fault = .stackUnderflow ∧ c.stack.length < 2 ∨
      fault = .divideByZero ∧ (op = .divide ∨ op = .modulo) ∧ 2 ≤ c.stack.length ∧
        c.stack.head? = some 0 := by
  rw [fault?_operate hc]
  split
  · next hshort =>
    have hnot : ¬ 2 ≤ c.stack.length := by omega
    simp [hshort, hnot, eq_comm]
  · next hlong =>
    have htwo : 2 ≤ c.stack.length := by omega
    split
    · next hzero => simp [hlong, htwo, hzero, eq_comm]
    · next hzero => simp [hlong, htwo, hzero]

/-- The fault that a token meets is the one that its step ends in. -/
theorem take_fault_iff (hc : c.Sound) (token : Text) {fault : Fault} :
    (c.take token).fault? = some fault ↔ c.Meets token fault := by
  unfold take
  cases hmeaning : Meaning.ofToken? token with
  | none =>
    rw [meets_of_none hmeaning]
    simp [Outcome.failed, eq_comm]
  | some meaning =>
    cases meaning with
    | operand n =>
      rw [meets_of_push (.inl ⟨n, hmeaning⟩)]
      show (c.push [n]).fault? = _ ↔ _
      rw [fault?_push]
      exact overflows_iff hc.room
    | instruction i =>
      show (c.follow i).fault? = _ ↔ _
      cases i with
      | showTop =>
        rw [meets_of_showTop hmeaning, follow, fault?_showTop]
        split
        · next hempty => simp [hempty, eq_comm]
        · next hne => simp [hne]
      | showAll =>
        refine iff_of_false ?_ (meets_of_showAll hmeaning)
        simp [follow, showAll]
      | draw =>
        rw [meets_of_push (.inr hmeaning), follow, fault?_draw]
        exact overflows_iff hc.room
      | apply op => rw [meets_of_operator (.inl hmeaning), follow, operate_fault_iff hc.room]
      | showApply op => rw [meets_of_operator (.inr hmeaning), follow, operate_fault_iff hc.room]

/-- **What a token comes to is determined**, on every calculator that requests can lead to.  It ends
in the fault that it meets; it succeeds if it meets none; and the operations that it is made of do
their work up to there, without one of them ever breaking down. -/
theorem fault?_take_iff (hc : Reachable c) (token : Text) :
    (∀ fault, (c.take token).fault? = some fault ↔ c.Meets token fault) ∧
    ((c.take token).fault? = none ↔ ∀ fault, ¬ c.Meets token fault) ∧
    Work.startedAt (Work.take token) ⟨c, []⟩ = (c.take token).ended ∧
    ∀ breakdown, (Work.startedAt (Work.take token) ⟨c, []⟩).1 ≠ .error (.breakdown breakdown) := by
  have hsound : c.Sound := hc.sound
  have hended := Work.startedAt_take hsound token
  have hmeets (fault : Fault) : (c.take token).fault? = some fault ↔ c.Meets token fault :=
    take_fault_iff hsound token
  refine ⟨hmeets, ?_, hended, ?_⟩
  · rw [Option.eq_none_iff_forall_ne_some]
    exact forall_congr' fun fault => not_congr (hmeets fault)
  · intro breakdown
    rw [hended, Outcome.ended]
    cases (c.take token).fault? <;> simp

/-- The same two operands: a remainder is refused once its divisor was shown, a sum is not. -/
theorem fault?_take_iff_remainder :
    let c := (Calculator.fresh.answer false (.push [7, 0])).calculator
    Reachable c ∧ (c.take ['%', '=']).fault? = some .divideByZero ∧
    Work.startedAt (Work.take ['%', '=']) ⟨c, []⟩ = (.error (.fault .divideByZero), ⟨c, [0]⟩) ∧
    (c.take ['+', '=']).fault? = none := by
  intro c
  have hc : Reachable c := Reachable.fresh.answer false
    (by simp [Request.PushesOperands, InRange, minOperand, maxOperand])
  obtain ⟨hfault, -, hended, -⟩ := fault?_take_iff hc ['%', '=']
  obtain ⟨-, hnone, -, -⟩ := fault?_take_iff hc ['+', '=']
  have hzero : c.Meets ['%', '='] .divideByZero := ⟨by decide, by decide, by decide⟩
  have hsum : Meaning.ofToken? ['+', '='] = some (.instruction (.showApply .add)) := rfl
  refine ⟨hc, (hfault _).2 hzero, by rw [hended]; rfl, hnone.2 fun fault => ?_⟩
  rw [meets_of_operator (.inr hsum)]
  rintro (⟨-, hshort⟩ | ⟨-, hop, -⟩)
  · exact absurd hshort (by decide)
  · exact absurd hop (by decide)

end Calculator

end StackCalc
