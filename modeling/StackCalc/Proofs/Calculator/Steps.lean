import StackCalc.Calculator.Request
import StackCalc.Proofs.Operator.Range

/-!
# StackCalc.Proofs.Calculator.Steps — what a step can come to

Each step on a calculator with no more operands than it can hold comes to one of a few outcomes.
They are listed here, step by step, together with the guard under which each occurs; what is proved
about runs and faults later reads these lists and not the definitions of the steps.
-/

namespace StackCalc.Calculator

variable {c : Calculator}

/-! ### Steps that push -/

theorem push_cases (c : Calculator) (operands : List Int) :
    (c.stack.length + operands.length ≤ capacity ∧
      c.push operands = .done { c with stack := operands.reverse ++ c.stack }) ∨
    (capacity < c.stack.length + operands.length ∧ c.push operands = .failed c .stackOverflow) := by
  by_cases h : c.stack.length + operands.length ≤ capacity
  · exact .inl ⟨h, push_of_le h⟩
  · exact .inr ⟨Nat.lt_of_not_le h, push_of_lt (Nat.lt_of_not_le h)⟩

theorem draw_cases (c : Calculator) :
    (c.stack.length < capacity ∧ c.draw = .done ⟨c.tape.value :: c.stack, c.tape.advance⟩) ∨
    (capacity ≤ c.stack.length ∧ c.draw = .failed c .stackOverflow) := by
  by_cases h : c.stack.length + 1 ≤ capacity
  · refine .inl ⟨h, ?_⟩
    rw [draw, if_pos h]
    exact push_of_le h
  · exact .inr ⟨by omega, if_neg h⟩

/-! ### Steps that show -/

theorem showTop_cases (c : Calculator) :
    (∃ top below, c.stack = top :: below ∧ c.showTop = ⟨c, [top], none⟩) ∨
    (c.stack = [] ∧ c.showTop = .failed c .stackEmpty) := by
  unfold showTop
  cases h : c.stack with
  | nil => exact .inr ⟨rfl, rfl⟩
  | cons top below => exact .inl ⟨top, below, rfl, rfl⟩

/-! ### Steps that operate -/

/-- The two operands that an operator took leave room for its result. -/
theorem push_result {right left : Int} {below : List Int} (hc : c.stack.length ≤ capacity)
    (hstack : c.stack = right :: left :: below) (result : Int) :
    push { c with stack := below } [result] = .done { c with stack := result :: below } := by
  rw [hstack, List.length_cons, List.length_cons] at hc
  exact push_of_le (Nat.le_of_succ_le hc)

/-- The two operands that an operator took can be put back. -/
theorem push_back {right left : Int} {below : List Int} (hc : c.stack.length ≤ capacity)
    (hstack : c.stack = right :: left :: below) :
    push { c with stack := below } [left, right] = .done c := by
  have hpush : push { c with stack := below } [left, right] =
      .done { c with stack := right :: left :: below } := by
    rw [hstack] at hc
    exact push_of_le hc
  rw [hpush, ← hstack]

theorem operate_cases (hc : c.stack.length ≤ capacity) (op : Operator) (showing : Bool) :
    (c.stack.length < 2 ∧ c.operate op showing = .failed c .stackUnderflow) ∨
    ∃ right left below, c.stack = right :: left :: below ∧
      ((∃ result, op.eval left right = .ok result ∧
          c.operate op showing =
            ⟨{ c with stack := result :: below }, if showing then [right] else [], none⟩) ∨
        ∃ fault, op.eval left right = .error fault ∧
          c.operate op showing = ⟨c, if showing then [right] else [], some fault⟩) := by
  match hstack : c.stack with
  | [] => exact .inl ⟨by decide, by rw [operate, hstack]⟩
  | [_] => exact .inl ⟨by simp, by rw [operate, hstack]⟩
  | right :: left :: below =>
    refine .inr ⟨right, left, below, rfl, ?_⟩
    cases heval : op.eval left right with
    | ok result =>
      refine .inl ⟨result, rfl, ?_⟩
      rw [operate, hstack]
      simp only [heval, push_result hc hstack, Outcome.after, Outcome.done, List.append_nil]
    | error fault =>
      refine .inr ⟨fault, rfl, ?_⟩
      rw [operate, hstack]
      simp only [heval, push_back hc hstack, Outcome.after, Outcome.because, Outcome.done,
        List.append_nil]
      rfl

/-! ### Steps that take a token -/

/-- Every token is an operand, the spelling of an instruction, or neither. -/
theorem take_cases (c : Calculator) (token : Text) :
    (∃ n, Operand.ofToken? token = some n ∧ c.take token = c.push [n]) ∨
    (∃ i : Instruction, token = i.spelling ∧ c.take token = c.follow i) ∨
    (Meaning.ofToken? token = none ∧ c.take token = .failed c (.unrecognised token)) := by
  unfold take
  cases hoperand : Operand.ofToken? token with
  | some n => exact .inl ⟨n, rfl, by rw [Meaning.ofToken?_of_operand hoperand]⟩
  | none =>
    rw [Meaning.ofToken?, hoperand]
    cases hspelling : Instruction.ofSpelling? token with
    | some i =>
      exact .inr (.inl ⟨i, (Instruction.spelling_of_ofSpelling? hspelling).symm, rfl⟩)
    | none => exact .inr (.inr ⟨rfl, rfl⟩)

/-- The spelling of an instruction is no operand. -/
theorem take_spelling (c : Calculator) (i : Instruction) : c.take i.spelling = c.follow i := by
  rw [take, Meaning.ofToken?_spelling]

/-! ### Faults that name a token -/

theorem push_ne_unrecognised (c : Calculator) (operands : List Int) (t : Text) :
    (c.push operands).fault? ≠ some (.unrecognised t) := by
  rcases push_cases c operands with ⟨-, heq⟩ | ⟨-, heq⟩ <;> rw [heq] <;>
    simp [Outcome.done, Outcome.failed]

theorem operate_ne_unrecognised (c : Calculator) (op : Operator) (showing : Bool) (t : Text) :
    (c.operate op showing).fault? ≠ some (.unrecognised t) := by
  unfold operate
  split
  · next right left below hstack =>
    cases heval : op.eval left right with
    | ok result => exact push_ne_unrecognised { c with stack := below } [result] t
    | error fault =>
      obtain ⟨-, -, rfl⟩ := Operator.eval_eq_error_iff.1 heval
      have hpush := push_ne_unrecognised { c with stack := below } [left, right] t
      simp only [Outcome.after, Outcome.because]
      cases hfault : (push { c with stack := below } [left, right]).fault? with
      | none => simp
      | some fault =>
        rw [hfault] at hpush
        exact hpush
  · simp [Outcome.failed]

theorem follow_ne_unrecognised (c : Calculator) (i : Instruction) (t : Text) :
    (c.follow i).fault? ≠ some (.unrecognised t) := by
  cases i with
  | showTop => rcases showTop_cases c with ⟨top, below, -, heq⟩ | ⟨-, heq⟩ <;>
      simp [follow, heq, Outcome.failed]
  | showAll => simp [follow, showAll]
  | draw => rcases draw_cases c with ⟨-, heq⟩ | ⟨-, heq⟩ <;>
      simp [follow, heq, Outcome.done, Outcome.failed]
  | apply op => exact operate_ne_unrecognised c op false t
  | showApply op => exact operate_ne_unrecognised c op true t

/-- A token is unrecognised where it has no meaning, whatever calculator takes it. -/
theorem take_unrecognised_iff {c : Calculator} {token t : Text} :
    (c.take token).fault? = some (.unrecognised t) ↔
      Meaning.ofToken? token = none ∧ t = token := by
  unfold take
  cases hmeaning : Meaning.ofToken? token with
  | none => simp [Outcome.failed, eq_comm]
  | some meaning =>
    cases meaning with
    | operand n => simp [push_ne_unrecognised]
    | instruction i => simp [follow_ne_unrecognised]

end StackCalc.Calculator
