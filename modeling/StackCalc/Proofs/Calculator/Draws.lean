import StackCalc.Proofs.Calculator.Steps
import StackCalc.Proofs.Calculator.Turns

/-!
# StackCalc.Proofs.Calculator.Draws — the numbers that are drawn

Requests come to single steps: a line is taken token by token, and everything else is one step.  A
step draws when it asks for the next random number, directly or by the token `r`; no other step
moves the tape.  So whatever stands between the draws, and whether or not it fails, the draws that
succeed push the numbers of the tape in their order, and go round once all 22 are drawn
(`draws_replay`).  A draw on a full stack is refused before the tape moves, so that no number is
lost.
-/

namespace StackCalc

/-! ## The tape after so many draws -/

/-- The tape after `n` draws from its start. -/
def RandomTape.drawn (n : Nat) : RandomTape := ⟨n % numbers.length⟩

theorem RandomTape.advance_drawn (n : Nat) : (drawn n).advance = drawn (n + 1) := by
  rw [drawn, advance, Nat.mod_add_mod, drawn]

theorem RandomTape.getElem?_drawn (n : Nat) :
    numbers[n % numbers.length]? = some (drawn n).value := by
  have hlt : n % numbers.length < numbers.length := Nat.mod_lt _ (by decide)
  rw [value, drawn, List.getD_eq_getElem?_getD, List.getElem?_eq_getElem hlt, Option.getD_some]

/-! ## Single steps -/

namespace Request

/-- The single steps that a request comes to: a line is taken token by token. -/
def steps : Request → List Request
  | .line text => (Line.tokens text).map .token
  | request => [request]

/-- Whether a request asks for the next random number and nothing else. -/
def isDraw : Request → Bool
  | .token text => text == ['r']
  | .draw => true
  | _ => false

/-- A request that is a single step: anything but a line. -/
def IsStep (request : Request) : Prop := ∀ text, request ≠ .line text

theorem isStep_of_mem_steps {request step : Request} (h : step ∈ request.steps) : step.IsStep := by
  cases request with
  | line text =>
    obtain ⟨token, -, rfl⟩ := List.mem_map.1 h
    exact fun text => by simp
  | _ =>
    rw [List.mem_singleton.1 h]
    exact fun text => by simp

end Request

/-- A draw: the calculator that it met and the answer to it. -/
structure Draw where
  /-- The calculator before the draw. -/
  before : Calculator
  /-- What came of it. -/
  response : Response
deriving DecidableEq

/-- Whether a draw came to no fault. -/
def Draw.succeeds (d : Draw) : Bool := d.response.fault?.isNone

namespace Calculator

/-- The draws among single steps, in order. -/
def draws (verbose : Bool) (c : Calculator) : List Request → List Draw
  | [] => []
  | step :: rest =>
    let r := c.answer verbose step
    if step.isDraw then ⟨c, r⟩ :: draws verbose r.calculator rest
    else draws verbose r.calculator rest

variable {c : Calculator} {verbose : Bool}

/-- The single steps lead where the requests lead. -/
theorem afterAll_steps (verbose : Bool) (c : Calculator) (requests : List Request) :
    c.afterAll verbose (requests.flatMap Request.steps) = c.afterAll verbose requests := by
  induction requests generalizing c with
  | nil => rfl
  | cons request rest ih =>
    have hsteps : c.afterAll verbose request.steps = (c.answer verbose request).calculator := by
      cases request with
      | line text => exact afterAll_tokens verbose c (Line.tokens text)
      | _ => rfl
    rw [List.flatMap_cons, afterAll, List.foldl_append]
    show afterAll verbose (c.afterAll verbose request.steps) (rest.flatMap Request.steps) = _
    rw [hsteps, ih]
    rfl

/-! ### What moves the tape -/

theorem tape_push (c : Calculator) (operands : List Int) :
    (c.push operands).calculator.tape = c.tape := by
  rcases push_cases c operands with ⟨-, heq⟩ | ⟨-, heq⟩ <;> rw [heq] <;> rfl

theorem tape_showTop (c : Calculator) : c.showTop.calculator.tape = c.tape := by
  rcases showTop_cases c with ⟨top, below, -, heq⟩ | ⟨-, heq⟩ <;> rw [heq]
  rfl

theorem tape_operate (c : Calculator) (op : Operator) (showing : Bool) :
    (c.operate op showing).calculator.tape = c.tape := by
  unfold operate
  split
  · next right left below hstack =>
    cases op.eval left right with
    | ok result => exact tape_push { c with stack := below } [result]
    | error fault => exact tape_push { c with stack := below } [left, right]
  · rfl

theorem tape_take {token : Text} (h : token ≠ ['r']) : (c.take token).calculator.tape = c.tape := by
  rcases take_cases c token with ⟨n, -, heq⟩ | ⟨i, rfl, heq⟩ | ⟨-, heq⟩
  · rw [heq, tape_push]
  · rw [heq]
    cases i with
    | showTop => exact tape_showTop c
    | showAll => rfl
    | draw => exact absurd rfl h
    | apply op => exact tape_operate c op false
    | showApply op => exact tape_operate c op true
  · rw [heq]
    rfl

/-- A single step that draws nothing leaves the tape alone. -/
theorem tape_answer {step : Request} (hstep : step.IsStep) (h : step.isDraw = false) :
    (c.answer verbose step).calculator.tape = c.tape := by
  cases step with
  | line text => exact absurd rfl (hstep text)
  | token token => exact tape_take (by simpa [Request.isDraw] using h)
  | classify token => rfl
  | push operands => exact tape_push c operands
  | showTop => exact tape_showTop c
  | showAll => rfl
  | draw => cases h

theorem answer_of_isDraw {step : Request} (h : step.isDraw = true) :
    c.answer verbose step = c.draw.response := by
  cases step with
  | draw => rfl
  | token token =>
    obtain rfl : token = ['r'] := by simpa [Request.isDraw] using h
    rfl
  | _ => cases h

/-! ### Runs -/

theorem response_of_mem_draws {steps : List Request} :
    ∀ d ∈ c.draws verbose steps, d.response = d.before.draw.response := by
  induction steps generalizing c with
  | nil => exact fun d hd => absurd hd List.not_mem_nil
  | cons step rest ih =>
    intro d hd
    rw [draws] at hd
    split at hd
    · next hdraw =>
      rcases List.mem_cons.1 hd with rfl | hd
      · exact answer_of_isDraw hdraw
      · exact ih d hd
    · exact ih d hd

/-- **Successful draws count along the tape**: from a tape after `n` draws on, the next of them
meet the tape after `n`, `n + 1`, `n + 2` draws, and the last of them leave it one further. -/
theorem tape_draws {steps : List Request} (hsteps : ∀ step ∈ steps, step.IsStep) {n : Nat}
    (hc : c.tape = .drawn n) :
    let successful := (c.draws verbose steps).filter Draw.succeeds
    (∀ (k : Nat) (d : Draw), successful[k]? = some d → d.before.tape = .drawn (n + k)) ∧
    (c.afterAll verbose steps).tape = .drawn (n + successful.length) := by
  induction steps generalizing c n with
  | nil => exact ⟨fun k d h => by simp [draws] at h, hc⟩
  | cons step rest ih =>
    rw [List.forall_mem_cons] at hsteps
    rw [draws]
    cases hdraw : step.isDraw with
    | false => exact ih hsteps.2 (hc ▸ tape_answer hsteps.1 hdraw)
    | true =>
      have hanswer : c.answer verbose step = c.draw.response := answer_of_isDraw hdraw
      rcases draw_cases c with ⟨-, heq⟩ | ⟨-, heq⟩
      · -- the draws behind this one start from a tape that is one further
        rw [heq] at hanswer
        have htape : (c.answer verbose step).calculator.tape = .drawn (n + 1) := by
          rw [hanswer, ← RandomTape.advance_drawn, ← hc]
          rfl
        obtain ⟨hbefore, hend⟩ := ih hsteps.2 htape
        have hsucceeds : Draw.succeeds ⟨c, c.answer verbose step⟩ = true := by
          rw [Draw.succeeds, hanswer]
          rfl
        simp only [↓reduceIte, List.filter_cons_of_pos hsucceeds, List.length_cons]
        refine ⟨fun k d hd => ?_, ?_⟩
        · cases k with
          | zero =>
            cases hd
            exact hc
          | succ k =>
            rw [hbefore k d hd, Nat.add_right_comm]
            rfl
        · rw [← Nat.add_assoc, Nat.add_right_comm]
          exact hend
      · rw [heq] at hanswer
        have hfails : ¬ Draw.succeeds ⟨c, c.answer verbose step⟩ = true := by
          rw [Draw.succeeds, hanswer]
          simp [Outcome.failed, Outcome.response]
        have htape : (c.answer verbose step).calculator.tape = .drawn n := by
          rw [hanswer]
          exact hc
        simp only [↓reduceIte, List.filter_cons_of_neg hfails]
        exact ih hsteps.2 htape

/-- **The numbers drawn are those of the tape, one after the other**, over any requests: the draw
with `k` successful ones before it pushes the number at `k`, counted round the tape, and does
nothing else.  A draw fails on a full stack only; it is then refused, and takes no number.  In the
end the cursor has counted the draws that succeeded. -/
theorem draws_replay (verbose : Bool) (requests : List Request) :
    let steps := requests.flatMap Request.steps
    let draws := fresh.draws verbose steps
    let successful := draws.filter Draw.succeeds
    (∀ (k : Nat) (d : Draw), successful[k]? = some d →
      ∃ n, RandomTape.numbers[k % 22]? = some n ∧
        d.response = ⟨⟨n :: d.before.stack, ⟨(k + 1) % 22⟩⟩, [], [], none⟩) ∧
    (∀ d ∈ draws, d.before.stack.length < 23 ∧ d.succeeds = true ∨
      23 ≤ d.before.stack.length ∧ d.response = ⟨d.before, [], [], some .stackOverflow⟩) ∧
    fresh.afterAll verbose steps = fresh.afterAll verbose requests ∧
    (fresh.afterAll verbose requests).tape.cursor = successful.length % 22 := by
  intro steps draws successful
  have hsteps : ∀ step ∈ steps, step.IsStep := by
    intro step hstep
    obtain ⟨request, -, hstep⟩ := List.mem_flatMap.1 hstep
    exact Request.isStep_of_mem_steps hstep
  have hresponse : ∀ d ∈ draws, d.response = d.before.draw.response := response_of_mem_draws
  obtain ⟨htape, hend⟩ :
      (∀ (k : Nat) (d : Draw), successful[k]? = some d → d.before.tape = .drawn (0 + k)) ∧
        (fresh.afterAll verbose steps).tape = .drawn (0 + successful.length) :=
    tape_draws hsteps rfl
  refine ⟨fun k d hd => ?_, fun d hd => ?_, afterAll_steps verbose fresh requests, ?_⟩
  · obtain ⟨hmem, hsucceeds⟩ := List.mem_filter.1 (List.mem_of_getElem? hd)
    have hk : d.before.tape = .drawn k := by rw [htape k d hd, Nat.zero_add]
    refine ⟨_, RandomTape.getElem?_drawn k, ?_⟩
    rw [Draw.succeeds, hresponse d hmem] at hsucceeds
    rw [hresponse d hmem]
    rcases draw_cases d.before with ⟨-, heq⟩ | ⟨-, heq⟩
    · rw [heq, hk, RandomTape.advance_drawn]
      rfl
    · rw [heq] at hsucceeds
      cases hsucceeds
  · rw [Draw.succeeds, hresponse d hd]
    rcases draw_cases d.before with ⟨hroom, heq⟩ | ⟨hfull, heq⟩
    · exact .inl ⟨hroom, by rw [heq]; rfl⟩
    · exact .inr ⟨hfull, by rw [heq]; rfl⟩
  · rw [← afterAll_steps, hend, Nat.zero_add]
    rfl

end Calculator

end StackCalc
