import StackCalc.Proofs.Calculator.Faults
import StackCalc.Proofs.Calculator.Turns

/-!
# StackCalc.Proofs.Calculator.Recovery — a run goes on after a fault as if nothing had been

A token takes effect in its turn if it meets no fault and does more than show.  Any other token
leaves the calculator as it met it, so the tokens behind it meet what they would meet without it:
with all such tokens left out, the turns of a run are the turns that are left (`turns_effective`).
A line therefore does what its effective tokens do on their own, where none of them meets a fault
(`answers_effective`).
-/

namespace StackCalc

/-- Whether a token takes effect in its turn: it meets no fault, and is not `=` or `d`. -/
def Turn.takesEffect (turn : Turn) : Bool :=
  turn.outcome.fault?.isNone && turn.token != ['='] && turn.token != ['d']

theorem Turn.fault?_of_takesEffect {turn : Turn} (h : turn.takesEffect = true) :
    turn.outcome.fault? = none := by
  simp only [takesEffect, Bool.and_eq_true, Option.isNone_iff_eq_none] at h
  exact h.1.1

namespace Calculator

variable {c : Calculator} {token : Text}

/-- A token that takes no effect leaves the calculator as it met it. -/
theorem calculator_take_of_not_takesEffect (hc : c.Sound)
    (h : Turn.takesEffect ⟨c, token⟩ = false) : (c.take token).calculator = c := by
  cases hfault : (c.take token).fault? with
  | some fault =>
    rcases take_of_fault hc.room hfault with ⟨heq, -⟩ | ⟨heq, -⟩
    · rw [heq]
      rfl
    · rw [heq]
  | none =>
    have hshows : token = ['='] ∨ token = ['d'] := by
      simpa [Turn.takesEffect, Turn.outcome, hfault, Decidable.or_iff_not_imp_left] using h
    rcases hshows with rfl | rfl
    · show c.showTop.calculator = c
      rcases showTop_cases c with ⟨top, below, -, heq⟩ | ⟨-, heq⟩
      · rw [heq]
      · rw [heq]
        rfl
    · rfl

/-! ### Runs without the tokens that take no effect -/

/-- The tokens that take effect in a run. -/
def effective (c : Calculator) (ts : List Text) : List Text :=
  ((c.turns ts).filter Turn.takesEffect).map Turn.token

theorem effective_cons_of_takesEffect (h : Turn.takesEffect ⟨c, token⟩ = true)
    (rest : List Text) :
    c.effective (token :: rest) = token :: (c.take token).calculator.effective rest := by
  rw [effective, turns, List.filter_cons_of_pos h]
  rfl

theorem effective_cons_of_not_takesEffect (hc : c.Sound)
    (h : Turn.takesEffect ⟨c, token⟩ = false) (rest : List Text) :
    c.effective (token :: rest) = c.effective rest := by
  rw [effective, turns, List.filter_cons_of_neg (by simp [h]),
    calculator_take_of_not_takesEffect hc h, effective]

/-- **The turns that take effect are the turns of a run of their own.** -/
theorem turns_effective (hc : c.Sound) (ts : List Text) :
    c.turns (c.effective ts) = (c.turns ts).filter Turn.takesEffect := by
  induction ts generalizing c with
  | nil => rfl
  | cons token rest ih =>
    cases heffect : Turn.takesEffect ⟨c, token⟩ with
    | true =>
      rw [effective_cons_of_takesEffect heffect, turns, turns, List.filter_cons_of_pos heffect,
        ih (hc.take token)]
    | false =>
      -- the token behind meets the same calculator, with this one or without it
      rw [effective_cons_of_not_takesEffect hc heffect, ih hc, turns,
        List.filter_cons_of_neg (by simp [heffect]), calculator_take_of_not_takesEffect hc heffect]

/-- The tokens that take effect lead where the whole run leads. -/
theorem calculator_runTokens_effective (hc : c.Sound) (verbose : Bool) (ts : List Text) :
    (c.runTokens verbose (c.effective ts)).calculator = (c.runTokens verbose ts).calculator := by
  induction ts generalizing c with
  | nil => rfl
  | cons token rest ih =>
    cases heffect : Turn.takesEffect ⟨c, token⟩ with
    | true =>
      rw [effective_cons_of_takesEffect heffect]
      exact ih (hc.take token)
    | false =>
      rw [effective_cons_of_not_takesEffect hc heffect, ih hc, runTokens,
        calculator_take_of_not_takesEffect hc heffect]

/-- **A token that fails spoils only itself.**  The tokens of a line that take effect, asked for one
by one, meet no fault; each shows what it shows within the line, and they end where the line
ends. -/
theorem answers_effective (hc : Reachable c) (verbose : Bool) (line : Text) :
    let turns := c.turns (Line.tokens line)
    let requests := (c.effective (Line.tokens line)).map Request.token
    (c.runLine verbose line).out = turns.flatMap (fun turn => turn.outcome.reports) ∧
    c.answers verbose requests =
      (turns.filter Turn.takesEffect).map (fun turn => turn.outcome.response) ∧
    (∀ r ∈ c.answers verbose requests, r.fault? = none) ∧
    c.afterAll verbose requests = (c.runLine verbose line).calculator := by
  intro turns requests
  have hanswers : c.answers verbose requests =
      (turns.filter Turn.takesEffect).map fun turn => turn.outcome.response := by
    rw [answers_tokens, turns_effective hc.sound]
  refine ⟨out_runTokens_eq_flatMap_turns verbose c _, hanswers, ?_, ?_⟩
  · rw [hanswers]
    intro r hr
    obtain ⟨turn, hturn, rfl⟩ := List.mem_map.1 hr
    exact Turn.fault?_of_takesEffect (List.mem_filter.1 hturn).2
  · rw [afterAll_tokens, calculator_runTokens_effective hc.sound, runLine]

/-- Without the tokens that fail or only show, `1 x 2 + = 0 /= d` is `1 2 + 0`. -/
theorem answers_effective_sum :
    let line := "1 x 2 + = 0 /= d".toList
    Reachable fresh ∧
    fresh.effective (Line.tokens line) = [['1'], ['2'], ['+'], ['0']] ∧
    fresh.afterAll false ([['1'], ['2'], ['+'], ['0']].map .token) =
      (fresh.runLine false line).calculator := by
  intro line
  have heffective : fresh.effective (Line.tokens line) = [['1'], ['2'], ['+'], ['0']] := by decide
  obtain ⟨-, -, -, hend⟩ := answers_effective .fresh false line
  rw [heffective] at hend
  exact ⟨.fresh, heffective, hend⟩

end Calculator

end StackCalc
