import StackCalc.Proofs.Calculator.Steps
import StackCalc.Proofs.Calculator.Turns

/-!
# StackCalc.Proofs.Calculator.Compound — an operator with `=` behind it

The `=` behind an operator adds one thing: it shows the top of the stack before the operator is
applied, where the operator finds its two operands (`take_eq_after`).  So a run and the run of its
plain operators go in step: every token meets the same calculator and the same fault in both, and
the lines that the `=` signs add are all the difference in what the runs put out
(`runTokens_plainToken`).
-/

namespace StackCalc

/-- The token without the `=` behind an operator. -/
def plainToken (token : Text) : Text :=
  match Instruction.ofSpelling? token with
  | some i => i.plain.spelling
  | none => token

namespace Turn

/-- The turn of the plain token on the same calculator. -/
def plain (turn : Turn) : Turn := { turn with token := plainToken turn.token }

/-- Whether the token is an operator with `=` behind it. -/
def isCompound (turn : Turn) : Bool :=
  (Instruction.ofSpelling? turn.token).any Instruction.isCompound

/-- What the `=` behind an operator adds: the top of the stack, where there are two operands. -/
def added (turn : Turn) : List Int :=
  if turn.isCompound ∧ 2 ≤ turn.before.stack.length then turn.before.stack.take 1 else []

end Turn

namespace Calculator

/-! ### Single steps -/

theorem operate_showing (c : Calculator) (op : Operator) :
    c.operate op true =
      .after (if 2 ≤ c.stack.length then c.stack.take 1 else []) (c.operate op false) := by
  rw [operate, operate]
  rcases c.stack with _ | ⟨right, _ | ⟨left, below⟩⟩
  · rfl
  · rfl
  · rfl

theorem follow_eq_after (c : Calculator) (i : Instruction) :
    c.follow i =
      .after (if i.isCompound ∧ 2 ≤ c.stack.length then c.stack.take 1 else [])
        (c.follow i.plain) := by
  cases i with
  | showApply op =>
    simp only [Instruction.isCompound, true_and]
    exact operate_showing c op
  | showTop | showAll | draw | apply op => rfl

/-- **What the `=` behind an operator adds** is shown first; the rest is the step of the plain
token. -/
theorem take_eq_after (c : Calculator) (token : Text) :
    c.take token = .after (Turn.added ⟨c, token⟩) (c.take (plainToken token)) := by
  cases hspelling : Instruction.ofSpelling? token with
  | some i =>
    obtain rfl := Instruction.spelling_of_ofSpelling? hspelling
    have hplain : plainToken i.spelling = i.plain.spelling := by rw [plainToken, hspelling]
    have hadded : Turn.added ⟨c, i.spelling⟩ =
        if i.isCompound ∧ 2 ≤ c.stack.length then c.stack.take 1 else [] := by
      rw [Turn.added, Turn.isCompound, hspelling]
      rfl
    rw [hplain, hadded, take_spelling, take_spelling, follow_eq_after]
  | none =>
    have hplain : plainToken token = token := by rw [plainToken, hspelling]
    have hadded : Turn.added ⟨c, token⟩ = [] := by
      simp [Turn.added, Turn.isCompound, hspelling]
    rw [hplain, hadded]
    rfl

/-! ### Runs -/

theorem calculator_take_plainToken (c : Calculator) (token : Text) :
    (c.take (plainToken token)).calculator = (c.take token).calculator := by
  rw [take_eq_after c token]
  rfl

/-- Both runs go in step: each token meets the same calculator in either. -/
theorem turns_map_plainToken (c : Calculator) (ts : List Text) :
    c.turns (ts.map plainToken) = (c.turns ts).map Turn.plain := by
  induction ts generalizing c with
  | nil => rfl
  | cons token rest ih =>
    rw [List.map_cons, turns, turns, List.map_cons, calculator_take_plainToken, ih]
    rfl

end Calculator

namespace Turn

theorem outcome_eq_after (turn : Turn) : turn.outcome = .after turn.added turn.plain.outcome :=
  turn.before.take_eq_after turn.token

theorem calculator_plain (turn : Turn) :
    turn.plain.outcome.calculator = turn.outcome.calculator := by
  rw [turn.outcome_eq_after, Outcome.after]

theorem fault?_plain (turn : Turn) : turn.plain.outcome.fault? = turn.outcome.fault? := by
  rw [turn.outcome_eq_after, Outcome.after]

/-- The turn puts out the line that the `=` adds, and then what the plain token does. -/
theorem map_text_reports (turn : Turn) :
    turn.outcome.reports.map Report.text =
      turn.added.map Text.decimal ++ turn.plain.outcome.reports.map Report.text := by
  rw [outcome_eq_after]
  simp [Outcome.after, Outcome.reports, Report.text, Function.comp_def]

end Turn

namespace Calculator

theorem outcomes_map_plainToken (c : Calculator) (ts : List Text) :
    c.outcomes (ts.map plainToken) = (c.turns ts).map fun turn => turn.plain.outcome := by
  rw [outcomes_eq_map_turns, turns_map_plainToken, List.map_map]
  rfl

/-- **A run with plain operators in place of those with `=` behind them** ends where the run ends
and meets the same faults at the same tokens.  The run puts out what it puts out, token by token,
and in front of that, for each operator with `=` behind it that finds two operands, the top of the
stack at its turn. -/
theorem runTokens_plainToken (verbose : Bool) (c : Calculator) (ts : List Text) :
    let full := c.runTokens verbose ts
    let plain := c.runTokens verbose (ts.map plainToken)
    plain.calculator = full.calculator ∧
    (c.outcomes (ts.map plainToken)).map Outcome.fault? = (c.outcomes ts).map Outcome.fault? ∧
    plain.out.map Report.text =
      (c.turns ts).flatMap (fun turn => turn.plain.outcome.reports.map Report.text) ∧
    full.out.map Report.text =
      (c.turns ts).flatMap (fun turn =>
        turn.added.map Text.decimal ++ turn.plain.outcome.reports.map Report.text) := by
  intro full plain
  have hcalculators : (c.outcomes (ts.map plainToken)).map Outcome.calculator =
      (c.outcomes ts).map Outcome.calculator := by
    rw [outcomes_map_plainToken, outcomes_eq_map_turns, List.map_map, List.map_map]
    exact List.map_congr_left fun turn _ => turn.calculator_plain
  refine ⟨?_, ?_, ?_, ?_⟩
  · rw [calculator_runTokens, calculator_runTokens, ← List.getLast?_map, ← List.getLast?_map,
      hcalculators]
  · rw [outcomes_map_plainToken, outcomes_eq_map_turns, List.map_map, List.map_map]
    exact List.map_congr_left fun turn _ => turn.fault?_plain
  · rw [out_runTokens_eq_flatMap_turns, turns_map_plainToken, List.flatMap_map, List.map_flatMap]
  · rw [out_runTokens_eq_flatMap_turns, List.map_flatMap]
    exact congrArg (c.turns ts).flatMap (funext Turn.map_text_reports)

end Calculator

end StackCalc
