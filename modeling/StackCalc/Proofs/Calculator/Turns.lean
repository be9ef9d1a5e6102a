import StackCalc.Calculator.Request

/-!
# StackCalc.Proofs.Calculator.Turns — a run, token by token

Every token has its turn in a run: it meets the calculator that the tokens in front of it have left.
`turns` lists the turns of a run in order.  What the run puts out, what it meets and where it ends
are read off its turns, and so are the answers to the same tokens as single requests.
-/

namespace StackCalc

/-- The turn of a token in a run. -/
structure Turn where
  /-- The calculator that the token meets. -/
  before : Calculator
  /-- The token. -/
  token : Text
deriving DecidableEq

/-- What comes of a turn. -/
def Turn.outcome (turn : Turn) : Outcome := turn.before.take turn.token

namespace Calculator

/-- The turns of a run, one for each token. -/
def turns (c : Calculator) : List Text → List Turn
  | [] => []
  | token :: rest => ⟨c, token⟩ :: turns (c.take token).calculator rest

/-- Every token has one turn. -/
theorem map_token_turns (c : Calculator) (ts : List Text) : (c.turns ts).map Turn.token = ts := by
  induction ts generalizing c with
  | nil => rfl
  | cons token rest ih => exact congrArg (token :: ·) (ih (c.take token).calculator)

theorem outcomes_eq_map_turns (c : Calculator) (ts : List Text) :
    c.outcomes ts = (c.turns ts).map Turn.outcome := by
  induction ts generalizing c with
  | nil => rfl
  | cons token rest ih => rw [outcomes, turns, List.map_cons, ih, Turn.outcome]

theorem out_runTokens_eq_flatMap_turns (verbose : Bool) (c : Calculator) (ts : List Text) :
    (c.runTokens verbose ts).out = (c.turns ts).flatMap fun turn => turn.outcome.reports := by
  rw [out_runTokens, outcomes_eq_map_turns, List.flatMap_map]

/-- Where a run ends is where its last step left the calculator. -/
theorem calculator_runTokens (verbose : Bool) (c : Calculator) (ts : List Text) :
    (c.runTokens verbose ts).calculator =
      ((c.outcomes ts).getLast?.map Outcome.calculator).getD c := by
  induction ts generalizing c with
  | nil => rfl
  | cons token rest ih =>
    rw [runTokens, outcomes, List.getLast?_cons, Option.map_some, Option.getD_some]
    show (runTokens verbose (c.take token).calculator rest).calculator = _
    rw [ih, Option.getD_map]

/-! ### Tokens as single requests -/

theorem answers_tokens (verbose : Bool) (c : Calculator) (ts : List Text) :
    c.answers verbose (ts.map .token) = (c.turns ts).map fun turn => turn.outcome.response := by
  induction ts generalizing c with
  | nil => rfl
  | cons token rest ih => exact congrArg (_ :: ·) (ih (c.take token).calculator)

theorem afterAll_tokens (verbose : Bool) (c : Calculator) (ts : List Text) :
    c.afterAll verbose (ts.map .token) = (c.runTokens verbose ts).calculator := by
  induction ts generalizing c with
  | nil => rfl
  | cons token rest ih => exact ih (c.take token).calculator

end Calculator

end StackCalc
