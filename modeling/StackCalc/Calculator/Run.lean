import StackCalc.Calculator
import StackCalc.Line.Tokens
import StackCalc.Text.Basic

/-!
# StackCalc.Calculator.Run — tokens and lines one after the other

A run takes tokens in order.  A token that ends in a fault spoils only itself: its diagnostic is
put out in its place, and the run goes on from the calculator that the step left.  A verbose run
also puts each fault on the error stream.
-/

namespace StackCalc

/-- What a run puts out on a line of its own. -/
inductive Report
  /-- A value that a step showed. -/
  | value (n : Int)
  /-- The diagnostic of a fault that ended a step. -/
  | diagnostic (fault : Fault)
deriving DecidableEq

/-- A report as it is printed. -/
def Report.text : Report → Text
  | value n => Text.decimal n
  | diagnostic fault => fault.message

/-- What comes of a run. -/
structure Transcript where
  /-- The calculator after the run. -/
  calculator : Calculator
  /-- The reports, in order. -/
  out : List Report
  /-- The faults put on the error stream, in order. -/
  err : List Fault
deriving DecidableEq

namespace Outcome

/-- The reports of a step that is part of a run. -/
def reports (o : Outcome) : List Report :=
  o.shown.map .value ++ (o.fault?.map .diagnostic).toList

/-- The faults that a step puts on the error stream of a run. -/
def traced (verbose : Bool) (o : Outcome) : List Fault :=
  if verbose then o.fault?.toList else []

end Outcome

namespace Calculator

/-- The outcomes of taking tokens in order, one for each. -/
def outcomes (c : Calculator) : List Text → List Outcome
  | [] => []
  | token :: rest => c.take token :: outcomes (c.take token).calculator rest

/-- Take tokens in order, going on after faults. -/
def runTokens (verbose : Bool) (c : Calculator) : List Text → Transcript
  | [] => ⟨c, [], []⟩
  | token :: rest =>
    let o := c.take token
    let t := runTokens verbose o.calculator rest
    ⟨t.calculator, o.reports ++ t.out, o.traced verbose ++ t.err⟩

/-- Take the tokens of a line. -/
def runLine (verbose : Bool) (c : Calculator) (line : Text) : Transcript :=
  c.runTokens verbose (Line.tokens line)

/-- Take the tokens of one line after the other. -/
def runLines (verbose : Bool) (c : Calculator) : List Text → Transcript
  | [] => ⟨c, [], []⟩
  | line :: rest =>
    let s := c.runLine verbose line
    let t := runLines verbose s.calculator rest
    ⟨t.calculator, s.out ++ t.out, s.err ++ t.err⟩

/-! ### A run puts out what its steps put out -/

theorem out_runTokens (verbose : Bool) (c : Calculator) (ts : List Text) :
    (c.runTokens verbose ts).out = (c.outcomes ts).flatMap Outcome.reports := by
  induction ts generalizing c with
  | nil => rfl
  | cons token rest ih => rw [runTokens, outcomes, List.flatMap_cons, ih]

theorem err_runTokens (verbose : Bool) (c : Calculator) (ts : List Text) :
    (c.runTokens verbose ts).err = (c.outcomes ts).flatMap (Outcome.traced verbose) := by
  induction ts generalizing c with
  | nil => rfl
  | cons token rest ih => rw [runTokens, outcomes, List.flatMap_cons, ih]

/-! ### A run of tokens in two parts -/

theorem runTokens_append (verbose : Bool) (c : Calculator) (ts us : List Text) :
    c.runTokens verbose (ts ++ us) =
      let s := c.runTokens verbose ts
      let t := s.calculator.runTokens verbose us
      ⟨t.calculator, s.out ++ t.out, s.err ++ t.err⟩ := by
  induction ts generalizing c with
  | nil => rfl
  | cons token rest ih => simp [runTokens, ih]

theorem runLines_eq_runTokens (verbose : Bool) (c : Calculator) (lines : List Text) :
    c.runLines verbose lines = c.runTokens verbose (lines.flatMap Line.tokens) := by
  induction lines generalizing c with
  | nil => rfl
  | cons line rest ih =>
    rw [runLines, List.flatMap_cons, runTokens_append, ih, runLine]

end Calculator

end StackCalc
