import StackCalc.Calculator.Run

/-!
# StackCalc.Calculator.Request — everything that can be asked of a calculator

A program that holds a calculator may run whole lines on it, or ask for single steps.  A line
reports its faults and goes on; a step on its own ends in its fault, which is then part of the
answer.
-/

namespace StackCalc

/-- What a program may ask of the calculator that it holds. -/
inductive Request
  /-- Run a line. -/
  | line (text : Text)
  /-- Take one token, as it stands. -/
  | token (token : Text)
  /-- Tell what a token means, and do nothing. -/
  | classify (token : Text)
  /-- Push operands, the last of them on top. -/
  | push (operands : List Int)
  /-- Show the top of the stack. -/
  | showTop
  /-- Show the whole stack. -/
  | showAll
  /-- Push the next random number. -/
  | draw
deriving DecidableEq

/-- The answer to a request. -/
structure Response where
  /-- The calculator afterwards. -/
  calculator : Calculator
  /-- The reports, in order. -/
  out : List Report
  /-- The faults put on the error stream, in order. -/
  err : List Fault
  /-- The fault that ended a single step. -/
  fault? : Option Fault
deriving DecidableEq

/-- A single step as an answer: its fault is not reported but handed on. -/
def Outcome.response (o : Outcome) : Response := ⟨o.calculator, o.shown.map .value, [], o.fault?⟩

/-- A run as an answer. -/
def Transcript.response (t : Transcript) : Response := ⟨t.calculator, t.out, t.err, none⟩

namespace Calculator

/-- Answer a request. -/
def answer (verbose : Bool) (c : Calculator) : Request → Response
  | .line text => (c.runLine verbose text).response
  | .token token => (c.take token).response
  | .classify _ => (Outcome.done c).response
  | .push operands => (c.push operands).response
  | .showTop => c.showTop.response
  | .showAll => c.showAll.response
  | .draw => c.draw.response

/-- Answer requests in order. -/
def answers (verbose : Bool) (c : Calculator) : List Request → List Response
  | [] => []
  | request :: rest =>
    let r := c.answer verbose request
    r :: answers verbose r.calculator rest

/-- The calculator after a list of requests. -/
def afterAll (verbose : Bool) (c : Calculator) (requests : List Request) : Calculator :=
  requests.foldl (fun c request => (c.answer verbose request).calculator) c

end Calculator

end StackCalc
