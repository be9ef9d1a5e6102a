import StackCalc.Text.Quoted

/-!
# StackCalc.Fault — why a step cannot be taken

A fault stops one step and nothing else.  Its `message` is the diagnostic for the user; its
`trace` is the line for the error stream, which names the kind of fault and carries the message
(and the token, where one is to blame) so that both can be read back.
-/

namespace StackCalc

/-- Why a step cannot be taken. -/
inductive Fault
  /-- The top of an empty stack was asked for. -/
  | stackEmpty
  /-- An operator found fewer than two operands. -/
  | stackUnderflow
  /-- There was no room for another operand. -/
  | stackOverflow
  /-- A quotient or remainder by zero was asked for. -/
  | divideByZero
  /-- The token is neither an operand nor an instruction. -/
  | unrecognised (token : Text)
deriving DecidableEq

namespace Fault

/-- The kind of a fault, as traces name it. -/
def kind : Fault → Text
  | stackEmpty => "StackEmpty".toList
  | stackUnderflow => "StackUnderflow".toList
  | stackOverflow => "StackOverflow".toList
  | divideByZero => "DivideByZero".toList
  | unrecognised _ => "UnrecognisedToken".toList

/-- The diagnostic for the user. -/
def message : Fault → Text
  | stackEmpty => "Stack empty.".toList
  | stackUnderflow => "Stack underflow.".toList
  | stackOverflow => "Stack overflow.".toList
  | divideByZero => "Divide by 0.".toList
  | unrecognised token =>
    "Unrecognised operator or operand \"".toList ++ token ++ "\".".toList

/-- What a trace says after the kind of fault. -/
def detail : Fault → Text
  | unrecognised token =>
    '(' :: Text.quote (unrecognised token).message ++ ", ".toList ++ Text.quote token ++ [')']
  | fault => fault.message

/-- The line for the error stream. -/
def trace (fault : Fault) : Text :=
  "srpn.util.".toList ++ fault.kind ++ ": ".toList ++ fault.detail

end Fault

end StackCalc
