import StackCalc.Meaning

/-!
# StackCalc.Calculator — the stack and single steps on it

A calculator holds at most 23 operands and the tape of random numbers.  A step may show values,
may change the calculator, and may end in a fault; a step that ends in a fault leaves the
calculator as it was.  Every push is checked: it pushes all it is given, or nothing where they do
not all fit.

The random numbers are always the same: a tape of 22 of them, read from the start and, at its end,
from the start again.
-/

namespace StackCalc

/-! ## The numbers that `r` draws -/

/-- A tape of random numbers, read up to the cursor. -/
structure RandomTape where
  /-- The place of the next number. -/
  cursor : Nat
deriving DecidableEq

namespace RandomTape

/-- The numbers on the tape. -/
def numbers : List Int :=
  [1804289383, 846930886, 1681692777, 1714636915, 1957747793, 424238335, 719885386, 1649760492,
    596516649, 1189641421, 1025202362, 1350490027, 783368690, 1102520059, 2044897763, 1967513926,
    1365180540, 1540383426, 304089172, 1303455736, 35005211, 521595368]

/-- The tape before the first draw. -/
def start : RandomTape := ⟨0⟩

/-- The number under the cursor. -/
def value (tape : RandomTape) : Int := numbers.getD tape.cursor 0

/-- The tape with the cursor on the next number. -/
def advance (tape : RandomTape) : RandomTape := ⟨(tape.cursor + 1) % numbers.length⟩

/-- The first `n` numbers from the cursor on, and the tape behind them. -/
def take : Nat → RandomTape → List Int × RandomTape
  | 0, tape => ([], tape)
  | n + 1, tape =>
    let (rest, last) := take n tape.advance
    (tape.value :: rest, last)

/-! ### The cursor stays on the tape -/

theorem cursor_advance_lt (tape : RandomTape) : tape.advance.cursor < numbers.length :=
  Nat.mod_lt _ (by decide)

end RandomTape

/-! ## Calculators -/

/-- A calculator. -/
structure Calculator where
  /-- The operands, the top of the stack first. -/
  stack : List Int
  /-- The random numbers still to be drawn. -/
  tape : RandomTape
deriving DecidableEq

/-- What comes of a step. -/
structure Outcome where
  /-- The calculator after the step. -/
  calculator : Calculator
  /-- The values that the step showed, in order. -/
  shown : List Int
  /-- The fault that ended the step. -/
  fault? : Option Fault
deriving DecidableEq

namespace Outcome

/-- A step that showed nothing and met no fault. -/
def done (c : Calculator) : Outcome := ⟨c, [], none⟩

/-- A step that showed nothing and ended in a fault. -/
def failed (c : Calculator) (fault : Fault) : Outcome := ⟨c, [], some fault⟩

/-- The outcome of a step before which values were shown. -/
def after (shown : List Int) (o : Outcome) : Outcome := { o with shown := shown ++ o.shown }

/-- The outcome of a step that was taken because of a fault. -/
def because (fault : Fault) (o : Outcome) : Outcome := { o with fault? := o.fault?.or (some fault) }

end Outcome

namespace Calculator

/-- The greatest number of operands on the stack. -/
def capacity : Nat := 23

/-- The calculator with an empty stack and the tape at its start. -/
def fresh : Calculator := ⟨[], RandomTape.start⟩

/-! ## Steps -/

/-- Push operands, the last of them on top, or none of them where they do not all fit. -/
def push (c : Calculator) (operands : List Int) : Outcome :=
  if c.stack.length + operands.length ≤ capacity then
    .done { c with stack := operands.reverse ++ c.stack }
  else .failed c .stackOverflow

/-- Show the top of the stack. -/
def showTop (c : Calculator) : Outcome :=
  match c.stack with
  | [] => .failed c .stackEmpty
  | top :: _ => ⟨c, [top], none⟩

/-- Show the whole stack, top first; an empty stack shows as the smallest operand. -/
def showAll (c : Calculator) : Outcome :=
  ⟨c, if c.stack = [] then [minOperand] else c.stack, none⟩

/-- Push the next random number; the tape moves only when there is room. -/
def draw (c : Calculator) : Outcome :=
  if c.stack.length + 1 ≤ capacity then
    push { c with tape := c.tape.advance } [c.tape.value]
  else .failed c .stackOverflow

/-- Replace the two topmost operands by their result, and put them back as they were entered where
there is none.  When `showing`, the top of the stack is shown first. -/
def operate (c : Calculator) (op : Operator) (showing : Bool) : Outcome :=
  match c.stack with
  | right :: left :: below =>
    let rest : Calculator := { c with stack := below }
    .after (if showing then [right] else []) <|
      match op.eval left right with
      | .ok result => rest.push [result]
      | .error fault => .because fault (rest.push [left, right])
  | _ => .failed c .stackUnderflow

/-- Follow an instruction. -/
def follow (c : Calculator) : Instruction → Outcome
  | .showTop => c.showTop
  | .showAll => c.showAll
  | .draw => c.draw
  | .apply op => c.operate op false
  | .showApply op => c.operate op true

/-- Take a token: push the operand or follow the instruction that it spells. -/
def take (c : Calculator) (token : Text) : Outcome :=
  match Meaning.ofToken? token with
  | some (.operand n) => c.push [n]
  | some (.instruction i) => c.follow i
  | none => .failed c (.unrecognised token)

/-! ### When a push has room -/

theorem push_of_le {c : Calculator} {operands : List Int}
    (h : c.stack.length + operands.length ≤ capacity) :
    c.push operands = .done { c with stack := operands.reverse ++ c.stack } := if_pos h

theorem push_of_lt {c : Calculator} {operands : List Int}
    (h : capacity < c.stack.length + operands.length) :
    c.push operands = .failed c .stackOverflow := if_neg (Nat.not_le.2 h)

end Calculator

end StackCalc
