import StackCalc.Calculator

/-!
# StackCalc.Calculator.Primitive — steps in operations that may break down

A calculator may be kept in one place and changed there bit by bit.  A step is then work on it:
operands are taken off one at a time, instructions are looked up in tables, magnitudes are divided,
the tape is read at its cursor; and work that fails leaves behind what was done by then.  Each of
these operations breaks down where it does not find what it needs.  A breakdown is no fault: nobody
reports it, and it would end the whole run.

`Work.take` is a second account of `Calculator.take`, in these operations alone.
-/

namespace StackCalc

/-- Why an operation has nothing to give. -/
inductive Breakdown
  /-- An operand was taken off an empty stack, or looked at there. -/
  | emptyStack
  /-- An instruction was looked up in a table that does not have it. -/
  | missingEntry
  /-- A magnitude was divided by zero. -/
  | zeroDivisor
  /-- The tape was read behind its end. -/
  | offTape
deriving DecidableEq

/-- Why work has ended before it was done. -/
inductive Failure
  /-- The step was refused. -/
  | fault (fault : Fault)
  /-- An operation broke down. -/
  | breakdown (breakdown : Breakdown)
deriving DecidableEq

/-- How far a step has come. -/
structure Progress where
  /-- The calculator by now. -/
  calculator : Calculator
  /-- The values shown so far. -/
  shown : List Int
deriving DecidableEq

/-- Work on a calculator, which may fail half-way. -/
abbrev Work := ExceptT Failure (StateM Progress)

namespace Work

/-- What comes of work, and how far it has come by then. -/
def startedAt {α : Type} (work : Work α) (p : Progress) : Except Failure α × Progress :=
  (ExceptT.run work).run p

/-! ## Operations -/

/-- The operands on the stack. -/
def stack : Work (List Int) := do
  return (← get).calculator.stack

/-- Take the top operand off the stack. -/
def pop : Work Int := do
  match ← stack with
  | [] => throw (.breakdown .emptyStack)
  | top :: below =>
    modify fun p => { p with calculator.stack := below }
    return top

/-- Look at the top operand. -/
def peek : Work Int := do
  match ← stack with
  | [] => throw (.breakdown .emptyStack)
  | top :: _ => return top

/-- Show values. -/
def putOut (values : List Int) : Work Unit :=
  modify fun p => { p with shown := p.shown ++ values }

/-- Read the number under the cursor and move on. -/
def readTape : Work Int := do
  let tape := (← get).calculator.tape
  match RandomTape.numbers[tape.cursor]? with
  | none => throw (.breakdown .offTape)
  | some n =>
    modify fun p => { p with calculator.tape := tape.advance }
    return n

/-- Look an instruction up in a table. -/
def entry {α : Type} (table : List (Instruction × α)) (i : Instruction) : Work α :=
  match table.lookup i with
  | none => throw (.breakdown .missingEntry)
  | some a => return a

/-- The quotient or the remainder of magnitudes. -/
def onMagnitudes (f : Nat → Nat → Nat) (m n : Nat) : Work Nat :=
  if n = 0 then throw (.breakdown .zeroDivisor) else return f m n

/-! ## Steps -/

/-- End in a fault under a condition. -/
def refuseIf (condition : Bool) (fault : Fault) : Work Unit :=
  if condition then throw (.fault fault) else return ()

/-- Refuse to go on where there is no room for so many more operands. -/
def checkRoom (count : Nat) : Work Unit := do
  refuseIf (Calculator.capacity < (← stack).length + count) .stackOverflow

/-- Push operands, the last of them on top. -/
def push (operands : List Int) : Work Unit := do
  checkRoom operands.length
  modify fun p => { p with calculator.stack := operands.reverse ++ p.calculator.stack }

/-- Show the top of the stack. -/
def showTop : Work Unit := do
  refuseIf ((← stack) = []) .stackEmpty
  putOut [← peek]

/-- Show the whole stack, top first; an empty stack shows as the smallest operand. -/
def showAll : Work Unit := do
  let operands ← stack
  putOut (if operands = [] then [minOperand] else operands)

/-- Push the next random number. -/
def draw : Work Unit := do
  checkRoom 1
  push [← readTape]

/-- A result had from the magnitudes of two operands, unless the right one is zero. -/
def divideBy (f : Nat → Nat → Nat) (result : Nat → Int) (left right : Int) : Work Int := do
  refuseIf (right = 0) .divideByZero
  return result (← onMagnitudes f left.natAbs right.natAbs)

/-- The quotient of two operands. -/
def divide (left right : Int) : Work Int :=
  let negative := decide (left < 0) != decide (right < 0)
  divideBy (· / ·) (fun magnitude => clamp (Operator.withSign negative magnitude)) left right

/-- The remainder of two operands. -/
def modulo (left right : Int) : Work Int :=
  divideBy (· % ·) (Operator.withSign (decide (left < 0))) left right

/-- The instructions that are not operators. -/
def functions : List (Instruction × Work Unit) :=
  [(.showTop, showTop), (.showAll, showAll), (.draw, draw)]

/-- The operators, by the instruction without `=`.  Two of them divide; the others give a result
whatever the operands are. -/
def operators : List (Instruction × (Int → Int → Work Int)) :=
  [(.apply .add, fun left right => return clamp (left + right)),
    (.apply .subtract, fun left right => return clamp (left - right)),
    (.apply .multiply, fun left right => return clamp (left * right)),
    (.apply .divide, divide),
    (.apply .modulo, modulo),
    (.apply .power, fun base exponent => return Operator.clampedPower base exponent)]

/-- Work that puts operands back when it ends in a fault. -/
def restoring {α : Type} (operands : List Int) (work : Work α) : Work α :=
  tryCatch work fun
    | .fault fault => do
      push operands
      throw (.fault fault)
    | .breakdown breakdown => throw (.breakdown breakdown)

/-- Apply the operator of an instruction to the two topmost operands. -/
def operate (i : Instruction) : Work Unit := do
  let operator ← entry operators i.plain
  refuseIf ((← stack).length < i.arity) .stackUnderflow
  let right ← pop
  putOut (if i.isCompound then [right] else [])
  let left ← pop
  let result ← restoring [left, right] (operator left right)
  push [result]

/-- Follow an instruction. -/
def follow (i : Instruction) : Work Unit :=
  match functions.lookup i with
  | some function => function
  | none => operate i

/-- Take a token: push the operand or follow the instruction that it spells. -/
def take (token : Text) : Work Unit :=
  match Meaning.ofToken? token with
  | some (.operand n) => push [n]
  | some (.instruction i) => follow i
  | none => throw (.fault (.unrecognised token))

end Work

end StackCalc
