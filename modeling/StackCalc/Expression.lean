import StackCalc.Operator
import StackCalc.Text.Basic

/-!
# StackCalc.Expression — expressions as trees

An expression is an operand or an operator on two expressions.  `text` writes it operands first,
which is the form that a calculator takes; `eval` is its value, and `need` the room on the stack
that it takes to work the value out.
-/

namespace StackCalc

/-- An expression over operands and operators. -/
inductive Expression
  /-- An operand. -/
  | leaf (n : Int)
  /-- An operator on a left and a right expression. -/
  | node (op : Operator) (left right : Expression)

namespace Expression

/-- The line of an expression, operands first. -/
def text : Expression → Text
  | leaf n => Text.decimal n
  | node op left right => text left ++ ' ' :: text right ++ [' ', op.symbol]

/-- The value of an expression, where no division by zero occurs. -/
def eval : Expression → Except Fault Int
  | leaf n => .ok n
  | node op left right => do
    let l ← eval left
    let r ← eval right
    op.eval l r

/-- The room on the stack that working out the value takes. -/
def need : Expression → Nat
  | leaf _ => 1
  | node _ left right => max (need left) (1 + need right)

/-- The operands at the leaves, from left to right. -/
def leaves : Expression → List Int
  | leaf n => [n]
  | node _ left right => leaves left ++ leaves right

/-! ### Every expression needs room -/

theorem need_pos (e : Expression) : 0 < e.need := by
  induction e with
  | leaf n => exact Nat.one_pos
  | node op left right ihl ihr => exact Nat.lt_of_lt_of_le ihl (Nat.le_max_left _ _)

end Expression

end StackCalc
