import StackCalc.Operator

/-!
# StackCalc.Meaning — what a token means

A token is an operand, an instruction or neither.  No token is both; the operand is looked for
first.

An instruction shows the top of the stack (`=`), shows the whole stack (`d`), draws the next random
operand (`r`), or applies an operator.  An operator with `=` behind it shows the top of the stack
first.
-/

namespace StackCalc

/-! ## Instructions -/

/-- What a token may ask of a calculator. -/
inductive Instruction
  /-- Show the top of the stack. -/
  | showTop
  /-- Show the whole stack, top first. -/
  | showAll
  /-- Push the next random operand. -/
  | draw
  /-- Replace the two topmost operands by their result. -/
  | apply (op : Operator)
  /-- Show the top of the stack, then apply the operator. -/
  | showApply (op : Operator)
deriving DecidableEq

namespace Instruction

/-- The token that spells an instruction. -/
def spelling : Instruction → Text
  | showTop => ['=']
  | showAll => ['d']
  | draw => ['r']
  | apply op => [op.symbol]
  | showApply op => [op.symbol, '=']

/-- The instruction that a token spells. -/
def ofSpelling? : Text → Option Instruction
  | [c] =>
    if c = '=' then some showTop
    else if c = 'd' then some showAll
    else if c = 'r' then some draw
    else (Operator.ofSymbol? c).map apply
  | [c, d] => if d = '=' then (Operator.ofSymbol? c).map showApply else none
  | _ => none

/-- The instruction without the showing that an operator with `=` adds. -/
def plain : Instruction → Instruction
  | showApply op => apply op
  | i => i

/-- Whether an instruction is an operator with `=` behind it. -/
def isCompound : Instruction → Bool
  | showApply _ => true
  | _ => false

/-- The number of operands that an instruction takes off the stack. -/
def arity : Instruction → Nat
  | apply _ | showApply _ => 2
  | _ => 0

/-! ### Spellings and instructions match -/

theorem ofSpelling?_spelling (i : Instruction) : ofSpelling? i.spelling = some i := by
  cases i with
  | apply op => cases op <;> rfl
  | showApply op =>
    rw [spelling, ofSpelling?, if_pos rfl, Operator.ofSymbol?_symbol]
    rfl
  | _ => rfl

theorem spelling_of_ofSpelling? {t : Text} {i : Instruction} (h : ofSpelling? t = some i) :
    i.spelling = t := by
  match t, h with
  | [c], h =>
    rw [ofSpelling?] at h
    by_cases h1 : c = '='
    · rw [if_pos h1] at h
      cases h
      rw [h1, spelling]
    rw [if_neg h1] at h
    by_cases h2 : c = 'd'
    · rw [if_pos h2] at h
      cases h
      rw [h2, spelling]
    rw [if_neg h2] at h
    by_cases h3 : c = 'r'
    · rw [if_pos h3] at h
      cases h
      rw [h3, spelling]
    rw [if_neg h3] at h
    obtain ⟨op, hop, rfl⟩ := Option.map_eq_some_iff.1 h
    rw [spelling, Operator.symbol_of_ofSymbol? hop]
  | [c, d], h =>
    rw [ofSpelling?] at h
    by_cases hd : d = '='
    · rw [if_pos hd] at h
      obtain ⟨op, hop, rfl⟩ := Option.map_eq_some_iff.1 h
      rw [spelling, Operator.symbol_of_ofSymbol? hop, hd]
    · rw [if_neg hd] at h
      cases h

end Instruction

/-! ## Meanings -/

/-- What a token means to a calculator. -/
inductive Meaning
  /-- Push the operand. -/
  | operand (n : Int)
  /-- Follow the instruction. -/
  | instruction (i : Instruction)
deriving DecidableEq

namespace Meaning

/-- The meaning of a token that has one. -/
def ofToken? (token : Text) : Option Meaning :=
  match Operand.ofToken? token with
  | some n => some (operand n)
  | none => (Instruction.ofSpelling? token).map instruction

theorem ofToken?_of_operand {token : Text} {n : Int} (h : Operand.ofToken? token = some n) :
    ofToken? token = some (operand n) := by
  rw [ofToken?, h]

/-- No token that spells an instruction spells an operand too. -/
theorem operand_spelling (i : Instruction) : Operand.ofToken? i.spelling = none := by
  cases i with
  | apply op => cases op <;> rfl
  | showApply op => cases op <;> rfl
  | _ => rfl

theorem ofToken?_spelling (i : Instruction) : ofToken? i.spelling = some (instruction i) := by
  rw [ofToken?, operand_spelling, Instruction.ofSpelling?_spelling]
  rfl

theorem spelling_of_ofToken? {token : Text} {i : Instruction}
    (h : ofToken? token = some (instruction i)) : i.spelling = token := by
  unfold ofToken? at h
  split at h
  · cases h
  · obtain ⟨j, hj, heq⟩ := Option.map_eq_some_iff.1 h
    cases heq
    exact Instruction.spelling_of_ofSpelling? hj

end Meaning

end StackCalc
