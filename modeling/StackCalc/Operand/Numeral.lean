import Mathlib.Algebra.Group.Nat.Defs
import StackCalc.Operand

/-!
# StackCalc.Operand.Numeral — numerals and their values

A numeral is a sign, or none, and behind it decimal digits, of any script and at least one.  Its
value is said without reading it from left to right: each digit counts as many times the power of
ten of its place as it says.

An operand may have ten digits, and zeros in front are free as far as they are ASCII zeros.  So a
numeral can be overlong although its value has few digits, when zeros of other scripts stand in
front.
-/

namespace StackCalc.Operand

/-- What may stand in front of the digits of a numeral. -/
inductive Sign
  | none
  | plus
  | minus
deriving DecidableEq

namespace Sign

/-- A sign as it is written. -/
def text : Sign → Text
  | none => []
  | plus => ['+']
  | minus => ['-']

/-- What a sign multiplies by. -/
def factor : Sign → Int
  | none => 1
  | plus => 1
  | minus => -1

end Sign

/-- What a digit says. -/
def digitWorth (c : Char) : Nat := (Text.digitValue? c).getD 0

/-- What digits are worth, each as many times the power of ten of its place as it says. -/
def worth : Text → Nat
  | [] => 0
  | c :: rest => digitWorth c * 10 ^ rest.length + worth rest

/-- A sign, or none, and decimal digits of any script, at least one. -/
structure Numeral where
  sign : Sign
  digits : Text
  digits_ne_nil : digits ≠ []
  isDigit_of_mem : ∀ c ∈ digits, Text.isDigit c = true

namespace Numeral

/-- A numeral as it is written. -/
def text (numeral : Numeral) : Text := numeral.sign.text ++ numeral.digits

/-- The integer that a numeral denotes. -/
def value (numeral : Numeral) : Int := numeral.sign.factor * worth numeral.digits

/-- The digits of a numeral behind the ASCII zeros in front. -/
def bare (numeral : Numeral) : Text := numeral.digits.dropWhile (· == '0')

/-- The number of digits that are left when as many ASCII zeros in front are taken off as can be,
one digit being left at least. -/
def kept (numeral : Numeral) : Nat := max 1 numeral.bare.length

/-- More than ten digits are left behind the ASCII zeros in front, and the first of them is a zero,
of another script then. -/
def Overlong (numeral : Numeral) : Prop :=
  10 < numeral.kept ∧ numeral.bare.head?.bind Text.digitValue? = some 0

instance (numeral : Numeral) : Decidable numeral.Overlong := inferInstanceAs (Decidable (_ ∧ _))

/-- The numeral with ASCII zeros between its sign and its digits. -/
def withZeros (count : Nat) (numeral : Numeral) : Numeral where
  sign := numeral.sign
  digits := List.replicate count '0' ++ numeral.digits
  digits_ne_nil := by simp [numeral.digits_ne_nil]
  isDigit_of_mem := by
    intro c hc
    rcases List.mem_append.1 hc with hc | hc
    · rw [List.eq_of_mem_replicate hc]
      rfl
    · exact numeral.isDigit_of_mem c hc

theorem bare_withZeros (count : Nat) (numeral : Numeral) :
    (numeral.withZeros count).bare = numeral.bare :=
  List.dropWhile_append_of_pos fun c hc => by rw [List.eq_of_mem_replicate hc]; rfl

theorem kept_withZeros (count : Nat) (numeral : Numeral) :
    (numeral.withZeros count).kept = numeral.kept := by
  rw [kept, bare_withZeros, kept]

end Numeral

end StackCalc.Operand
