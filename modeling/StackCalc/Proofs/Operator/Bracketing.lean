import Mathlib.Algebra.BigOperators.Group.List.Basic
import Mathlib.Algebra.Order.BigOperators.Group.List
import Mathlib.Algebra.Order.BigOperators.GroupWithZero.List
import StackCalc.Expression
import StackCalc.Proofs.Operator.Products

/-!
# StackCalc.Proofs.Operator.Bracketing — sums and products of one sign

Every node of an expression clamps, so where the brackets stand may show in the value: what one
bracket has cut off, an operand of the other sign outside of it cannot take back.  Among operands of
one sign nothing is ever taken back.  There clamping the parts of a sum and then their sum is
clamping the sum once (`clamp_clamp_add_clamp`), and the same goes for products of operands that
are not negative (`clamp_clamp_mul_clamp`): a part that was cut off is still large, and a factor of
zero makes all zero, cut off or not.

What holds of two parts holds of a tree of them (`Expression.eval_of_clampsOnce`): the value of such
an expression is the clamped sum or product of its leaves (`Expression.eval_of_one_sign`), so that
neither their order nor the brackets matter.
-/

namespace StackCalc

/-! ### Clamping the parts and the whole -/

section Parts

variable {m n : ℤ}

theorem clamp_clamp_add_clamp (h : 0 ≤ m ∧ 0 ≤ n ∨ m ≤ 0 ∧ n ≤ 0) :
    clamp (clamp m + clamp n) = clamp (m + n) := by
  simp only [clamp, minOperand, maxOperand]
  omega

theorem clamp_nonneg (h : 0 ≤ n) : 0 ≤ clamp n := by
  simp only [clamp, minOperand, maxOperand]
  omega

theorem clamp_clamp_mul_clamp (hm : 0 ≤ m) (hn : 0 ≤ n) :
    clamp (clamp m * clamp n) = clamp (m * n) := by
  have hne {k : ℤ} (hk : 0 ≤ k) : k ≠ -1 := by omega
  calc clamp (clamp m * clamp n)
      = clamp (m * clamp n) := clamp_clamp_mul (.inr (hne (clamp_nonneg hn)))
    _ = clamp (clamp n * m) := by rw [mul_comm]
    _ = clamp (n * m) := clamp_clamp_mul (.inr (hne hm))
    _ = clamp (m * n) := by rw [mul_comm]

end Parts

/-! ### Operators that may clamp at every step -/

/-- On operands with a property, an operator comes to the clamped total of all operands, although it
is given the clamped totals of two parts; and the total does not depend on the order. -/
structure Operator.ClampsOnce (op : Operator) (total : List ℤ → ℤ) (P : ℤ → Prop) : Prop where
  single : ∀ n, total [n] = n
  append : ∀ ns ms, (∀ n ∈ ns, P n) → (∀ m ∈ ms, P m) →
    op.eval (clamp (total ns)) (clamp (total ms)) = .ok (clamp (total (ns ++ ms)))
  perm : ∀ {ns ms : List ℤ}, ns.Perm ms → total ns = total ms

namespace Operator

/-- A property of one sign is one that sums keep. -/
theorem clampsOnce_add {P : ℤ → Prop} (hzero : P 0) (hadd : ∀ m n, P m → P n → P (m + n))
    (hsign : ∀ m n, P m → P n → 0 ≤ m ∧ 0 ≤ n ∨ m ≤ 0 ∧ n ≤ 0) :
    add.ClampsOnce List.sum P where
  single _ := List.sum_singleton
  append ns ms hns hms := by
    have hsums : P ns.sum ∧ P ms.sum :=
      ⟨List.sum_induction P hadd hzero hns, List.sum_induction P hadd hzero hms⟩
    rw [eval, clamp_clamp_add_clamp (hsign _ _ hsums.1 hsums.2), List.sum_append]
  perm := List.Perm.sum_eq

theorem clampsOnce_add_nonneg : add.ClampsOnce List.sum (0 ≤ ·) :=
  clampsOnce_add le_rfl (fun _ _ => add_nonneg) fun _ _ hm hn => .inl ⟨hm, hn⟩

theorem clampsOnce_add_nonpos : add.ClampsOnce List.sum (· ≤ 0) :=
  clampsOnce_add le_rfl (fun _ _ => add_nonpos) fun _ _ hm hn => .inr ⟨hm, hn⟩

theorem clampsOnce_multiply_nonneg : multiply.ClampsOnce List.prod (0 ≤ ·) where
  single _ := List.prod_singleton
  append ns ms hns hms := by
    have hprods := clamp_clamp_mul_clamp (List.prod_nonneg hns) (List.prod_nonneg hms)
    rw [eval, hprods, List.prod_append]
  perm := List.Perm.prod_eq

end Operator

/-! ### Expressions of one operator -/

namespace Expression

variable {op : Operator} {total : List ℤ → ℤ} {P : ℤ → Prop} {e e' : Expression}

/-- Every node of an expression is the same operator. -/
def AllNodes (op : Operator) : Expression → Prop
  | leaf _ => True
  | node op' left right => op' = op ∧ left.AllNodes op ∧ right.AllNodes op

/-- **Clamping at every node is clamping once**, where it is so for two parts of a total. -/
theorem eval_of_clampsOnce (hop : op.ClampsOnce total P) (hnodes : e.AllNodes op)
    (hrange : ∀ n ∈ e.leaves, InRange n) (hleaves : ∀ n ∈ e.leaves, P n) :
    e.eval = .ok (clamp (total e.leaves)) := by
  induction e with
  | leaf n =>
    have hn : InRange n := hrange n (by simp [leaves])
    rw [leaves, hop.single, clamp_of_inRange hn, eval]
  | node op' left right ihl ihr =>
    obtain ⟨rfl, hleft, hright⟩ := hnodes
    rw [leaves, List.forall_mem_append] at hrange hleaves
    have hl := ihl hleft hrange.1 hleaves.1
    have hr := ihr hright hrange.2 hleaves.2
    rw [eval, hl, hr]
    exact hop.append _ _ hleaves.1 hleaves.2

/-- Where clamping at every node is clamping once, only the leaves count, in whatever order. -/
theorem eval_of_perm (hop : op.ClampsOnce total P) (hnodes : e.AllNodes op)
    (hnodes' : e'.AllNodes op) (hrange : ∀ n ∈ e.leaves, InRange n)
    (hleaves : ∀ n ∈ e.leaves, P n) (hperm : e'.leaves.Perm e.leaves) : e'.eval = e.eval := by
  have hmem (n : ℤ) : n ∈ e'.leaves → n ∈ e.leaves := hperm.mem_iff.1
  rw [eval_of_clampsOnce hop hnodes hrange hleaves,
    eval_of_clampsOnce hop hnodes' (fun n hn => hrange n (hmem n hn))
      (fun n hn => hleaves n (hmem n hn)), hop.perm hperm]

/-- **The value of a sum of one sign, or of a product without negative factors, is the clamped sum
or product of the leaves.**  It depends neither on their order nor on the brackets. -/
theorem eval_of_one_sign :
    (∀ e : Expression, e.AllNodes .add → (∀ n ∈ e.leaves, InRange n) →
      ((∀ n ∈ e.leaves, 0 ≤ n) ∨ ∀ n ∈ e.leaves, n ≤ 0) →
      e.eval = .ok (clamp e.leaves.sum) ∧
        ∀ e' : Expression, e'.AllNodes .add → e'.leaves.Perm e.leaves → e'.eval = e.eval) ∧
    ∀ e : Expression, e.AllNodes .multiply → (∀ n ∈ e.leaves, InRange n) →
      (∀ n ∈ e.leaves, 0 ≤ n) →
      e.eval = .ok (clamp e.leaves.prod) ∧
        ∀ e' : Expression, e'.AllNodes .multiply → e'.leaves.Perm e.leaves → e'.eval = e.eval := by
  constructor
  · rintro e hnodes hrange (hnonneg | hnonpos)
    · have hop := Operator.clampsOnce_add_nonneg
      exact ⟨eval_of_clampsOnce hop hnodes hrange hnonneg,
        fun e' hnodes' => eval_of_perm hop hnodes hnodes' hrange hnonneg⟩
    · have hop := Operator.clampsOnce_add_nonpos
      exact ⟨eval_of_clampsOnce hop hnodes hrange hnonpos,
        fun e' hnodes' => eval_of_perm hop hnodes hnodes' hrange hnonpos⟩
  · intro e hnodes hrange hnonneg
    have hop := Operator.clampsOnce_multiply_nonneg
    exact ⟨eval_of_clampsOnce hop hnodes hrange hnonneg,
      fun e' hnodes' => eval_of_perm hop hnodes hnodes' hrange hnonneg⟩

/-- A product that is cut off on the way and zero in the end, and a sum that is cut off at the lower
end, each with its leaves in another order and other brackets. -/
theorem eval_of_one_sign_cut :
    let product : Expression :=
      .node .multiply (.node .multiply (.leaf 65536) (.leaf 65536)) (.leaf 0)
    let product' : Expression :=
      .node .multiply (.leaf 65536) (.node .multiply (.leaf 0) (.leaf 65536))
    let sum : Expression := .node .add (.node .add (.leaf (-2147483648)) (.leaf (-1))) (.leaf (-5))
    let sum' : Expression := .node .add (.leaf (-2147483648)) (.node .add (.leaf (-5)) (.leaf (-1)))
    (∀ n ∈ product.leaves, InRange n ∧ 0 ≤ n) ∧ product.eval = .ok 0 ∧ product'.eval = .ok 0 ∧
      (∀ n ∈ sum.leaves, InRange n ∧ n ≤ 0) ∧ sum.eval = .ok (-2147483648) ∧
      sum'.eval = .ok (-2147483648) := by
  intro product product' sum sum'
  obtain ⟨hsums, hproducts⟩ := eval_of_one_sign
  have hfactors : ∀ n ∈ product.leaves, InRange n ∧ 0 ≤ n := by decide
  have hterms : ∀ n ∈ sum.leaves, InRange n ∧ n ≤ 0 := by decide
  have hproduct := hproducts product (by simp [product, AllNodes])
    (fun n hn => (hfactors n hn).1) fun n hn => (hfactors n hn).2
  have hsum := hsums sum (by simp [sum, AllNodes]) (fun n hn => (hterms n hn).1)
    (.inr fun n hn => (hterms n hn).2)
  refine ⟨hfactors, hproduct.1.trans (by decide), ?_, hterms, hsum.1.trans (by decide), ?_⟩
  · rw [hproduct.2 product' (by simp [product', AllNodes]) (by decide), hproduct.1]
    decide
  · rw [hsum.2 sum' (by simp [sum', AllNodes]) (by decide), hsum.1]
    decide

/-- Operands of both signs: the first bracket cuts off what the last operand takes back. -/
example :
    (node .add (node .add (leaf 2147483647) (leaf 1)) (leaf (-1))).eval = .ok 2147483646 ∧
      (node .add (leaf 2147483647) (node .add (leaf 1) (leaf (-1)))).eval = .ok 2147483647 := by
  decide

end Expression

end StackCalc
