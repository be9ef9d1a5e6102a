import StackCalc.Expression
import StackCalc.Proofs.Calculator.Numerals

/-!
# StackCalc.Proofs.Expression — a calculator works out expressions

The line of an expression is read back as the numerals of its leaves and the symbols of its
operators, operands first.  Taken in order, these push the value of the expression on whatever stack
there is, and nothing else happens, exactly when the stack has the room that the expression needs;
where it has not, some operand on the way finds no room and is reported.
-/

namespace StackCalc

namespace Expression

/-- The tokens of an expression, operands first. -/
def words : Expression → List Text
  | leaf n => [Text.decimal n]
  | node op left right => words left ++ words right ++ [[op.symbol]]

/-- No quotient and no remainder has a right operand of zero. -/
def NoZeroDivisor : Expression → Prop
  | leaf _ => True
  | node op left right => left.NoZeroDivisor ∧ right.NoZeroDivisor ∧
      (op = .divide ∨ op = .modulo → right.eval ≠ .ok 0)

/-! ### The value of an expression -/

theorem eval_node_eq_ok_iff {op : Operator} {left right : Expression} {v : Int} :
    (node op left right).eval = .ok v ↔
      ∃ l r, left.eval = .ok l ∧ right.eval = .ok r ∧ op.eval l r = .ok v := by
  simp only [eval, bind, Except.bind]
  cases left.eval with
  | error fault => simp
  | ok l =>
    cases right.eval with
    | error fault => simp
    | ok r => simp

theorem exists_eval {e : Expression} (h : e.NoZeroDivisor) : ∃ v, e.eval = .ok v := by
  induction e with
  | leaf n => exact ⟨n, rfl⟩
  | node op left right ihl ihr =>
    obtain ⟨hleft, hright, hdivisor⟩ := h
    obtain ⟨l, hl⟩ := ihl hleft
    obtain ⟨r, hr⟩ := ihr hright
    cases hop : op.eval l r with
    | ok v => exact ⟨v, eval_node_eq_ok_iff.2 ⟨l, r, hl, hr, hop⟩⟩
    | error fault =>
      obtain ⟨hkind, rfl, -⟩ := Operator.eval_eq_error_iff.1 hop
      exact absurd hr (hdivisor hkind)

/-! ### The line of an expression -/

theorem words_ne_nil (e : Expression) : e.words ≠ [] := by
  cases e <;> simp [words]

theorem text_eq_intercalate (e : Expression) : e.text = [' '].intercalate e.words := by
  induction e with
  | leaf n => exact List.intercalate_singleton.symm
  | node op left right ihl ihr =>
    rw [text, words, Line.intercalate_append (by simp [words_ne_nil]) (by simp),
      Line.intercalate_append left.words_ne_nil right.words_ne_nil, ihl, ihr]
    simp

theorem wellFormed_symbol (op : Operator) : Line.WellFormed [op.symbol] := by
  by_cases hminus : op = .subtract
  · rw [hminus]
    refine ⟨by simp, .inr (.inr (.inr (.inr (Line.isRun_of_not_mem ?_ (by decide)))))⟩
    intro c hc
    rw [List.mem_singleton.1 hc]
    decide
  · refine ⟨by simp, .inl ⟨op.symbol, ?_, rfl⟩⟩
    cases op with
    | subtract => exact absurd rfl hminus
    | _ => rfl

/-- What a token of an expression looks like. -/
theorem word_cases {e : Expression} {w : Text} (hw : w ∈ e.words) :
    (∃ n, w = Text.decimal n) ∨ ∃ op : Operator, w = [op.symbol] := by
  induction e with
  | leaf n => exact .inl ⟨n, List.mem_singleton.1 hw⟩
  | node op left right ihl ihr =>
    rw [words, List.mem_append, List.mem_append, List.mem_singleton] at hw
    rcases hw with (hw | hw) | hw
    · exact ihl hw
    · exact ihr hw
    · exact .inr ⟨op, hw⟩

theorem plain_of_mem_words {e : Expression} {c : Char} (hc : c ∈ e.words.flatten) :
    Line.isEdge c = false ∧ c ≠ '#' := by
  obtain ⟨w, hw, hc⟩ := List.mem_flatten.1 hc
  rcases word_cases hw with ⟨n, rfl⟩ | ⟨op, rfl⟩
  · obtain ⟨hedge, -, -, -, hmark⟩ := Line.plain_of_mem_decimal hc
    exact ⟨hedge, hmark⟩
  · rw [List.mem_singleton.1 hc]
    cases op <;> decide

theorem normal_words (e : Expression) : Line.Normal e.words := by
  refine Line.normal_of_plain (fun w hw => ?_) fun c hc => plain_of_mem_words hc
  rcases word_cases hw with ⟨n, rfl⟩ | ⟨op, rfl⟩
  · exact Line.wellFormed_decimal n
  · exact wellFormed_symbol op

theorem tokens_text (e : Expression) : Line.tokens e.text = e.words := by
  rw [text_eq_intercalate, Line.tokens_intercalate e.normal_words]

end Expression

namespace Calculator

open Expression

/-! ### Tokens of an expression as steps -/

theorem runTokens_singleton (verbose : Bool) (c : Calculator) (token : Text) :
    c.runTokens verbose [token] =
      ⟨(c.take token).calculator, (c.take token).reports, (c.take token).traced verbose⟩ := by
  simp [runTokens]

theorem take_symbol (op : Operator) (c : Calculator) :
    c.take [op.symbol] = c.operate op false := take_spelling c (.apply op)

/-- Where there is room, an operator replaces the values of its operands by its result. -/
theorem take_symbol_of_ok {op : Operator} {left right v : Int} (h : op.eval left right = .ok v)
    {c : Calculator} (hc : c.stack.length + 2 ≤ capacity) :
    take { c with stack := right :: left :: c.stack } [op.symbol] =
      .done { c with stack := v :: c.stack } := by
  rw [take_symbol]
  rcases operate_cases (c := { c with stack := right :: left :: c.stack }) hc op false with
    ⟨hlength, -⟩ | ⟨right', left', below, hstack, hcases⟩
  · simp only [List.length_cons] at hlength
    omega
  · cases hstack
    rcases hcases with ⟨result, heval, heq⟩ | ⟨fault, heval, -⟩
    · rw [h] at heval
      cases heval
      exact heq
    · rw [h] at heval
      cases heval

/-! ### Working out an expression -/

/-- Where there is room, the tokens of an expression push its value and do nothing else. -/
theorem runTokens_words (verbose : Bool) {e : Expression} (hleaves : ∀ n ∈ e.leaves, InRange n)
    {v : Int} (hv : e.eval = .ok v) {c : Calculator} (hc : c.stack.length + e.need ≤ capacity) :
    c.runTokens verbose e.words = ⟨{ c with stack := v :: c.stack }, [], []⟩ := by
  -- over every stack, since the right operand is worked out on top of the value of the left one
  induction e generalizing c v with
  | leaf n =>
    cases hv
    rw [words, runTokens_singleton, take_decimal (hleaves n (by simp [leaves])), push_of_le hc]
    simp [Outcome.reports, Outcome.traced, Outcome.done]
  | node op left right ihl ihr =>
    obtain ⟨l, r, hl, hr, hop⟩ := eval_node_eq_ok_iff.1 hv
    have hneed : c.stack.length + max left.need (1 + right.need) ≤ capacity := hc
    have hrun_left := ihl (fun n hn => hleaves n (by simp [leaves, hn])) hl
      (c := c) (by omega)
    have hrun_right := ihr (fun n hn => hleaves n (by simp [leaves, hn])) hr
      (c := { c with stack := l :: c.stack }) (by simp only [List.length_cons]; omega)
    have htwo : c.stack.length + 2 ≤ capacity := by
      have := right.need_pos
      omega
    rw [words, runTokens_append, runTokens_append, hrun_left]
    simp only [hrun_right, runTokens_singleton, take_symbol_of_ok hop htwo]
    simp [Outcome.reports, Outcome.traced, Outcome.done]

/-- Where there is no room, some token of an expression is reported. -/
theorem out_runTokens_words_ne_nil (verbose : Bool) {e : Expression}
    (hleaves : ∀ n ∈ e.leaves, InRange n) {v : Int} (hv : e.eval = .ok v) {c : Calculator}
    (hc : capacity < c.stack.length + e.need) : (c.runTokens verbose e.words).out ≠ [] := by
  induction e generalizing c v with
  | leaf n =>
    rw [words, runTokens_singleton, take_decimal (hleaves n (by simp [leaves])), push_of_lt hc]
    simp [Outcome.reports, Outcome.failed]
  | node op left right ihl ihr =>
    obtain ⟨l, r, hl, hr, -⟩ := eval_node_eq_ok_iff.1 hv
    have hleft : ∀ n ∈ left.leaves, InRange n := fun n hn => hleaves n (by simp [leaves, hn])
    have hright : ∀ n ∈ right.leaves, InRange n := fun n hn => hleaves n (by simp [leaves, hn])
    have hneed : capacity < c.stack.length + max left.need (1 + right.need) := hc
    rw [words, runTokens_append, runTokens_append]
    -- the room runs out within the left expression, or else on top of its value
    by_cases hroom : c.stack.length + left.need ≤ capacity
    · have hout := ihr hright hr (c := { c with stack := l :: c.stack })
        (by simp only [List.length_cons]; omega)
      rw [runTokens_words verbose hleft hl hroom]
      simp [hout]
    · have hout := ihl hleft hl (c := c) (by omega)
      simp [hout]

/-- **A calculator works out every expression that it has room for.**  An expression over operands
that divides by no zero has a value; its line puts nothing out exactly when what it needs fits on
top of the stack, and then its value is on top and all else is as it was. -/
theorem runLine_text (verbose : Bool) (e : Expression) (hleaves : ∀ n ∈ e.leaves, InRange n)
    (hdivisor : e.NoZeroDivisor) (c : Calculator) :
    ∃ v, e.eval = .ok v ∧
      ((c.runLine verbose e.text).out = [] ↔ c.stack.length + e.need ≤ 23) ∧
      (c.stack.length + e.need ≤ 23 →
        (c.runLine verbose e.text).calculator = { c with stack := v :: c.stack }) := by
  obtain ⟨v, hv⟩ := exists_eval hdivisor
  refine ⟨v, hv, ⟨?_, ?_⟩, ?_⟩
  · intro hout
    by_contra hroom
    rw [runLine, tokens_text] at hout
    exact out_runTokens_words_ne_nil verbose hleaves hv (Nat.lt_of_not_le hroom) hout
  · intro hroom
    rw [runLine, tokens_text, runTokens_words verbose hleaves hv hroom]
  · intro hroom
    rw [runLine, tokens_text, runTokens_words verbose hleaves hv hroom]

/-- On a new calculator, `5 -3 + 2 /` pushes `1` and puts nothing out. -/
theorem runLine_text_quotient :
    let e : Expression := .node .divide (.node .add (.leaf 5) (.leaf (-3))) (.leaf 2)
    (∀ n ∈ e.leaves, InRange n) ∧ e.NoZeroDivisor ∧ e.eval = .ok 1 ∧ e.need = 2 ∧
      (Calculator.fresh.runLine false e.text).out = [] ∧
      (Calculator.fresh.runLine false e.text).calculator =
        { Calculator.fresh with stack := [1] } := by
  intro e
  have hleaves : ∀ n ∈ e.leaves, InRange n := by decide
  have hdivisor : e.NoZeroDivisor :=
    ⟨⟨trivial, trivial, fun _ => by decide⟩, trivial, fun _ => by decide⟩
  have hvalue : e.eval = .ok 1 := by decide
  obtain ⟨v, hv, hout, hcalculator⟩ := runLine_text false e hleaves hdivisor Calculator.fresh
  have hroom : Calculator.fresh.stack.length + e.need ≤ 23 := by decide
  have hone : v = 1 := Except.ok.inj (hv.symm.trans hvalue)
  refine ⟨hleaves, hdivisor, hvalue, rfl, hout.2 hroom, ?_⟩
  rw [hcalculator hroom, hone]
  rfl

end Calculator

end StackCalc
