import StackCalc.Calculator.Primitive
import StackCalc.Proofs.Calculator.Reachable

/-!
# StackCalc.Proofs.Calculator.Breakdowns — no operation ever breaks down

A step asks for what it needs before it relies on it: it counts the operands before it takes any,
and it looks at the right operand before it divides.  What it does not ask for is there all the
same: every operator has its entry in the table, and the cursor of a sound calculator is on the
tape.  So on a sound calculator the operations of a step all find what they need; the two accounts
of a step agree, and work that fails has met a fault (`startedAt_take`).

The rules come first, one for each form of work; the steps are then followed from rule to rule.
-/

namespace StackCalc

/-- An outcome as what comes of work: its fault is a failure, and no operation has broken down. -/
def Outcome.ended (o : Outcome) : Except Failure Unit × Progress :=
  (match o.fault? with
    | none => .ok ()
    | some fault => .error (.fault fault), ⟨o.calculator, o.shown⟩)

namespace Work

open Calculator (capacity)

variable {α β : Type} {p q : Progress}

/-! ## Rules -/

theorem startedAt_bind (work : Work α) (f : α → Work β) (p : Progress) :
    startedAt (work >>= f) p =
      match startedAt work p with
      | (.ok a, q) => startedAt (f a) q
      | (.error failure, q) => (.error failure, q) := by
  unfold startedAt ExceptT.run StateT.run
  simp only [bind, ExceptT.bind, ExceptT.mk, StateT.bind]
  rcases work p with ⟨_ | _, q⟩ <;> rfl

/-- Work goes on behind work that is done. -/
theorem startedAt_bind_of_ok {work : Work α} {f : α → Work β} {a : α}
    (h : startedAt work p = (.ok a, q)) : startedAt (work >>= f) p = startedAt (f a) q := by
  rw [startedAt_bind, h]

/-- Nothing comes behind a failure. -/
theorem startedAt_bind_of_error {work : Work α} {f : α → Work β} {failure : Failure}
    (h : startedAt work p = (.error failure, q)) :
    startedAt (work >>= f) p = (.error failure, q) := by
  rw [startedAt_bind, h]

theorem startedAt_tryCatch (work : Work α) (handle : Failure → Work α) (p : Progress) :
    startedAt (tryCatch work handle) p =
      match startedAt work p with
      | (.ok a, q) => (.ok a, q)
      | (.error failure, q) => startedAt (handle failure) q := by
  unfold startedAt ExceptT.run StateT.run
  simp only [tryCatch, tryCatchThe, MonadExceptOf.tryCatch, ExceptT.tryCatch, ExceptT.mk, bind,
    StateT.bind]
  rcases work p with ⟨_ | _, q⟩ <;> rfl

theorem startedAt_stack (p : Progress) : startedAt stack p = (.ok p.calculator.stack, p) := rfl

theorem startedAt_putOut (values : List Int) (p : Progress) :
    startedAt (putOut values) p = (.ok (), { p with shown := p.shown ++ values }) := rfl

section Refusals

variable {P : Prop} [Decidable P]

theorem startedAt_refuseIf_of_pos (h : P) (fault : Fault) (p : Progress) :
    startedAt (refuseIf P fault) p = (.error (.fault fault), p) := by
  rw [decide_eq_true h]
  rfl

theorem startedAt_refuseIf_of_neg (h : ¬ P) (fault : Fault) (p : Progress) :
    startedAt (refuseIf P fault) p = (.ok (), p) := by
  rw [decide_eq_false h]
  rfl

end Refusals

theorem startedAt_pop {top : Int} {below : List Int} (h : p.calculator.stack = top :: below) :
    startedAt pop p = (.ok top, { p with calculator.stack := below }) := by
  rw [pop, startedAt_bind_of_ok (startedAt_stack p), h]
  rfl

theorem startedAt_peek {top : Int} {below : List Int} (h : p.calculator.stack = top :: below) :
    startedAt peek p = (.ok top, p) := by
  rw [peek, startedAt_bind_of_ok (startedAt_stack p), h]
  rfl

/-- A cursor on the tape finds its number. -/
theorem startedAt_readTape (h : p.calculator.tape.cursor < RandomTape.numbers.length) :
    startedAt readTape p =
      (.ok p.calculator.tape.value, { p with calculator.tape := p.calculator.tape.advance }) := by
  have hnumber : RandomTape.numbers[p.calculator.tape.cursor]? = some p.calculator.tape.value := by
    rw [RandomTape.value, List.getD_eq_getElem?_getD, List.getElem?_eq_getElem h, Option.getD_some]
  have hget : startedAt get p = (.ok p, p) := rfl
  rw [readTape, startedAt_bind_of_ok hget]
  dsimp only
  rw [hnumber]
  rfl

theorem startedAt_onMagnitudes (f : Nat → Nat → Nat) (m : Nat) {n : Nat} (hn : n ≠ 0)
    (p : Progress) : startedAt (onMagnitudes f m n) p = (.ok (f m n), p) := by
  rw [onMagnitudes, if_neg hn]
  rfl

theorem startedAt_checkRoom_of_le {count : Nat}
    (h : p.calculator.stack.length + count ≤ capacity) :
    startedAt (checkRoom count) p = (.ok (), p) := by
  rw [checkRoom, startedAt_bind_of_ok (startedAt_stack p),
    startedAt_refuseIf_of_neg (Nat.not_lt.2 h)]

theorem startedAt_checkRoom_of_lt {count : Nat}
    (h : capacity < p.calculator.stack.length + count) :
    startedAt (checkRoom count) p = (.error (.fault .stackOverflow), p) := by
  rw [checkRoom, startedAt_bind_of_ok (startedAt_stack p), startedAt_refuseIf_of_pos h]

theorem startedAt_push_of_le {operands : List Int}
    (h : p.calculator.stack.length + operands.length ≤ capacity) :
    startedAt (push operands) p =
      (.ok (), { p with calculator.stack := operands.reverse ++ p.calculator.stack }) := by
  rw [push, startedAt_bind_of_ok (startedAt_checkRoom_of_le h)]
  rfl

theorem startedAt_push_of_lt {operands : List Int}
    (h : capacity < p.calculator.stack.length + operands.length) :
    startedAt (push operands) p = (.error (.fault .stackOverflow), p) := by
  rw [push, startedAt_bind_of_error (startedAt_checkRoom_of_lt h)]

/-! ## Steps -/

variable {c : Calculator}

theorem startedAt_push (c : Calculator) (operands : List Int) :
    startedAt (push operands) ⟨c, []⟩ = (c.push operands).ended := by
  rcases Calculator.push_cases c operands with ⟨hroom, heq⟩ | ⟨hfull, heq⟩
  · rw [heq, startedAt_push_of_le hroom]
    rfl
  · rw [heq, startedAt_push_of_lt hfull]
    rfl

theorem startedAt_draw (h : c.tape.cursor < RandomTape.numbers.length) :
    startedAt draw ⟨c, []⟩ = c.draw.ended := by
  rcases Calculator.draw_cases c with ⟨hroom, heq⟩ | ⟨hfull, heq⟩
  · have hpush : startedAt (push [c.tape.value]) ⟨{ c with tape := c.tape.advance }, []⟩ =
        (.ok (), ⟨⟨c.tape.value :: c.stack, c.tape.advance⟩, []⟩) := startedAt_push_of_le hroom
    rw [heq, draw, startedAt_bind_of_ok (startedAt_checkRoom_of_le hroom),
      startedAt_bind_of_ok (startedAt_readTape h), hpush]
    rfl
  · rw [heq, draw, startedAt_bind_of_error (startedAt_checkRoom_of_lt (Nat.lt_succ_of_le hfull))]
    rfl

theorem startedAt_showTop (c : Calculator) : startedAt showTop ⟨c, []⟩ = c.showTop.ended := by
  rw [showTop, startedAt_bind_of_ok (startedAt_stack _)]
  rcases Calculator.showTop_cases c with ⟨top, below, hstack, heq⟩ | ⟨hstack, heq⟩
  · have hne : c.stack ≠ [] := by simp [hstack]
    rw [heq, startedAt_bind_of_ok (startedAt_refuseIf_of_neg hne _ _),
      startedAt_bind_of_ok (startedAt_peek hstack), startedAt_putOut]
    rfl
  · rw [heq, startedAt_bind_of_error (startedAt_refuseIf_of_pos hstack _ _)]
    rfl

theorem startedAt_showAll (c : Calculator) : startedAt showAll ⟨c, []⟩ = c.showAll.ended := rfl

/-! ### Operators -/

theorem startedAt_divideBy (f : Nat → Nat → Nat) (result : Nat → Int) (left right : Int)
    (p : Progress) :
    startedAt (divideBy f result left right) p =
      (if right = 0 then .error (.fault .divideByZero)
        else .ok (result (f left.natAbs right.natAbs)), p) := by
  rw [divideBy]
  by_cases h : right = 0
  · rw [startedAt_bind_of_error (startedAt_refuseIf_of_pos h _ _), if_pos h]
  · rw [startedAt_bind_of_ok (startedAt_refuseIf_of_neg h _ _),
      startedAt_bind_of_ok (startedAt_onMagnitudes f _ (Int.natAbs_ne_zero.2 h) p), if_neg h]
    rfl

theorem startedAt_divide (left right : Int) (p : Progress) :
    startedAt (divide left right) p = ((Operator.divide.eval left right).mapError .fault, p) := by
  have hquotient : Operator.withSign (decide (left < 0) != decide (right < 0))
      (left.natAbs / right.natAbs) = left.tdiv right :=
    Operator.magnitudeQuotient_eq_tdiv left right
  rw [divide, startedAt_divideBy, hquotient, Operator.eval]
  split <;> rfl

theorem startedAt_modulo (left right : Int) (p : Progress) :
    startedAt (modulo left right) p = ((Operator.modulo.eval left right).mapError .fault, p) := by
  have hremainder : Operator.withSign (decide (left < 0)) (left.natAbs % right.natAbs) =
      left.tmod right := Operator.magnitudeRemainder_eq_tmod left right
  rw [modulo, startedAt_divideBy, hremainder, Operator.eval]
  split <;> rfl

/-- Every operator has its entry, and what is found there gives what the operator gives. -/
theorem exists_entry (op : Operator) : ∃ f : Int → Int → Work Int,
    (∀ p, startedAt (entry operators (.apply op)) p = (.ok f, p)) ∧
    ∀ left right p, startedAt (f left right) p = ((op.eval left right).mapError .fault, p) := by
  cases op with
  | add | subtract | multiply | power => exact ⟨_, fun p => rfl, fun left right p => rfl⟩
  | divide => exact ⟨_, fun p => rfl, startedAt_divide⟩
  | modulo => exact ⟨_, fun p => rfl, startedAt_modulo⟩

theorem startedAt_restoring_of_ok {operands : List Int} {work : Work α} {a : α}
    (h : startedAt work p = (.ok a, q)) : startedAt (restoring operands work) p = (.ok a, q) := by
  rw [restoring, startedAt_tryCatch, h]

/-- Where there is room, a fault is handed on once the operands are back on the stack. -/
theorem startedAt_restoring_of_fault {operands : List Int} {work : Work α} {fault : Fault}
    (h : startedAt work p = (.error (.fault fault), q))
    (hroom : q.calculator.stack.length + operands.length ≤ capacity) :
    startedAt (restoring operands work) p = (.error (.fault fault),
      { q with calculator.stack := operands.reverse ++ q.calculator.stack }) := by
  rw [restoring, startedAt_tryCatch, h]
  show startedAt (push operands >>= fun _ => throw (.fault fault)) q = _
  rw [startedAt_bind_of_ok (startedAt_push_of_le hroom)]
  rfl

theorem startedAt_operate (hc : c.stack.length ≤ capacity) {i : Instruction} {op : Operator}
    (hplain : i.plain = .apply op) :
    startedAt (operate i) ⟨c, []⟩ = (c.operate op i.isCompound).ended := by
  have harity : i.arity = 2 := by
    cases i with
    | showTop | showAll | draw => cases hplain
    | apply op | showApply op => rfl
  obtain ⟨f, hentry, hf⟩ := exists_entry op
  rw [operate, hplain, startedAt_bind_of_ok (hentry _), startedAt_bind_of_ok (startedAt_stack _),
    harity]
  rcases Calculator.operate_cases hc op i.isCompound with ⟨hshort, heq⟩ |
    ⟨right, left, below, hstack, hresult⟩
  · rw [heq, startedAt_bind_of_error (startedAt_refuseIf_of_pos hshort _ _)]
    rfl
  · have hlong : ¬ c.stack.length < 2 := by simp [hstack]
    have hroom : below.length + 2 ≤ capacity := by
      rw [hstack] at hc
      exact hc
    -- what is shown is shown before anything can fail, and stays
    generalize hshown : (if i.isCompound = true then [right] else []) = shown at hresult ⊢
    have hright : startedAt pop ⟨c, []⟩ = (.ok right, ⟨{ c with stack := left :: below }, []⟩) :=
      startedAt_pop hstack
    have hputOut : startedAt (putOut shown) ⟨{ c with stack := left :: below }, []⟩ =
        (.ok (), ⟨{ c with stack := left :: below }, shown⟩) := rfl
    have hleft : startedAt pop ⟨{ c with stack := left :: below }, shown⟩ =
        (.ok left, ⟨{ c with stack := below }, shown⟩) := startedAt_pop rfl
    rw [startedAt_bind_of_ok (startedAt_refuseIf_of_neg hlong _ _), startedAt_bind_of_ok hright,
      hshown, startedAt_bind_of_ok hputOut, startedAt_bind_of_ok hleft]
    have hwork := hf left right ⟨{ c with stack := below }, shown⟩
    -- both operands are off the stack: the result takes their place, or they come back
    rcases hresult with ⟨result, heval, heq⟩ | ⟨fault, heval, heq⟩
    · have hpush : startedAt (push [result]) ⟨{ c with stack := below }, shown⟩ =
          (.ok (), ⟨{ c with stack := result :: below }, shown⟩) :=
        startedAt_push_of_le (Nat.le_of_succ_le hroom)
      rw [heval] at hwork
      rw [startedAt_bind_of_ok (startedAt_restoring_of_ok hwork), heq, hpush]
      rfl
    · have hback : startedAt (restoring [left, right] (f left right))
          ⟨{ c with stack := below }, shown⟩ = (.error (.fault fault), ⟨c, shown⟩) := by
        rw [heval] at hwork
        have hc' : c = { c with stack := right :: left :: below } := by rw [← hstack]
        rw [hc']
        exact startedAt_restoring_of_fault hwork hroom
      rw [startedAt_bind_of_error hback, heq]
      rfl

/-! ### Tokens -/

theorem startedAt_follow (hc : c.Sound) (i : Instruction) :
    startedAt (follow i) ⟨c, []⟩ = (c.follow i).ended := by
  cases i with
  | showTop => exact startedAt_showTop c
  | showAll => exact startedAt_showAll c
  | draw => exact startedAt_draw hc.cursor
  | apply op =>
    have hlookup : functions.lookup (.apply op) = none := by cases op <;> rfl
    rw [follow, hlookup]
    exact startedAt_operate hc.room rfl
  | showApply op =>
    have hlookup : functions.lookup (.showApply op) = none := by cases op <;> rfl
    rw [follow, hlookup]
    exact startedAt_operate hc.room rfl

/-- **On a sound calculator no operation breaks down**: the work of taking a token ends as the token
does, with what it has shown by then, and it fails with a fault or not at all. -/
theorem startedAt_take (hc : c.Sound) (token : Text) :
    startedAt (take token) ⟨c, []⟩ = (c.take token).ended := by
  unfold take Calculator.take
  cases Meaning.ofToken? token with
  | none => rfl
  | some meaning =>
    cases meaning with
    | operand n => exact startedAt_push c [n]
    | instruction i => exact startedAt_follow hc i

-- with the cursor off the tape, the two accounts part
example : startedAt (take ['r']) ⟨⟨[], ⟨22⟩⟩, []⟩ =
    (.error (.breakdown .offTape), ⟨⟨[], ⟨22⟩⟩, []⟩) := by rfl

end Work

end StackCalc
