import Mathlib.Data.Nat.Init
import StackCalc.Line.Tokens

/-!
# StackCalc.Proofs.Line.Comments — both accounts of comments agree

`removeComments` meets the characters of a line one after the other and never sees a stretch as a
whole.  Over one stretch with at most a line feed behind it, it does what `cutComment` says; a line
is its stretches, one after the other, so `removeComments` and `cutComments` are the same function.
-/

namespace StackCalc.Line

/-! ### How far a text goes up to its last mark -/

/-- A text without marks before its first line feed, which may be its end. -/
theorem lengthToMark?_eq_none {b tail : Text} (hb : '#' ∉ b)
    (ht : ∀ c, tail.head? = some c → c = '\n') : lengthToMark? (b ++ tail) = none := by
  induction b with
  | nil =>
    cases tail with
    | nil => rfl
    | cons c rest =>
      obtain rfl := ht c rfl
      rfl
  | cons c b ih =>
    rw [List.mem_cons, not_or] at hb
    rw [List.cons_append, lengthToMark?, ih hb.2]
    by_cases hc : c = '\n'
    · exact if_pos hc
    · simp only [if_neg hc, if_neg (Ne.symm hb.1)]

theorem lengthToMark?_append {inner more : Text} (hi : '\n' ∉ inner)
    (hm : lengthToMark? more = none) :
    lengthToMark? (inner ++ '#' :: more) = some (inner.length + 1) := by
  induction inner with
  | nil => simp [lengthToMark?, hm]
  | cons c inner ih =>
    rw [List.mem_cons, not_or] at hi
    rw [List.cons_append, lengthToMark?, if_neg (Ne.symm hi.1), ih hi.2]
    rfl

/-! ### Going over a line -/

theorem removeCommentsFrom_eq_drop (skip : ℕ) (text : Text) :
    removeCommentsFrom skip text = removeComments (text.drop skip) := by
  induction text generalizing skip with
  | nil => cases skip <;> rfl
  | cons c rest ih =>
    cases skip with
    | zero => rfl
    | succ skip => exact ih skip

theorem removeComments_cons_of_none {c : Char} {rest : Text} (h : commentLength? c rest = none) :
    removeComments (c :: rest) = c :: removeComments rest := by
  rw [removeComments, removeCommentsFrom, h]
  rfl

theorem removeComments_append_of_not_mem {a : Text} (ha : '#' ∉ a) (rest : Text) :
    removeComments (a ++ rest) = a ++ removeComments rest := by
  induction a with
  | nil => rfl
  | cons c a ih =>
    rw [List.mem_cons, not_or] at ha
    rw [List.cons_append, removeComments_cons_of_none (if_neg (Ne.symm ha.1)), ih ha.2]
    rfl

theorem removeComments_of_not_mem {line : Text} (h : '#' ∉ line) : removeComments line = line := by
  have key := removeComments_append_of_not_mem h []
  rw [List.append_nil] at key
  exact key.trans (List.append_nil _)

/-- A comment that opens is taken out to its last mark. -/
theorem removeComments_comment {inner more : Text} (hi : '\n' ∉ inner)
    (hm : lengthToMark? more = none) :
    removeComments ('#' :: (inner ++ '#' :: more)) = removeComments more := by
  have hlength : commentLength? '#' (inner ++ '#' :: more) = some (inner.length + 1) :=
    lengthToMark?_append hi hm
  rw [removeComments, removeCommentsFrom, hlength]
  have hdrop : (inner ++ '#' :: more).drop (inner.length + 1) = more := by
    rw [← List.drop_drop, List.drop_left]
    rfl
  exact (removeCommentsFrom_eq_drop _ _).trans (congrArg removeComments hdrop)

/-! ### Marks in a text -/

/-- A text with a mark in it, cut at the first. -/
theorem exists_first_mark {text : Text} (h : '#' ∈ text) :
    ∃ a rest, text = a ++ '#' :: rest ∧ '#' ∉ a := by
  obtain ⟨a, rest, rfl, ha⟩ := List.eq_append_cons_of_mem h
  exact ⟨a, rest, rfl, ha⟩

/-- A text with a mark in it, cut at the last. -/
theorem exists_last_mark {text : Text} (h : '#' ∈ text) :
    ∃ inner b, text = inner ++ '#' :: b ∧ '#' ∉ b := by
  obtain ⟨b, inner, hrev, hb⟩ := exists_first_mark (List.mem_reverse.2 h)
  refine ⟨inner.reverse, b.reverse, ?_, by simpa using hb⟩
  rw [← List.reverse_reverse text, hrev]
  simp

/-- A text with one mark has none on either side of it. -/
theorem count_single_mark {a rest : Text} (ha : '#' ∉ a) (hrest : '#' ∉ rest) :
    (a ++ '#' :: rest).count '#' = 1 := by
  rw [List.count_append, List.count_cons_self, List.count_eq_zero_of_not_mem ha,
    List.count_eq_zero_of_not_mem hrest]

/-- A mark that is alone opens nothing. -/
theorem removeComments_single_mark {a rest : Text} (ha : '#' ∉ a) (hrest : '#' ∉ rest)
    (tail : Text) (ht : ∀ c, tail.head? = some c → c = '\n') :
    removeComments (a ++ '#' :: rest ++ tail) = a ++ '#' :: rest ++ removeComments tail := by
  have hnone : commentLength? '#' (rest ++ tail) = none := lengthToMark?_eq_none hrest ht
  rw [List.append_assoc, removeComments_append_of_not_mem ha, List.cons_append,
    removeComments_cons_of_none hnone, removeComments_append_of_not_mem hrest]
  simp

/-- A line with one mark at most has no comment. -/
theorem removeComments_of_count_le {line : Text} (h : line.count '#' ≤ 1) :
    removeComments line = line := by
  by_cases hmark : '#' ∈ line
  · obtain ⟨a, rest, rfl, ha⟩ := exists_first_mark hmark
    have hrest : '#' ∉ rest := by
      rw [← List.count_eq_zero]
      rw [List.count_append, List.count_cons_self] at h
      omega
    have key := removeComments_single_mark ha hrest [] (by simp)
    rw [List.append_nil] at key
    exact key.trans (List.append_nil _)
  · exact removeComments_of_not_mem hmark

/-! ### Two texts, one behind the other -/

theorem lengthToMark?_append_of_none {tail : Text} (ht : lengthToMark? tail = none) (a : Text) :
    lengthToMark? (a ++ tail) = lengthToMark? a := by
  induction a with
  | nil => exact ht
  | cons c a ih => rw [List.cons_append, lengthToMark?, ih, lengthToMark?]

theorem lengthToMark?_le {text : Text} {length : ℕ} (h : lengthToMark? text = some length) :
    length ≤ text.length := by
  induction text generalizing length with
  | nil => cases h
  | cons c rest ih =>
    rw [lengthToMark?, Option.ite_none_left_eq_some] at h
    obtain ⟨-, h⟩ := h
    cases hrest : lengthToMark? rest with
    | some n =>
      rw [hrest] at h
      cases h
      exact Nat.succ_le_succ (ih hrest)
    | none =>
      simp only [hrest, Option.ite_none_right_eq_some] at h
      obtain ⟨-, h⟩ := h
      cases h
      exact Nat.succ_le_succ (Nat.zero_le _)

theorem removeCommentsFrom_append {tail : Text} (ht : lengthToMark? tail = none) {skip : ℕ}
    {a : Text} (hskip : skip ≤ a.length) :
    removeCommentsFrom skip (a ++ tail) = removeCommentsFrom skip a ++ removeComments tail := by
  induction a generalizing skip with
  | nil =>
    obtain rfl := Nat.le_zero.1 hskip
    rfl
  | cons c a ih =>
    cases skip with
    | succ skip => exact ih (Nat.le_of_succ_le_succ hskip)
    | zero =>
      have hlength : commentLength? c (a ++ tail) = commentLength? c a := by
        rw [commentLength?, lengthToMark?_append_of_none ht, commentLength?]
      rw [List.cons_append, removeCommentsFrom, removeCommentsFrom, hlength]
      cases hcomment : commentLength? c a with
      | some length =>
        rw [commentLength?, Option.ite_none_right_eq_some] at hcomment
        exact ih (lengthToMark?_le hcomment.2)
      | none => exact congrArg (c :: ·) (ih (Nat.zero_le _))

/-- **No comment reaches into a text** that has no mark before its first line feed. -/
theorem removeComments_append {tail : Text} (ht : lengthToMark? tail = none) (a : Text) :
    removeComments (a ++ tail) = removeComments a ++ removeComments tail :=
  removeCommentsFrom_append ht (Nat.zero_le _)

theorem sublist_removeCommentsFrom (skip : ℕ) (text : Text) :
    (removeCommentsFrom skip text).Sublist text := by
  induction text generalizing skip with
  | nil => cases skip <;> exact List.Sublist.slnil
  | cons c rest ih =>
    cases skip with
    | succ skip => exact (ih skip).cons c
    | zero =>
      rw [removeCommentsFrom]
      split
      · exact (ih _).cons c
      · exact (ih 0).cons_cons c

theorem mem_of_mem_removeComments {line : Text} {c : Char} (h : c ∈ removeComments line) :
    c ∈ line := (sublist_removeCommentsFrom 0 line).subset h

/-! ### One stretch -/

/-- **Over one stretch**, with the end of the line or a line feed behind it, going from left to
right cuts the comment of the stretch. -/
theorem removeComments_stretch {stretch : Text} (hs : '\n' ∉ stretch) (tail : Text)
    (ht : ∀ c, tail.head? = some c → c = '\n') :
    removeComments (stretch ++ tail) = cutComment stretch ++ removeComments tail := by
  by_cases hmark : '#' ∈ stretch
  · obtain ⟨a, rest, rfl, ha⟩ := exists_first_mark hmark
    by_cases hmore : '#' ∈ rest
    · -- two marks at least: what stands between the first and the last goes
      obtain ⟨inner, b, rfl, hb⟩ := exists_last_mark hmore
      have hinner : '\n' ∉ inner := fun h => hs (by simp [h])
      rw [List.append_assoc, removeComments_append_of_not_mem ha, List.cons_append,
        cutComment_comment ha hb, List.append_assoc, List.cons_append,
        removeComments_comment hinner (lengthToMark?_eq_none hb ht),
        removeComments_append_of_not_mem hb, List.append_assoc]
    · have hcount : (a ++ '#' :: rest).count '#' < 2 := by
        rw [count_single_mark ha hmore]
        decide
      rw [cutComment_of_count_lt hcount, removeComments_single_mark ha hmore tail ht]
  · have hcount : stretch.count '#' < 2 := by
      rw [List.count_eq_zero_of_not_mem hmark]
      decide
    rw [cutComment_of_count_lt hcount, removeComments_append_of_not_mem hmark]

/-! ### A whole line -/

theorem cutComments_of_not_mem {stretch : Text} (hs : '\n' ∉ stretch) :
    cutComments stretch = cutComment stretch := by
  rw [cutComments, List.splitOn_eq_singleton hs, List.map_singleton, List.intercalate_singleton]

theorem cutComments_append {stretch : Text} (hs : '\n' ∉ stretch) (rest : Text) :
    cutComments (stretch ++ '\n' :: rest) = cutComment stretch ++ '\n' :: cutComments rest := by
  have hne : (rest.splitOn '\n').map cutComment ≠ [] := by
    rw [ne_eq, List.map_eq_nil_iff]
    exact List.splitOn_ne_nil '\n' rest
  rw [cutComments, List.splitOn_append_cons_self_of_not_mem hs, List.map_cons,
    List.intercalate_cons_of_ne_nil hne, cutComments]
  simp

/-- Going over a line from left to right cuts the comment of each of its stretches. -/
theorem removeComments_eq_cutComments (line : Text) : removeComments line = cutComments line := by
  -- by induction on the length of the line, one stretch at a time
  induction hn : line.length using Nat.strong_induction_on generalizing line with
  | _ n ih =>
    by_cases hfeed : '\n' ∈ line
    · obtain ⟨stretch, rest, rfl, hs⟩ := List.eq_append_cons_of_mem hfeed
      have hrest : rest.length < n := by
        rw [← hn, List.length_append, List.length_cons]
        omega
      rw [cutComments_append hs, removeComments_stretch hs _ (by simp), ← ih _ hrest rest rfl,
        removeComments_cons_of_none (if_neg (by decide))]
    · have h := removeComments_stretch hfeed [] (by simp)
      rw [List.append_nil] at h
      rw [h, cutComments_of_not_mem hfeed]
      exact List.append_nil _

end StackCalc.Line
