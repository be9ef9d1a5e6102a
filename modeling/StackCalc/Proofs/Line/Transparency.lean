import StackCalc.Proofs.Line.Joining

/-!
# StackCalc.Proofs.Line.Transparency — a comment is as good as nothing

A comment belongs to one stretch without line feeds.  What stands in front of that stretch is read
as if nothing followed (`removeComments_append_congr`), and what stands behind it begins anew.  So a
comment may be put anywhere into a stretch that has no other mark: it goes, whatever it holds, and
what stood on either side of it grows together again, into one token where it was one before
(`runLine_comment`).
-/

namespace StackCalc

namespace Line

/-! ### Stretches at the ends of a text -/

/-- The part of a text behind its last line feed. -/
def lastStretch (text : Text) : Text := (text.reverse.takeWhile (· != '\n')).reverse

/-- The part of a text before its first line feed. -/
def firstStretch (text : Text) : Text := text.takeWhile (· != '\n')

/-- A text is its last stretch, with nothing in front or a line feed. -/
theorem exists_lastStretch (text : Text) :
    text = lastStretch text ∨ ∃ front, text = front ++ '\n' :: lastStretch text := by
  have hcut : text.reverse.takeWhile (· != '\n') ++ text.reverse.dropWhile (· != '\n') =
      text.reverse := List.takeWhile_append_dropWhile
  have htext : text = (text.reverse.dropWhile (· != '\n')).reverse ++ lastStretch text := by
    rw [lastStretch, ← List.reverse_append, hcut, List.reverse_reverse]
  cases hrest : text.reverse.dropWhile (· != '\n') with
  | nil =>
    left
    rwa [hrest, List.reverse_nil, List.nil_append] at htext
  | cons c rest =>
    right
    have hfeed : c = '\n' := by
      have hhead := List.head?_dropWhile_not (· != '\n') text.reverse
      rw [hrest] at hhead
      simpa using hhead
    refine ⟨rest.reverse, ?_⟩
    rw [hrest, hfeed, List.reverse_cons, List.append_assoc] at htext
    exact htext

/-- A text without a mark in its first stretch opens no comment and closes none. -/
theorem lengthToMark?_of_firstStretch {text : Text} (h : '#' ∉ firstStretch text) :
    lengthToMark? text = none := by
  have hcut : firstStretch text ++ text.dropWhile (· != '\n') = text :=
    List.takeWhile_append_dropWhile
  rw [← hcut]
  refine lengthToMark?_eq_none h fun c hc => ?_
  have hhead := List.head?_dropWhile_not (· != '\n') text
  rw [hc] at hhead
  simpa using hhead

/-! ### One stretch at a time -/

/-- **What follows a text meets its last stretch only.** -/
theorem removeComments_append_congr {a x y : Text}
    (h : removeComments (lastStretch a ++ x) = removeComments (lastStretch a ++ y)) :
    removeComments (a ++ x) = removeComments (a ++ y) := by
  rcases exists_lastStretch a with ha | ⟨front, ha⟩
  · rwa [← ha] at h
  · rw [ha, List.append_assoc, List.append_assoc, List.cons_append, List.cons_append,
      removeComments_join (.inl rfl), removeComments_join (.inl rfl), h]

/-- A comment goes, and what stands on either side of it grows together. -/
theorem removeComments_around {a inner b : Text} (ha : '#' ∉ lastStretch a) (hinner : '\n' ∉ inner)
    (hb : '#' ∉ firstStretch b) :
    removeComments (a ++ '#' :: (inner ++ '#' :: b)) = removeComments (a ++ b) := by
  refine removeComments_append_congr ?_
  rw [removeComments_append_of_not_mem ha, removeComments_append_of_not_mem ha,
    removeComments_comment hinner (lengthToMark?_of_firstStretch hb)]

end Line

/-- **Comments are transparent**: a comment without line feeds, whatever else it holds, may be put
between any two texts that have no mark in the stretch that they form.  The tokens are those of the
two texts alone, and so is all that comes of them, on every calculator. -/
theorem Calculator.runLine_comment {a inner b : Text} (ha : '#' ∉ Line.lastStretch a)
    (hinner : '\n' ∉ inner) (hb : '#' ∉ Line.firstStretch b) :
    let commented := a ++ '#' :: (inner ++ '#' :: b)
    Line.tokens commented = Line.tokens (a ++ b) ∧
    ∀ (verbose : Bool) (c : Calculator),
      c.runLine verbose commented = c.runLine verbose (a ++ b) := by
  intro commented
  have hremoved : Line.removeComments commented = Line.removeComments (a ++ b) :=
    Line.removeComments_around ha hinner hb
  have htokens : Line.tokens commented = Line.tokens (a ++ b) := by
    rw [Line.tokens, Line.normalize, hremoved]
    rfl
  refine ⟨htokens, fun verbose c => ?_⟩
  rw [runLine, htokens, runLine]

/-- A comment with marks of its own stands inside a numeral; the stretch above has a comment, too,
and the one below a mark. -/
theorem Calculator.runLine_comment_glued :
    let a := "1 #x# #\n3 4".toList
    let inner := "+ # d #".toList
    let b := "2 +\n#".toList
    '#' ∉ Line.lastStretch a ∧ '\n' ∉ inner ∧ '#' ∉ Line.firstStretch b ∧
    Line.tokens (a ++ '#' :: (inner ++ '#' :: b)) =
      ["1".toList, "3".toList, "42".toList, "+".toList, "#".toList] := by
  intro a inner b
  have ha : '#' ∉ Line.lastStretch a := by decide
  have hinner : '\n' ∉ inner := by decide
  have hb : '#' ∉ Line.firstStretch b := by decide
  refine ⟨ha, hinner, hb, ?_⟩
  rw [(runLine_comment ha hinner hb).1]
  decide

end StackCalc
