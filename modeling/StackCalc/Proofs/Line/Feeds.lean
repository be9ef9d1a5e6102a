import StackCalc.Proofs.Line.Scanning
import StackCalc.Text.Basic

/-!
# StackCalc.Proofs.Line.Feeds — line feeds that end lines

A line that is read from a text keeps its line feed, and a line that is typed or given has none.
It makes no difference: a line feed at the end of a line is outside every comment and is trimmed
(`tokens_concat_lineFeed`).  So a text that holds lines has the tokens of those lines, whether or
not a line feed stands behind the last of them (`flatMap_tokens_lines`).
-/

namespace StackCalc

/-! ### Texts that hold lines -/

namespace Text

/-- The text holds the lines, each with a line feed behind it; behind the last of them it may be
missing. -/
def Holds (text : Text) (ls : List Text) : Prop :=
  text = ls.flatMap (· ++ ['\n']) ∨ text ++ ['\n'] = ls.flatMap (· ++ ['\n'])

theorem Holds.not_mem {text : Text} {ls : List Text} (h : text.Holds ls) {c : Char} (hc : c ≠ '\n')
    (hls : ∀ line ∈ ls, c ∉ line) : c ∉ text := by
  have hended : c ∉ ls.flatMap (· ++ ['\n']) := by
    intro hmem
    obtain ⟨line, hline, hmem⟩ := List.mem_flatMap.1 hmem
    rcases List.mem_append.1 hmem with hmem | hmem
    · exact hls line hline hmem
    · exact hc (List.mem_singleton.1 hmem)
  rcases h with rfl | h
  · exact hended
  · intro hmem
    exact hended (h ▸ List.mem_append_left _ hmem)

/-- A text that holds lines is all of them but one with line feeds behind, and then the last. -/
theorem Holds.eq_append {text : Text} {ls : List Text} (h : text.Holds ls) :
    ∃ front last, text = front.flatMap (· ++ ['\n']) ++ last ∧
      (ls = front ++ [last] ∨ ls = front ∧ last = []) := by
  rcases h with rfl | h
  · exact ⟨ls, [], by rw [List.append_nil], .inr ⟨rfl, rfl⟩⟩
  · rcases List.eq_nil_or_concat ls with rfl | ⟨front, last, rfl⟩
    · simp at h
    · refine ⟨front, last, ?_, .inl (by rw [List.concat_eq_append])⟩
      rw [List.concat_eq_append, List.flatMap_append, List.flatMap_singleton,
        ← List.append_assoc] at h
      exact List.append_cancel_right h

/-! ### Where a text is cut into lines -/

theorem lines_append {line : Text} (h : '\n' ∉ line) (rest : Text) :
    lines (line ++ '\n' :: rest) = (line ++ ['\n']) :: lines rest := by
  induction line with
  | nil => rw [List.nil_append, lines, if_pos rfl]; rfl
  | cons c line ih =>
    rw [List.mem_cons, not_or] at h
    rw [List.cons_append, lines, if_neg (Ne.symm h.1), ih h.2]
    rfl

/-- Lines with a line feed behind each of them are cut apart again. -/
theorem lines_flatMap_lineFeed {ls : List Text} (h : ∀ line ∈ ls, '\n' ∉ line) :
    lines (ls.flatMap (· ++ ['\n'])) = ls.map (· ++ ['\n']) := by
  induction ls with
  | nil => rfl
  | cons line ls ih =>
    rw [List.forall_mem_cons] at h
    rw [List.flatMap_cons, List.append_assoc, List.singleton_append, lines_append h.1, ih h.2,
      List.map_cons]

theorem lines_of_not_mem {line : Text} (h : '\n' ∉ line) (hne : line ≠ []) :
    lines line = [line] := by
  induction line with
  | nil => exact absurd rfl hne
  | cons c line ih =>
    rw [List.mem_cons, not_or] at h
    rw [lines, if_neg (Ne.symm h.1)]
    cases line with
    | nil => rfl
    | cons d line => rw [ih h.2 (by simp)]

end Text

namespace Line

/-! ### Tokens of lines with their line feed -/

theorem cutComments_concat_lineFeed {line : Text} (h : '\n' ∉ line) :
    cutComments (line ++ ['\n']) = cutComments line ++ ['\n'] := by
  rw [cutComments_append h, cutComments_of_not_mem h]
  rfl

theorem strip_concat_lineFeed {line : Text} (h : '\n' ∉ line) :
    strip (line ++ ['\n']) = strip line := by
  have hfeed : ∀ c ∈ ['\n'], isEdge c = true := by
    intro c hc
    rw [List.mem_singleton.1 hc]
    rfl
  rw [strip, cutComments_concat_lineFeed h]
  exact trim_append (u := []) (by simp) hfeed (cutComments line)

/-- **A line feed at the end of a line changes no token.** -/
theorem tokens_concat_lineFeed {line : Text} (h : '\n' ∉ line) :
    tokens (line ++ ['\n']) = tokens line := by
  have hscan : scan (line ++ ['\n']) = scan line := by rw [scan, strip_concat_lineFeed h, scan]
  rw [tokens_of_scan hscan, tokens_of_scan rfl]

theorem tokens_nil : tokens [] = [] := rfl

/-- The tokens of a text that is lines with their line feeds, and then one more. -/
theorem flatMap_tokens_lines_append {front : List Text} {last : Text}
    (hfront : ∀ line ∈ front, '\n' ∉ line) (hlast : '\n' ∉ last) :
    (Text.lines (front.flatMap (· ++ ['\n']) ++ last)).flatMap tokens =
      front.flatMap tokens ++ tokens last := by
  induction front with
  | nil =>
    by_cases hne : last = []
    · subst hne
      rfl
    · rw [List.flatMap_nil, List.nil_append, Text.lines_of_not_mem hlast hne,
        List.flatMap_singleton]
      rfl
  | cons line front ih =>
    rw [List.forall_mem_cons] at hfront
    rw [List.flatMap_cons, List.flatMap_cons, List.append_assoc, List.append_assoc,
      List.singleton_append, Text.lines_append hfront.1, List.flatMap_cons, ih hfront.2,
      tokens_concat_lineFeed hfront.1, List.append_assoc]

/-- **A text that holds lines has their tokens.** -/
theorem flatMap_tokens_lines {text : Text} {ls : List Text} (h : text.Holds ls)
    (hls : ∀ line ∈ ls, '\n' ∉ line) :
    (Text.lines text).flatMap tokens = ls.flatMap tokens := by
  obtain ⟨front, last, rfl, hcases⟩ := h.eq_append
  rcases hcases with rfl | ⟨rfl, rfl⟩
  · rw [List.forall_mem_append, List.forall_mem_singleton] at hls
    rw [flatMap_tokens_lines_append hls.1 hls.2, List.flatMap_append, List.flatMap_singleton]
  · rw [flatMap_tokens_lines_append hls (by simp), tokens_nil, List.append_nil]

end Line

end StackCalc
