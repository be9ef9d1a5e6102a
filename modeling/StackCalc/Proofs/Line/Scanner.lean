import StackCalc.Line.Scan
import StackCalc.Proofs.Line.Ends
import StackCalc.Proofs.Line.Padding

/-!
# StackCalc.Proofs.Line.Scanner — the scanner, one token at a time

At the start of a text the scanner does one of five things: it skips a blank, or it cuts off a
compound operator, a character that is a token alone, a run of letters or a run of characters that
are nothing else.  There is an equation for each, and `scanText_induction` is induction along them:
later facts about the scanner are one case for each thing that it does.
-/

namespace StackCalc.Line

/-! ### Kinds of characters -/

theorem isOperator_of_letterKind {c : Char} (h : letterKind c ≠ .other) : isOperator c = false := by
  by_contra hc
  exact h (letterKind_of_isOperator (by simpa using hc))

theorem not_isBlank_of_letterKind {c : Char} (h : letterKind c ≠ .other) : isBlank c = false :=
  not_isBlank_of_isEdge (isEdge_of_isAlpha (isAlpha_of_letterKind h))

theorem letterKind_of_ne {c : Char} (hsingle : letterKind c ≠ .single)
    (hword : letterKind c ≠ .word) : letterKind c = .other := by
  cases hk : letterKind c with
  | single => exact absurd hk hsingle
  | word => exact absurd hk hword
  | other => rfl

theorem isWordLetter_iff {c : Char} : isWordLetter c = true ↔ letterKind c = .word := beq_iff_eq

theorem not_isBlank_of_isWordLetter {c : Char} (h : isWordLetter c = true) : isBlank c = false :=
  not_isBlank_of_letterKind (by rw [isWordLetter_iff.1 h]; decide)

theorem not_isWordLetter_of_isBlank {c : Char} (h : isBlank c = true) : isWordLetter c = false := by
  rw [isWordLetter, letterKind_of_isEdge (isEdge_of_isBlank h)]
  rfl

/-- A character that is a token wherever it stands is no blank. -/
theorem not_isBlank_of_lone {c : Char} (h : standsAlone c = true ∨ letterKind c = .single) :
    isBlank c = false := by
  rcases h with h | h
  · exact not_isBlank_of_isEdge (isEdge_of_isOperator (isOperator_of_standsAlone h))
  · exact not_isBlank_of_letterKind (by rw [h]; decide)

/-! ### Runs of characters that are nothing else -/

theorem endsRun_cons_eq_false_iff {c : Char} {rest : Text} :
    endsRun (c :: rest) = false ↔ isBlank c = false ∧ c.isAlpha = false ∧ standsAlone c = false ∧
      startsCompound (c :: rest) = false := by
  simp only [endsRun, List.head?_cons, Option.all_some, Bool.or_eq_false_iff, and_assoc]

theorem spanRun_append_eq (text : Text) : (spanRun text).1 ++ (spanRun text).2 = text := by
  induction text with
  | nil => rfl
  | cons c rest ih =>
    rw [spanRun]
    split_ifs
    · rfl
    · rw [List.cons_append, ih]

theorem endsRun_spanRun (text : Text) : endsRun (spanRun text).2 = true := by
  induction text with
  | nil => rfl
  | cons c rest ih =>
    rw [spanRun]
    split_ifs with hends
    · exact hends
    · exact ih

/-- A run is longer by a character that does not end it. -/
theorem IsRun.cons {c : Char} {w rest : Text} (hw : IsRun w) (hstart : w <+: rest)
    (hc : endsRun (c :: rest) = false) : IsRun (c :: w) := by
  obtain ⟨hblank, halpha, ha, hcomp⟩ := endsRun_cons_eq_false_iff.1 hc
  refine ⟨List.forall_mem_cons.2 ⟨⟨hblank, halpha, ha⟩, hw.1⟩, fun hfound => ?_⟩
  rcases List.infix_cons_iff.1 hfound with hminus | hfound
  · -- a minus with `=` behind it would have ended the run
    obtain ⟨rfl, hequals⟩ := List.cons_prefix_cons.1 hminus
    obtain ⟨more, rfl⟩ := hequals.trans hstart
    cases hcomp
  · exact hw.2 hfound

theorem isRun_spanRun (text : Text) : IsRun (spanRun text).1 := by
  induction text with
  | nil => exact isRun_of_not_mem (by simp [spanRun]) (by simp [spanRun])
  | cons c rest ih =>
    rw [spanRun]
    split_ifs with hends
    · exact isRun_of_not_mem (by simp) (by simp)
    · exact ih.cons ⟨_, spanRun_append_eq rest⟩ (by simpa using hends)

/-- What the scanner cuts off as a run is one. -/
theorem isRun_cons_spanRun {c : Char} {rest : Text} (h : endsRun (c :: rest) = false) :
    IsRun (c :: (spanRun rest).1) := (isRun_spanRun rest).cons ⟨_, spanRun_append_eq rest⟩ h

/-! ### The scanner at the start of a text -/

theorem scanText_nil : scanText [] = [] := by rw [scanText]

theorem scanText_blank {c : Char} (hc : isBlank c = true) (rest : Text) :
    scanText (c :: rest) = scanText rest := by
  rw [scanText, if_pos hc]

theorem scanText_compound {c : Char} (hc : isOperator c = true) (rest : Text) :
    scanText (c :: '=' :: rest) = [c, '='] :: scanText rest := by
  have hblank := not_isBlank_of_isEdge (isEdge_of_isOperator hc)
  rw [scanText, if_neg (by simp [hblank]), if_pos (by simp [startsCompound_cons, hc]),
    List.tail_cons]

theorem scanText_lone {c : Char} {rest : Text} (hc : startsCompound (c :: rest) = false)
    (h : standsAlone c = true ∨ letterKind c = .single) :
    scanText (c :: rest) = [c] :: scanText rest := by
  rw [scanText, if_neg (by simp [not_isBlank_of_lone h]), if_neg (by simp [hc]),
    if_pos (by simpa using h)]

theorem scanText_word {c : Char} (hc : letterKind c = .word) (rest : Text) :
    scanText (c :: rest) =
      (c :: rest.takeWhile isWordLetter) :: scanText (rest.dropWhile isWordLetter) := by
  have hne : letterKind c ≠ .other := by
    rw [hc]
    decide
  have hop := isOperator_of_letterKind hne
  rw [scanText, if_neg (by simp [not_isBlank_of_letterKind hne]),
    if_neg (by simp [startsCompound_cons, hop]), if_neg (by simp [standsAlone, hop, hc]),
    if_pos (isWordLetter_iff.2 hc)]

theorem scanText_run {c : Char} {rest : Text} (hc : endsRun (c :: rest) = false) :
    scanText (c :: rest) = (c :: (spanRun rest).1) :: scanText (spanRun rest).2 := by
  obtain ⟨hblank, halpha, ha, hcomp⟩ := endsRun_cons_eq_false_iff.1 hc
  have hkind := letterKind_eq_other_iff.2 halpha
  rw [scanText, if_neg (by simp [hblank]), if_neg (by simp [hcomp]), if_neg (by simp [ha, hkind]),
    if_neg (by simp [isWordLetter, hkind])]

/-- Induction along what the scanner does at the start of a text. -/
theorem scanText_induction {P : Text → Prop} (nil : P [])
    (blank : ∀ c rest, isBlank c = true → P rest → P (c :: rest))
    (compound : ∀ c rest, isOperator c = true → P rest → P (c :: '=' :: rest))
    (lone : ∀ c rest, startsCompound (c :: rest) = false →
      standsAlone c = true ∨ letterKind c = .single → P rest → P (c :: rest))
    (word : ∀ c rest, letterKind c = .word → P (rest.dropWhile isWordLetter) → P (c :: rest))
    (run : ∀ c rest, endsRun (c :: rest) = false → P (spanRun rest).2 → P (c :: rest))
    (text : Text) : P text := by
  induction text using scanText.induct with
  | case1 => exact nil
  | case2 c rest hblank ih => exact blank c rest hblank ih
  | case3 c rest hblank hcomp ih =>
    obtain ⟨hop, rest, rfl⟩ := startsCompound_cons_iff.1 hcomp
    exact compound c rest hop ih
  | case4 c rest hblank hcomp hkind ih =>
    exact lone c rest (by simpa using hcomp) (by simpa using hkind) ih
  | case5 c rest hblank hcomp hkind hword ih => exact word c rest (isWordLetter_iff.1 hword) ih
  | case6 c rest hblank hcomp hkind hword ih =>
    rw [Bool.not_eq_true] at hblank hcomp
    rw [Bool.not_eq_true, Bool.or_eq_false_iff, beq_eq_false_iff_ne] at hkind
    have hother := letterKind_of_ne hkind.2 fun h => hword (isWordLetter_iff.2 h)
    exact run c rest
      (endsRun_cons_eq_false_iff.2 ⟨hblank, letterKind_eq_other_iff.1 hother, hkind.1, hcomp⟩) ih

end StackCalc.Line
