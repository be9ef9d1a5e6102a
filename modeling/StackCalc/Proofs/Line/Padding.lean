import Mathlib.Data.List.Basic
import Mathlib.Data.Nat.Init
import StackCalc.Line.Scan

/-!
# StackCalc.Proofs.Line.Padding — the three passes taken together

`padded before text` is a text after all three passes, where a character of kind `before` stands in
front of it.  What the passes do together at the start of a text is one of three things: they set
apart an operator with `=` behind it, an operator alone, or they leave the character where it is,
with a space in front of it where its kind asks for one.  Every later fact about the passes follows
from the three equations `padded_compound`, `padded_alone` and `padded_plain`.
-/

namespace StackCalc.Line

/-! ### Kinds of characters -/

/-- Every operator character is the symbol of an operator. -/
theorem exists_symbol {c : Char} (h : isOperator c = true) : ∃ op : Operator, op.symbol = c := by
  obtain ⟨op, hop⟩ := Option.isSome_iff_exists.1 h
  exact ⟨op, Operator.symbol_of_ofSymbol? hop⟩

theorem isOperator_of_standsAlone {c : Char} (h : standsAlone c = true) : isOperator c = true := by
  rw [standsAlone, Bool.and_eq_true] at h
  exact h.1

theorem letterKind_of_isOperator {c : Char} (h : isOperator c = true) : letterKind c = .other := by
  obtain ⟨op, rfl⟩ := exists_symbol h
  cases op <;> rfl

theorem isEdge_of_isOperator {c : Char} (h : isOperator c = true) : isEdge c = false := by
  obtain ⟨op, rfl⟩ := exists_symbol h
  cases op <;> rfl

theorem isOperator_of_isEdge {c : Char} (h : isEdge c = true) : isOperator c = false := by
  by_contra hc
  rw [isEdge_of_isOperator (by simpa using hc)] at h
  cases h

theorem standsAlone_of_isEdge {c : Char} (h : isEdge c = true) : standsAlone c = false := by
  rw [standsAlone, isOperator_of_isEdge h]
  rfl

theorem isAlpha_of_letterKind {c : Char} (h : letterKind c ≠ .other) : c.isAlpha = true := by
  unfold letterKind at h
  split_ifs at h with hs hw
  · rcases hs with rfl | rfl <;> rfl
  · exact hw
  · exact absurd rfl h

theorem letterKind_eq_other_iff {c : Char} : letterKind c = .other ↔ c.isAlpha = false := by
  constructor
  · intro h
    by_contra hc
    rw [Bool.not_eq_false] at hc
    unfold letterKind at h
    split_ifs at h
  · intro h
    by_contra hc
    rw [isAlpha_of_letterKind hc] at h
    cases h

theorem isEdge_of_isAlpha {c : Char} (h : c.isAlpha = true) : isEdge c = false := by
  have hletter : 'A'.val ≤ c.val := by
    rcases (Bool.or_eq_true _ _).mp h with hupper | hlower
    · exact (of_decide_eq_true hupper).1
    · have hle : 'a'.val ≤ c.val := of_decide_eq_true ((Bool.and_eq_true _ _).mp hlower).1
      exact UInt32.le_trans (by decide) hle
  rw [isEdge, decide_eq_false_iff_not, Char.le_def]
  intro hedge
  exact absurd (UInt32.le_trans hletter hedge) (by decide)

theorem letterKind_of_isEdge {c : Char} (h : isEdge c = true) : letterKind c = .other := by
  rw [letterKind_eq_other_iff]
  by_contra hc
  rw [isEdge_of_isAlpha (by simpa using hc)] at h
  cases h

/-! ### Each pass at the start of a text -/

theorem startsCompound_cons (c : Char) (rest : Text) :
    startsCompound (c :: rest) = (isOperator c && rest.head? == some '=') := by
  cases rest <;> rfl

theorem startsCompound_cons_iff {c : Char} {rest : Text} :
    startsCompound (c :: rest) = true ↔ isOperator c = true ∧ ∃ more, rest = '=' :: more := by
  rw [startsCompound_cons, Bool.and_eq_true, beq_iff_eq, List.head?_eq_some_iff]

theorem startsCompound_of_not_isOperator {c : Char} (h : isOperator c = false) (rest : Text) :
    startsCompound (c :: rest) = false := by
  rw [startsCompound_cons, h, Bool.false_and]

/-- Only an `=` behind a character makes it a compound one. -/
theorem startsCompound_of_head? {c : Char} {rest rest' : Text}
    (h : rest'.head? = some '=' → rest.head? = some '=')
    (hc : startsCompound (c :: rest) = false) : startsCompound (c :: rest') = false := by
  rw [startsCompound_cons, Bool.and_eq_false_iff, beq_eq_false_iff_ne] at hc ⊢
  exact hc.imp_right fun hne heq => hne (h heq)

theorem head?_padOperators_eq_iff (text : Text) :
    (padOperators text).head? = some '=' ↔ text.head? = some '=' := by
  cases text with
  | nil => rfl
  | cons c rest =>
    rw [padOperators]
    split_ifs with h
    · have hc : standsAlone c = true := (Bool.and_eq_true _ _ ▸ h).1
      have hne : c ≠ '=' := by
        rintro rfl
        cases hc
      simp [hne]
    · rfl

theorem padOperators_plain {c : Char} (ha : standsAlone c = false) (rest : Text) :
    padOperators (c :: rest) = c :: padOperators rest := by
  rw [padOperators, if_neg (by simp [ha])]

theorem padOperators_alone {c : Char} {rest : Text} (ha : standsAlone c = true)
    (hc : startsCompound (c :: rest) = false) :
    padOperators (c :: rest) = ' ' :: c :: ' ' :: padOperators rest := by
  rw [startsCompound_cons, isOperator_of_standsAlone ha, Bool.true_and,
    beq_eq_false_iff_ne] at hc
  rw [padOperators, if_pos (by simp [ha, hc])]

theorem padOperators_compound (c : Char) (rest : Text) :
    padOperators (c :: '=' :: rest) = c :: '=' :: padOperators rest := by
  rw [padOperators, if_neg (by simp), padOperators_plain rfl]

theorem padCompounds_compound {c : Char} (hc : isOperator c = true) (rest : Text) :
    padCompounds (c :: '=' :: rest) = ' ' :: c :: '=' :: ' ' :: padCompounds rest := by
  rw [padCompounds, if_pos (by simp [hc])]

theorem padCompounds_cons {c : Char} {rest : Text} (h : startsCompound (c :: rest) = false) :
    padCompounds (c :: rest) = c :: padCompounds rest := by
  cases rest with
  | nil => rfl
  | cons d rest =>
    rw [startsCompound_cons, List.head?_cons] at h
    rw [padCompounds, if_neg]
    simpa using h

theorem padCompounds_space (text : Text) : padCompounds (' ' :: text) = ' ' :: padCompounds text :=
  padCompounds_cons (startsCompound_of_not_isOperator rfl text)

/-! ### All passes at the start of a text -/

/-- A text after all passes, where a character of kind `before` stands in front of it. -/
def padded (before : LetterKind) (text : Text) : Text :=
  padLettersFrom before (padCompounds (padOperators text))

theorem applyPasses_paddings (text : Text) : applyPasses paddings text = padded .other text := rfl

theorem padded_nil (k : LetterKind) : padded k [] = gap k .other := rfl

/-- An operator and the `=` behind it are set apart together. -/
theorem padded_compound {c : Char} (hc : isOperator c = true) (rest : Text) (k : LetterKind) :
    padded k (c :: '=' :: rest) = gap k .other ++ ' ' :: c :: '=' :: ' ' :: padded .other rest := by
  rw [padded, padOperators_compound, padCompounds_compound hc]
  simp only [padLettersFrom, letterKind_of_isOperator hc]
  rfl

/-- An operator that stands alone is set apart. -/
theorem padded_alone {c : Char} {rest : Text} (ha : standsAlone c = true)
    (hc : startsCompound (c :: rest) = false) (k : LetterKind) :
    padded k (c :: rest) = gap k .other ++ ' ' :: c :: ' ' :: padded .other rest := by
  have hop := isOperator_of_standsAlone ha
  rw [padded, padOperators_alone ha hc, padCompounds_space,
    padCompounds_cons (by simp [startsCompound_cons]), padCompounds_space]
  simp only [padLettersFrom, letterKind_of_isOperator hop]
  rfl

/-- Any other character stays, with a space in front of it where its kind asks for one. -/
theorem padded_plain {c : Char} {rest : Text} (ha : standsAlone c = false)
    (hc : startsCompound (c :: rest) = false) (k : LetterKind) :
    padded k (c :: rest) = gap k (letterKind c) ++ c :: padded (letterKind c) rest := by
  have hcomp : startsCompound (c :: padOperators rest) = false :=
    startsCompound_of_head? (head?_padOperators_eq_iff rest).1 hc
  rw [padded, padOperators_plain ha, padCompounds_cons hcomp, padLettersFrom, padded]

theorem padded_edge {c : Char} (hc : isEdge c = true) (rest : Text) (k : LetterKind) :
    padded k (c :: rest) = gap k .other ++ c :: padded .other rest := by
  have hcomp := startsCompound_of_not_isOperator (isOperator_of_isEdge hc) rest
  rw [padded_plain (standsAlone_of_isEdge hc) hcomp, letterKind_of_isEdge hc]

/-- After the passes a text begins with a space that they put in, or with a character that they left
alone. -/
theorem padded_cases (k : LetterKind) (c : Char) (rest : Text) :
    (∃ more, padded k (c :: rest) = gap k .other ++ ' ' :: more) ∨
    (standsAlone c = false ∧ startsCompound (c :: rest) = false ∧
      padded k (c :: rest) = gap k (letterKind c) ++ c :: padded (letterKind c) rest) := by
  by_cases hc : startsCompound (c :: rest) = true
  · obtain ⟨hop, rest, rfl⟩ := startsCompound_cons_iff.1 hc
    exact .inl ⟨_, padded_compound hop rest k⟩
  · rw [Bool.not_eq_true] at hc
    by_cases ha : standsAlone c = true
    · exact .inl ⟨_, padded_alone ha hc k⟩
    · rw [Bool.not_eq_true] at ha
      exact .inr ⟨ha, hc, padded_plain ha hc k⟩

/-- Induction along what the passes do at the start of a text. -/
theorem padded_induction {P : Text → Prop} (nil : P [])
    (compound : ∀ c rest, isOperator c = true → P rest → P (c :: '=' :: rest))
    (alone : ∀ c rest, standsAlone c = true → startsCompound (c :: rest) = false → P rest →
      P (c :: rest))
    (plain : ∀ c rest, standsAlone c = false → startsCompound (c :: rest) = false → P rest →
      P (c :: rest)) (text : Text) : P text := by
  induction hn : text.length using Nat.strong_induction_on generalizing text with
  | _ n ih =>
    cases text with
    | nil => exact nil
    | cons c rest =>
      rw [List.length_cons] at hn
      have hrest : P rest := ih rest.length (by omega) rest rfl
      by_cases hc : startsCompound (c :: rest) = true
      · obtain ⟨hop, rest, rfl⟩ := startsCompound_cons_iff.1 hc
        rw [List.length_cons] at hn
        exact compound c rest hop (ih rest.length (by omega) rest rfl)
      · rw [Bool.not_eq_true] at hc
        by_cases ha : standsAlone c = true
        · exact alone c rest ha hc hrest
        · exact plain c rest (by simpa using ha) hc hrest

/-! ### What the passes leave alone -/

/-- The passes put in blanks only. -/
theorem filter_padded (k : LetterKind) (text : Text) :
    (padded k text).filter (!isBlank ·) = text.filter (!isBlank ·) := by
  have hgap (k l : LetterKind) : (gap k l).filter (!isBlank ·) = [] := by
    cases k <;> cases l <;> rfl
  have hspace (t : Text) : (' ' :: t).filter (!isBlank ·) = t.filter (!isBlank ·) := rfl
  induction text using padded_induction generalizing k with
  | nil => exact hgap k .other
  | compound c rest hc ih =>
    rw [padded_compound hc, List.filter_append, hgap, List.nil_append, hspace]
    simp only [List.filter_cons, ih]
    rfl
  | alone c rest ha hc ih =>
    rw [padded_alone ha hc, List.filter_append, hgap, List.nil_append, hspace, List.filter_cons,
      hspace, ih, List.filter_cons]
  | plain c rest ha hc ih =>
    rw [padded_plain ha hc, List.filter_append, hgap, List.nil_append, List.filter_cons,
      List.filter_cons, ih]

/-- Only an `=` in front of what follows could make an operator at the end a compound one. -/
theorem startsCompound_append {v : Text} (hv : v.head? ≠ some '=') (c : Char) (rest : Text) :
    startsCompound (c :: (rest ++ v)) = startsCompound (c :: rest) := by
  rw [startsCompound_cons, startsCompound_cons]
  cases rest with
  | cons d rest => rfl
  | nil => simp [hv]

theorem padded_edges_append {u : Text} (hu : ∀ c ∈ u, isEdge c = true) (text : Text) :
    padded .other (u ++ text) = u ++ padded .other text := by
  induction u with
  | nil => rfl
  | cons c u ih =>
    rw [List.cons_append, padded_edge (hu c (by simp)), ih fun d hd => hu d (by simp [hd])]
    rfl

theorem padded_append_edges {v : Text} (hv : ∀ c ∈ v, isEdge c = true) (k : LetterKind)
    (text : Text) : padded k (text ++ v) = padded k text ++ v := by
  have hhead : v.head? ≠ some '=' := fun h => by cases hv '=' (List.mem_of_head? h)
  induction text using padded_induction generalizing k with
  | nil =>
    cases v with
    | nil => rw [List.append_nil, List.append_nil]
    | cons c v =>
      have hmem : ∀ d ∈ v, isEdge d = true := fun d hd => hv d (by simp [hd])
      have hrest := padded_edges_append hmem []
      rw [List.append_nil] at hrest
      rw [List.nil_append, padded_edge (hv c (by simp)), hrest, padded_nil, padded_nil]
      simp [gap]
  | compound c rest hc ih => simp [padded_compound hc, ih]
  | alone c rest ha hc ih =>
    have hc' : startsCompound (c :: (rest ++ v)) = false := by rw [startsCompound_append hhead, hc]
    simp [padded_alone ha hc, padded_alone ha hc', ih]
  | plain c rest ha hc ih =>
    have hc' : startsCompound (c :: (rest ++ v)) = false := by rw [startsCompound_append hhead, hc]
    simp [padded_plain ha hc, padded_plain ha hc', ih]

end StackCalc.Line
