import Mathlib.Data.List.DropRight
import StackCalc.Line.Tokens

/-!
# StackCalc.Proofs.Line.Ends — what happens at the ends of a line

`trim` takes characters up to U+0020 off both ends of a text, and `collapse` writes each run of
blanks as one space.  Both treat a text and its reverse alike, and neither gets in the way of the
other: `trim_collapse` says that their order does not matter.
-/

namespace StackCalc.Line

/-! ### Trimmed texts -/

/-- A text that neither begins nor ends with a character up to U+0020. -/
structure Trimmed (text : Text) : Prop where
  head : ∀ c, text.head? = some c → isEdge c = false
  last : ∀ c, text.getLast? = some c → isEdge c = false

theorem Trimmed.reverse {text : Text} (h : Trimmed text) : Trimmed text.reverse :=
  ⟨fun c hc => h.last c (by simpa using hc), fun c hc => h.head c (by simpa using hc)⟩

theorem dropWhile_of_head {text : Text} (h : ∀ c, text.head? = some c → isEdge c = false) :
    text.dropWhile isEdge = text := by
  cases text with
  | nil => rfl
  | cons c rest => exact List.dropWhile_cons_of_neg (by simp [h c rfl])

theorem isEdge_head_dropWhile (text : Text) (c : Char)
    (h : (text.dropWhile isEdge).head? = some c) : isEdge c = false := by
  have := List.head?_dropWhile_not isEdge text
  rw [h] at this
  simpa using this

theorem trim_eq_self {text : Text} (h : Trimmed text) : trim text = text := by
  rw [trim, dropWhile_of_head h.head, dropWhile_of_head h.reverse.head, List.reverse_reverse]

/-- A text is trimmed once it went through `trim`. -/
theorem trimmed_trim (text : Text) : Trimmed (trim text) := by
  refine ⟨fun c hc => ?_, fun c hc => ?_⟩
  · -- dropping at the end leaves a beginning of the text, or nothing
    have hprefix : trim text <+: text.dropWhile isEdge := List.rdropWhile_prefix isEdge _
    obtain ⟨rest, hrest⟩ := hprefix
    refine isEdge_head_dropWhile text c ?_
    rw [← hrest, List.head?_append, hc]
    rfl
  · rw [trim, List.getLast?_reverse] at hc
    exact isEdge_head_dropWhile _ c hc

/-- What `trim` takes off stands at the two ends. -/
theorem exists_ends (text : Text) : ∃ u v : Text, (∀ c ∈ u, isEdge c = true) ∧
    (∀ c ∈ v, isEdge c = true) ∧ text = u ++ trim text ++ v := by
  refine ⟨text.takeWhile isEdge, (text.dropWhile isEdge).rtakeWhile isEdge,
    fun c hc => List.mem_takeWhile_imp hc, fun c hc => List.mem_rtakeWhile_imp hc, ?_⟩
  have hright : trim text ++ (text.dropWhile isEdge).rtakeWhile isEdge = text.dropWhile isEdge :=
    List.rdropWhile_append_rtakeWhile
  rw [List.append_assoc, hright, List.takeWhile_append_dropWhile]

/-- What is added at the ends is taken off again. -/
theorem trim_append {u v : Text} (hu : ∀ c ∈ u, isEdge c = true) (hv : ∀ c ∈ v, isEdge c = true)
    (text : Text) : trim (u ++ text ++ v) = trim text := by
  have hvr : ∀ c ∈ v.reverse, isEdge c = true := fun c hc => hv c (List.mem_reverse.1 hc)
  rw [trim, trim, List.append_assoc, List.dropWhile_append_of_pos hu, List.dropWhile_append]
  split
  · next hnil =>
    -- the text itself is all ends
    rw [List.isEmpty_iff] at hnil
    have : v.dropWhile isEdge = [] := List.dropWhile_eq_nil_iff.2 hv
    rw [this, hnil]
  · rw [List.reverse_append, List.dropWhile_append_of_pos hvr]

/-! ### Runs of blanks -/

theorem not_isBlank_of_isEdge {c : Char} (h : isEdge c = false) : isBlank c = false := by
  by_contra hc
  rw [isEdge_of_isBlank (by simpa using hc)] at h
  cases h

theorem collapse_cons_of_not_isBlank {c : Char} (h : isBlank c = false) (rest : Text) :
    collapse (c :: rest) = c :: collapse rest := by
  rw [collapse, h]
  rfl

theorem collapse_append_of_not_isBlank {w : Text} (h : ∀ c ∈ w, isBlank c = false) (rest : Text) :
    collapse (w ++ rest) = w ++ collapse rest := by
  induction w with
  | nil => rfl
  | cons c w ih =>
    rw [List.cons_append, collapse_cons_of_not_isBlank (h c (by simp)),
      ih fun d hd => h d (by simp [hd])]
    rfl

/-- The last character of a text is collapsed like the first. -/
theorem collapse_concat (text : Text) (c : Char) :
    collapse (text ++ [c]) =
      if isBlank c then
        if text.getLast?.any isBlank then collapse text else collapse text ++ [' ']
      else collapse text ++ [c] := by
  induction text with
  | nil => by_cases hc : isBlank c = true <;> simp [collapse, hc]
  | cons d rest ih =>
    cases rest with
    | nil => by_cases hc : isBlank c = true <;> by_cases hd : isBlank d = true <;>
        simp [collapse, hc, hd]
    | cons e rest =>
      rw [List.cons_append, collapse, ih, collapse.eq_2 d (e :: rest), List.getLast?_cons_cons]
      have hhead : (e :: rest ++ [c]).head? = (e :: rest).head? := rfl
      rw [hhead]
      split_ifs <;> rfl

theorem collapse_reverse (text : Text) : collapse text.reverse = (collapse text).reverse := by
  induction text with
  | nil => rfl
  | cons c rest ih =>
    rw [List.reverse_cons, collapse_concat, ih, List.getLast?_reverse, collapse]
    split_ifs <;> simp

theorem dropWhile_collapse (text : Text) :
    (collapse text).dropWhile isEdge = collapse (text.dropWhile isEdge) := by
  induction text with
  | nil => rfl
  | cons c rest ih =>
    by_cases hb : isBlank c = true
    · have hedge := isEdge_of_isBlank hb
      rw [collapse, if_pos hb, List.dropWhile_cons_of_pos hedge, ← ih]
      split_ifs
      · rfl
      · exact List.dropWhile_cons_of_pos (by rfl)
    · rw [Bool.not_eq_true] at hb
      rw [collapse_cons_of_not_isBlank hb, List.dropWhile_cons, List.dropWhile_cons, ih]
      split_ifs
      · rfl
      · rw [collapse_cons_of_not_isBlank hb]

/-- **Trimming and collapsing commute.** -/
theorem trim_collapse (text : Text) : trim (collapse text) = collapse (trim text) := by
  calc trim (collapse text)
      = ((collapse (text.dropWhile isEdge)).reverse.dropWhile isEdge).reverse := by
        rw [trim, dropWhile_collapse]
    _ = (collapse ((text.dropWhile isEdge).reverse.dropWhile isEdge)).reverse := by
        rw [← collapse_reverse, dropWhile_collapse]
    _ = collapse (trim text) := by rw [← collapse_reverse, trim]

end StackCalc.Line
