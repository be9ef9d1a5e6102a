import StackCalc.Proofs.Line.Ends

/-!
# StackCalc.Proofs.Line.Spaced — texts that consist of tokens and blanks

`Spaced tokens text` says that a text consists of tokens with blanks between them, however many, and
maybe some at the ends.  Collapsing and trimming such a text leaves its tokens with single spaces
between (`trim_collapse_of_spaced`), as long as no token at an end has ends of its own to lose.
-/

namespace StackCalc.Line

/-- The text consists of the tokens, set apart by blanks. -/
inductive Spaced : List Text → Text → Prop
  | nil : Spaced [] []
  | blank {ts : List Text} {text : Text} {c : Char} (hc : isBlank c = true) (h : Spaced ts text) :
      Spaced ts (c :: text)
  | token {w : Text} {ts : List Text} {rest : Text} (hne : w ≠ [])
      (hw : ∀ c ∈ w, isBlank c = false) (hrest : rest.head?.all isBlank = true)
      (h : Spaced ts rest) : Spaced (w :: ts) (w ++ rest)

theorem isEdge_of_mem_space {p : Prop} [Decidable p] :
    ∀ c ∈ (if p then [' '] else []), isEdge c = true := by
  intro c hc
  split_ifs at hc
  · rw [List.mem_singleton.1 hc]
    rfl
  · cases hc

namespace Spaced

theorem blanks {u : Text} (hu : ∀ c ∈ u, isBlank c = true) {ts : List Text} {text : Text}
    (h : Spaced ts text) : Spaced ts (u ++ text) := by
  induction u with
  | nil => exact h
  | cons c u ih => exact .blank (hu c (by simp)) (ih fun d hd => hu d (by simp [hd]))

theorem ne_nil {ts : List Text} {text : Text} (h : Spaced ts text) : ∀ w ∈ ts, w ≠ [] := by
  induction h with
  | nil => simp
  | blank _ _ ih => exact ih
  | token hne _ _ _ ih =>
    intro w hw
    rcases List.mem_cons.1 hw with rfl | hw
    · exact hne
    · exact ih w hw

theorem not_isBlank {ts : List Text} {text : Text} (h : Spaced ts text) :
    ∀ w ∈ ts, ∀ c ∈ w, isBlank c = false := by
  induction h with
  | nil => simp
  | blank _ _ ih => exact ih
  | token _ hw _ _ ih =>
    intro v hv
    rcases List.mem_cons.1 hv with rfl | hv
    · exact hw
    · exact ih v hv

/-- The tokens hold what is no blank, in order. -/
theorem flatten {ts : List Text} {text : Text} (h : Spaced ts text) :
    ts.flatten = text.filter (!isBlank ·) := by
  induction h with
  | nil => rfl
  | blank hc _ ih => rw [ih, List.filter_cons_of_neg (by simp [hc])]
  | @token w ts rest _ hw _ _ ih =>
    have hall : w.filter (!isBlank ·) = w := List.filter_eq_self.2 fun c hc => by simp [hw c hc]
    rw [List.flatten_cons, List.filter_append, hall, ih]

/-- A spaced text, collapsed: at most a space in front, the tokens with a space between neighbours,
at most a space behind. -/
theorem collapse {ts : List Text} {text : Text} (h : Spaced ts text) :
    ∃ b : Text, (∀ c ∈ b, isEdge c = true) ∧
      collapse text =
        (if text.head?.any isBlank then [' '] else []) ++ [' '].intercalate ts ++ b := by
  induction h with
  | nil => exact ⟨[], by simp, rfl⟩
  | @blank ts text c hc _ ih =>
    obtain ⟨b, hb, hcollapse⟩ := ih
    refine ⟨b, hb, ?_⟩
    rw [Line.collapse, if_pos hc, hcollapse, List.head?_cons, Option.any_some, if_pos hc]
    split_ifs <;> rfl
  | @token w ts rest hne hw hrest h ih =>
    obtain ⟨b, hb, hcollapse⟩ := ih
    have hhead : ((w ++ rest).head?.any isBlank) = false := by
      obtain ⟨c, w, rfl⟩ := List.exists_cons_of_ne_nil hne
      exact hw c (by simp)
    rw [collapse_append_of_not_isBlank hw, hcollapse, hhead]
    cases ts with
    | nil =>
      refine ⟨(if rest.head?.any isBlank then [' '] else []) ++ b, ?_, by simp⟩
      intro c hc
      rcases List.mem_append.1 hc with hc | hc
      · exact isEdge_of_mem_space c hc
      · exact hb c hc
    | cons v ts =>
      -- another token follows, so there is a blank to collapse
      have hblank : rest.head?.any isBlank = true := by
        cases rest with
        | nil =>
          have hflat := h.flatten
          rw [List.flatten_cons, List.filter_nil, List.append_eq_nil_iff] at hflat
          exact absurd hflat.1 (h.ne_nil v (by simp))
        | cons c rest => exact hrest
      exact ⟨b, hb, by simp [hblank]⟩

end Spaced

/-! ### Tokens with single spaces between -/

theorem intercalate_append {ts us : List Text} (ht : ts ≠ []) (hu : us ≠ []) :
    [' '].intercalate (ts ++ us) = [' '].intercalate ts ++ ' ' :: [' '].intercalate us := by
  induction ts with
  | nil => exact absurd rfl ht
  | cons w ts ih =>
    cases ts with
    | nil => rw [List.singleton_append, List.intercalate_cons_of_ne_nil hu]; simp
    | cons v ts =>
      rw [List.cons_append, List.cons_append, List.intercalate_cons_cons,
        List.intercalate_cons_cons, ← List.cons_append, ih (by simp)]
      simp

theorem head?_intercalate {ts : List Text} (hne : ∀ w ∈ ts, w ≠ []) :
    ([' '].intercalate ts).head? = ts.flatten.head? := by
  cases ts with
  | nil => rfl
  | cons w ts =>
    obtain ⟨c, w, rfl⟩ := List.exists_cons_of_ne_nil (hne w (by simp))
    rw [List.intercalate_cons_cons_left]
    rfl

theorem getLast?_intercalate {ts : List Text} (hne : ∀ w ∈ ts, w ≠ []) :
    ([' '].intercalate ts).getLast? = ts.flatten.getLast? := by
  induction ts with
  | nil => rfl
  | cons w ts ih =>
    have hrest := ih fun v hv => hne v (by simp [hv])
    cases ts with
    | nil => simp
    | cons v ts =>
      have hsome : (v :: ts).flatten ≠ [] := by simp [hne v (by simp)]
      have hlast := List.getLast?_eq_some_getLast hsome
      rw [hlast] at hrest
      rw [List.intercalate_cons_cons, List.flatten_cons]
      simp only [List.getLast?_append, hrest, hlast, Option.some_or]

theorem trimmed_intercalate {ts : List Text} (hne : ∀ w ∈ ts, w ≠ []) (h : Trimmed ts.flatten) :
    Trimmed ([' '].intercalate ts) :=
  ⟨fun c hc => h.head c (head?_intercalate hne ▸ hc),
    fun c hc => h.last c (getLast?_intercalate hne ▸ hc)⟩

/-! ### Collapsing and trimming a spaced text -/

theorem trimmed_filter {text : Text} (h : Trimmed text) : Trimmed (text.filter (!isBlank ·)) := by
  have hhead (t : Text) (ht : ∀ c, t.head? = some c → isEdge c = false) (c : Char)
      (hc : (t.filter (!isBlank ·)).head? = some c) : isEdge c = false := by
    cases t with
    | nil => cases hc
    | cons d rest =>
      have hd := ht d rfl
      rw [List.filter_cons_of_pos (by simp [not_isBlank_of_isEdge hd])] at hc
      exact ht c hc
  refine ⟨hhead text h.head, fun c hc => hhead text.reverse h.reverse.head c ?_⟩
  rw [List.filter_reverse, List.head?_reverse, hc]

theorem trim_collapse_of_spaced {ts : List Text} {text : Text} (h : Spaced ts text)
    (ht : Trimmed ts.flatten) : trim (collapse text) = [' '].intercalate ts := by
  obtain ⟨b, hb, hcollapse⟩ := h.collapse
  rw [hcollapse, trim_append isEdge_of_mem_space hb,
    trim_eq_self (trimmed_intercalate h.ne_nil ht)]

end StackCalc.Line
