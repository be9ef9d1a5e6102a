import StackCalc.Line.Tokens
import StackCalc.Proofs.Line.Comments
import StackCalc.Proofs.Line.Scanner
import StackCalc.Proofs.Line.Spaced

/-!
# StackCalc.Proofs.Line.Scanning — the passes and the scanner find the same tokens

Once comments and ends are gone, the three passes turn a text into one that is spaced in the tokens
of the scanner: `spaced_padded` goes along the scanner, one token at a time.  What the passes do to
the ends of a line is trimmed off later, so they may be trimmed first, as the scanner does.  Hence
the two ways from a line to its tokens agree on every line (`tokens_eq_scan`).
-/

namespace StackCalc.Line

/-! ## What the passes make of one token -/

theorem isBlank_of_mem_gap {k l : LetterKind} : ∀ c ∈ gap k l, isBlank c = true := by
  intro c hc
  cases k <;> cases l <;> simp [gap] at hc <;> rw [hc] <;> rfl

/-- A letter is never set apart as an operator. -/
theorem padded_letter {c : Char} (h : letterKind c ≠ .other) (rest : Text) (k : LetterKind) :
    padded k (c :: rest) = gap k (letterKind c) ++ c :: padded (letterKind c) rest := by
  have hop := isOperator_of_letterKind h
  exact padded_plain (by rw [standsAlone, hop]; rfl) (startsCompound_of_not_isOperator hop rest) k

/-- Behind a letter comes a space, unless a run of letters goes on. -/
theorem head?_padded {k : LetterKind} (hk : k ≠ .other) (text : Text)
    (h : k = .word → text.head?.all (!isWordLetter ·) = true) :
    (padded k text).head? = some ' ' := by
  have hgap : gap k .other = [' '] := by
    cases k with
    | other => exact absurd rfl hk
    | single | word => rfl
  cases text with
  | nil => rw [padded_nil, hgap, List.head?_cons]
  | cons c rest =>
    rcases padded_cases k c rest with ⟨more, heq⟩ | ⟨-, -, heq⟩
    · rw [heq, hgap]
      rfl
    · rw [heq]
      cases k with
      | other => exact absurd rfl hk
      | single => cases letterKind c <;> rfl
      | word =>
        have hword : letterKind c ≠ .word := by simpa [isWordLetter] using h rfl
        cases hkind : letterKind c with
        | word => exact absurd hkind hword
        | single | other => rfl

/-- A run of letters stays together. -/
theorem padded_word (text : Text) : padded .word text =
    text.takeWhile isWordLetter ++ padded .word (text.dropWhile isWordLetter) := by
  induction text with
  | nil => rfl
  | cons c rest ih =>
    by_cases hc : isWordLetter c = true
    · have hkind : letterKind c = .word := by simpa [isWordLetter] using hc
      rw [padded_letter (by rw [hkind]; decide), hkind, ih, List.takeWhile_cons_of_pos hc,
        List.dropWhile_cons_of_pos hc]
      rfl
    · rw [List.takeWhile_cons_of_neg hc, List.dropWhile_cons_of_neg hc]
      rfl

/-- A run of characters that are nothing else stays together. -/
theorem padded_spanRun (text : Text) :
    padded .other text = (spanRun text).1 ++ padded .other (spanRun text).2 := by
  induction text with
  | nil => rfl
  | cons c rest ih =>
    rw [spanRun]
    split_ifs with hends
    · rfl
    · obtain ⟨-, halpha, ha, hc⟩ := endsRun_cons_eq_false_iff.1 (by simpa using hends)
      rw [padded_plain ha hc, letterKind_eq_other_iff.2 halpha, ih]
      rfl

/-- Where a run ends, a blank stands once the passes are through, or nothing does. -/
theorem isBlank_head_padded {text : Text} (h : endsRun text = true) :
    (padded .other text).head?.all isBlank = true := by
  cases text with
  | nil => rfl
  | cons c rest =>
    rcases padded_cases .other c rest with ⟨more, heq⟩ | ⟨ha, hc, heq⟩
    · rw [heq]
      rfl
    · rw [heq]
      simp only [endsRun, List.head?_cons, Option.all_some, ha, hc, Bool.or_false,
        Bool.or_eq_true] at h
      rcases h with hblank | halpha
      · rw [letterKind_of_isEdge (isEdge_of_isBlank hblank)]
        exact hblank
      · have hkind : letterKind c ≠ .other := by
          rw [ne_eq, letterKind_eq_other_iff, halpha]
          decide
        cases hk : letterKind c with
        | other => exact absurd hk hkind
        | single | word => rfl

/-! ## The scanner sees through the passes -/

/-- **After the passes, a text is spaced in the tokens that the scanner finds in it.** -/
theorem spaced_padded (k : LetterKind) (text : Text) : Spaced (scanText text) (padded k text) := by
  induction text using scanText_induction generalizing k with
  | nil =>
    rw [scanText_nil, padded_nil]
    simpa using Spaced.nil.blanks (isBlank_of_mem_gap (k := k) (l := .other))
  | blank c rest hblank ih =>
    rw [scanText_blank hblank, padded_edge (isEdge_of_isBlank hblank)]
    exact (Spaced.blank hblank (ih _)).blanks isBlank_of_mem_gap
  | compound c rest hop ih =>
    rw [scanText_compound hop, padded_compound hop]
    have hw : ∀ d ∈ [c, '='], isBlank d = false := by
      rw [List.forall_mem_cons, List.forall_mem_singleton]
      exact ⟨not_isBlank_of_isEdge (isEdge_of_isOperator hop), rfl⟩
    exact (Spaced.blank rfl (.token (w := [c, '=']) (by simp) hw rfl (.blank rfl (ih _)))).blanks
      isBlank_of_mem_gap
  | lone c rest hcomp hkind ih =>
    rw [scanText_lone hcomp hkind]
    have hw : ∀ d ∈ [c], isBlank d = false := by
      rw [List.forall_mem_singleton]
      exact not_isBlank_of_lone hkind
    rcases hkind with ha | hsingle
    · rw [padded_alone ha hcomp]
      exact (Spaced.blank rfl (.token (w := [c]) (by simp) hw rfl (.blank rfl (ih _)))).blanks
        isBlank_of_mem_gap
    · rw [padded_letter (by rw [hsingle]; decide), hsingle]
      have hhead := head?_padded (k := .single) (by decide) rest (by simp)
      exact (Spaced.token (w := [c]) (by simp) hw (by rw [hhead]; rfl) (ih _)).blanks
        isBlank_of_mem_gap
  | word c rest hk ih =>
    rw [scanText_word hk, padded_letter (by rw [hk]; decide), hk, padded_word]
    have hhead : (padded .word (rest.dropWhile isWordLetter)).head? = some ' ' := by
      refine head?_padded (by decide) _ fun _ => ?_
      cases hd : (rest.dropWhile isWordLetter).head? with
      | none => rfl
      | some d =>
        have := List.head?_dropWhile_not isWordLetter rest
        rw [hd] at this
        simpa using this
    have hw : ∀ d ∈ c :: rest.takeWhile isWordLetter, isBlank d = false :=
      List.forall_mem_cons.2 ⟨not_isBlank_of_isWordLetter (isWordLetter_iff.2 hk),
        fun d hd => not_isBlank_of_isWordLetter (List.mem_takeWhile_imp hd)⟩
    exact (Spaced.token (by simp) hw (by rw [hhead]; rfl) (ih _)).blanks isBlank_of_mem_gap
  | run c rest hends ih =>
    obtain ⟨-, halpha, ha, hcomp⟩ := endsRun_cons_eq_false_iff.1 hends
    rw [scanText_run hends, padded_plain ha hcomp, letterKind_eq_other_iff.2 halpha, padded_spanRun]
    have hw : ∀ d ∈ c :: (spanRun rest).1, isBlank d = false := fun d hd =>
      ((isRun_cons_spanRun hends).1 d hd).1
    exact (Spaced.token (by simp) hw (isBlank_head_padded (endsRun_spanRun rest)) (ih _)).blanks
      isBlank_of_mem_gap

theorem flatten_scanText (text : Text) : (scanText text).flatten = text.filter (!isBlank ·) :=
  (spaced_padded .other text).flatten.trans (filter_padded .other text)

theorem trimmed_flatten_scan (line : Text) : Trimmed (scan line).flatten := by
  rw [scan, flatten_scanText]
  exact trimmed_filter (trimmed_trim _)

/-! ## The two ways agree -/

/-- The normal form of a line is its tokens with single spaces between, as the scanner finds
them. -/
theorem normalize_eq_intercalate (line : Text) :
    normalize line = [' '].intercalate (scan line) := by
  obtain ⟨u, v, hu, hv, hline⟩ := exists_ends (cutComments line)
  have hpadded : applyPasses paddings (removeComments line) =
      u ++ padded .other (strip line) ++ v := by
    rw [removeComments_eq_cutComments, hline, applyPasses_paddings, List.append_assoc,
      padded_edges_append hu, padded_append_edges hv, List.append_assoc, strip]
  calc normalize line
      = trim (collapse (u ++ padded .other (strip line) ++ v)) := by rw [normalize, hpadded]
    _ = trim (collapse (padded .other (strip line))) := by
        rw [trim_collapse, trim_append hu hv, trim_collapse]
    _ = [' '].intercalate (scan line) :=
        trim_collapse_of_spaced (spaced_padded .other _) (trimmed_flatten_scan line)

/-- Tokens are read off a normal form. -/
theorem tokens_of_normalize {line : Text} {ts : List Text}
    (h : normalize line = [' '].intercalate ts) (hne : ∀ w ∈ ts, w ≠ [])
    (hblank : ∀ w ∈ ts, ∀ c ∈ w, isBlank c = false) : tokens line = ts := by
  cases ts with
  | nil => exact if_pos h
  | cons w ts =>
    have hsome : normalize line ≠ [] := by
      intro hnil
      obtain ⟨c, w, rfl⟩ := List.exists_cons_of_ne_nil (hne w (by simp))
      rw [h, List.intercalate_cons_cons_left] at hnil
      cases hnil
    have hspace : ∀ v ∈ w :: ts, ' ' ∉ v := fun v hv hc => by cases hblank v hv ' ' hc
    rw [tokens, if_neg hsome, h, List.splitOn_intercalate ' ' hspace (by simp)]

theorem tokens_of_scan {line : Text} {ts : List Text} (h : scan line = ts) : tokens line = ts := by
  have hspaced : Spaced ts (padded .other (strip line)) := h ▸ spaced_padded .other (strip line)
  exact tokens_of_normalize (h ▸ normalize_eq_intercalate line) hspaced.ne_nil hspaced.not_isBlank

theorem spaced_tokens (line : Text) : Spaced (tokens line) (padded .other (strip line)) := by
  rw [tokens_of_scan rfl]
  exact spaced_padded .other (strip line)

theorem not_isBlank_of_mem_tokens {line token : Text} (h : token ∈ tokens line) :
    ∀ c ∈ token, isBlank c = false := (spaced_tokens line).not_isBlank token h

/-- **The passes and the scanner find the same tokens in every line.** -/
theorem tokens_eq_scan (line : Text) : tokens line = scan line := tokens_of_scan rfl

end StackCalc.Line
