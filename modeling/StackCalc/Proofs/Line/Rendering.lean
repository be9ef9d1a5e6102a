import StackCalc.Line.Scan
import StackCalc.Proofs.Line.Scanning

/-!
# StackCalc.Proofs.Line.Rendering — tokens written out are read back

Well-formed tokens keep their shape between blanks: the scanner cuts a well-formed token off
whatever text goes on with a blank behind it (`scanText_append`).  So the tokens of a `Normal` list,
written out with single spaces between, are the tokens of the line that comes of it
(`tokens_intercalate`).
-/

namespace StackCalc.Line

/-! ### A run in front of a blank -/

theorem head?_ne_of_isBlank {rest : Text} (hrest : rest.head?.all isBlank = true) :
    rest.head? ≠ some '=' := by
  intro h
  rw [h] at hrest
  cases hrest

theorem IsRun.tail {c : Char} {w : Text} (h : IsRun (c :: w)) : IsRun w :=
  ⟨fun d hd => h.1 d (by simp [hd]),
    fun hfound => h.2 (hfound.trans (List.suffix_cons c w).isInfix)⟩

/-- Nothing within a run ends it. -/
theorem IsRun.endsRun_append {c : Char} {w rest : Text} (h : IsRun (c :: w))
    (hrest : rest.head?.all isBlank = true) : endsRun (c :: (w ++ rest)) = false := by
  obtain ⟨hblank, halpha, ha⟩ := h.1 c (by simp)
  have hcomp : startsCompound (c :: (w ++ rest)) = false := by
    by_contra hc
    rw [Bool.not_eq_false] at hc
    obtain ⟨hop, more, hmore⟩ := startsCompound_cons_iff.1 hc
    -- an operator that does not stand alone is the minus, and `=` would follow within the run
    have hminus : c = '-' := by simpa [standsAlone, hop] using ha
    cases w with
    | nil =>
      rw [List.nil_append] at hmore
      exact head?_ne_of_isBlank hrest (by rw [hmore, List.head?_cons])
    | cons d w =>
      obtain ⟨rfl, -⟩ := List.cons_eq_cons.1 hmore
      exact h.2 ⟨[], w, by rw [hminus]; rfl⟩
  exact endsRun_cons_eq_false_iff.2 ⟨hblank, halpha, ha, hcomp⟩

theorem spanRun_of_isBlank {rest : Text} (hrest : rest.head?.all isBlank = true) :
    spanRun rest = ([], rest) := by
  cases rest with
  | nil => rfl
  | cons c rest =>
    have hc : isBlank c = true := hrest
    rw [spanRun, if_pos (by simp [endsRun, hc])]

theorem spanRun_append {w rest : Text} (hw : IsRun w) (hrest : rest.head?.all isBlank = true) :
    spanRun (w ++ rest) = (w, rest) := by
  induction w with
  | nil => exact spanRun_of_isBlank hrest
  | cons c w ih =>
    rw [List.cons_append, spanRun, if_neg (by simp [hw.endsRun_append hrest]), ih hw.tail]

/-! ### Well-formed tokens -/

/-- **A well-formed token with a blank behind it** is cut off as it is. -/
theorem scanText_append {w rest : Text} (hw : WellFormed w)
    (hrest : rest.head?.all isBlank = true) : scanText (w ++ rest) = w :: scanText rest := by
  have hlone (c : Char) : startsCompound (c :: rest) = false := by
    simp [startsCompound_cons, head?_ne_of_isBlank hrest]
  obtain ⟨hne, ⟨c, ha, rfl⟩ | ⟨c, hop, rfl⟩ | ⟨c, hs, rfl⟩ | hword | hrun⟩ := hw
  · exact scanText_lone (hlone c) (.inl ha)
  · exact scanText_compound hop rest
  · exact scanText_lone (hlone c) (.inr hs)
  · obtain ⟨c, w, rfl⟩ := List.exists_cons_of_ne_nil hne
    have hc : letterKind c = .word := isWordLetter_iff.1 (hword c (by simp))
    have hall : ∀ d ∈ w, isWordLetter d = true := fun d hd => hword d (by simp [hd])
    have hstop : ∀ d, rest.head? = some d → ¬ isWordLetter d = true := by
      intro d hd
      rw [hd] at hrest
      rw [not_isWordLetter_of_isBlank hrest]
      decide
    have htake : rest.takeWhile isWordLetter = [] := by
      cases rest with
      | nil => rfl
      | cons d rest => exact List.takeWhile_cons_of_neg (hstop d rfl)
    have hdrop : rest.dropWhile isWordLetter = rest := by
      cases rest with
      | nil => rfl
      | cons d rest => exact List.dropWhile_cons_of_neg (hstop d rfl)
    rw [List.cons_append, scanText_word hc, List.takeWhile_append_of_pos hall,
      List.dropWhile_append_of_pos hall, htake, hdrop, List.append_nil]
  · obtain ⟨c, w, rfl⟩ := List.exists_cons_of_ne_nil hne
    rw [List.cons_append, scanText_run (hrun.endsRun_append hrest), spanRun_append hrun.tail hrest]

theorem scanText_intercalate {ts : List Text} (h : ∀ w ∈ ts, WellFormed w) :
    scanText ([' '].intercalate ts) = ts := by
  induction ts with
  | nil => rw [List.intercalate_nil, scanText_nil]
  | cons w ts ih =>
    have hrest := ih fun v hv => h v (by simp [hv])
    cases ts with
    | nil =>
      have hlast : scanText (w ++ []) = w :: scanText [] := scanText_append (h w (by simp)) rfl
      rw [List.append_nil, scanText_nil] at hlast
      rw [List.intercalate_singleton, hlast]
    | cons v ts =>
      rw [List.intercalate_cons_cons, List.append_assoc, scanText_append (h w (by simp)) rfl,
        List.singleton_append, scanText_blank rfl, hrest]

theorem count_intercalate (ts : List Text) :
    ([' '].intercalate ts).count '#' = ts.flatten.count '#' := by
  induction ts with
  | nil => rfl
  | cons w ts ih =>
    cases ts with
    | nil => simp
    | cons v ts =>
      rw [List.intercalate_cons_cons, List.flatten_cons, List.count_append, List.count_append, ih,
        List.count_append]
      rfl

/-- Well-formed tokens without marks and without characters that are trimmed. -/
theorem normal_of_plain {ts : List Text} (hwf : ∀ w ∈ ts, WellFormed w)
    (hplain : ∀ c ∈ ts.flatten, isEdge c = false ∧ c ≠ '#') : Normal ts := by
  refine ⟨hwf, fun c hc => ?_, fun c hc => ?_, ?_⟩
  · exact (hplain c (List.mem_of_head? hc)).1
  · exact (hplain c (List.mem_of_getLast? hc)).1
  · have hmark : '#' ∉ ts.flatten := fun h => (hplain '#' h).2 rfl
    rw [List.count_eq_zero_of_not_mem hmark]
    decide

/-- **Tokens written out are read back**, where no comment and no ends get in the way. -/
theorem tokens_intercalate {ts : List Text} (h : Normal ts) :
    tokens ([' '].intercalate ts) = ts := by
  obtain ⟨hwf, hhead, hlast, hcount⟩ := h
  have hcut : cutComments ([' '].intercalate ts) = [' '].intercalate ts := by
    rw [← removeComments_eq_cutComments]
    exact removeComments_of_count_le (count_intercalate ts ▸ hcount)
  have hne : ∀ w ∈ ts, w ≠ [] := fun w hw => (hwf w hw).1
  have htrim : trim ([' '].intercalate ts) = [' '].intercalate ts :=
    trim_eq_self (trimmed_intercalate hne ⟨hhead, hlast⟩)
  apply tokens_of_scan
  rw [scan, strip, hcut, htrim, scanText_intercalate hwf]

end StackCalc.Line
